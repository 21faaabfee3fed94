import MarketBoard.Text.Cluster

/-!
The look of a cell.

* `Marks`: bold, underlined and reversed, each set or not.
* `Style`: what drawing changes in a cell: it may set colours, add marks and take marks away.
* `Style.patch`: a style over another one.
* `Cell`: a cluster with its look; `Cell.blank` is the plain blank.
-/

namespace MarketBoard

/-- The colours in use; `reset` is the terminal's own. -/
inductive Color where
  | reset | red | white | green | yellow
deriving DecidableEq, Repr, Inhabited

/-- The marks of a cell. -/
structure Marks where
  bold : Bool := false
  underlined : Bool := false
  reversed : Bool := false
deriving DecidableEq, Repr, Inhabited

namespace Marks

/-- The marks of either. -/
def union (a b : Marks) : Marks :=
  ⟨a.bold || b.bold, a.underlined || b.underlined, a.reversed || b.reversed⟩

/-- The marks of the first that the second does not have. -/
def without (a b : Marks) : Marks :=
  ⟨a.bold && !b.bold, a.underlined && !b.underlined, a.reversed && !b.reversed⟩

end Marks

/-- A change of look. -/
structure Style where
  fg : Option Color := none
  bg : Option Color := none
  adds : Marks := {}
  removes : Marks := {}
deriving DecidableEq, Repr, Inhabited

namespace Style

/-- Changes nothing. -/
def plain : Style := {}

/-- The style that does what the first does, and then what the second does. -/
def patch (a b : Style) : Style where
  fg := b.fg.or a.fg
  bg := b.bg.or a.bg
  adds := (a.adds.without b.removes).union b.adds
  removes := (a.removes.without b.adds).union b.removes

end Style

/-- One cell of a line. -/
structure Cell where
  symbol : Cluster := [' ']
  fg : Color := .reset
  bg : Color := .reset
  marks : Marks := {}
deriving DecidableEq, Repr, Inhabited

namespace Cell

/-- A blank in the terminal's own colours, without marks. -/
def blank : Cell := {}

/-- The cell in a new style. -/
def styled (c : Cell) (s : Style) : Cell :=
  { c with
    fg := s.fg.getD c.fg
    bg := s.bg.getD c.bg
    marks := (c.marks.union s.adds).without s.removes }

/-- The cell with another symbol and the same look. -/
def withSymbol (c : Cell) (k : Cluster) : Cell := { c with symbol := k }

/-- A style that changes nothing changes nothing. -/
@[simp] theorem styled_plain (c : Cell) : c.styled .plain = c := by
  simp [styled, Style.plain, Marks.union, Marks.without]

/-- The look of a cell does not touch its symbol. -/
@[simp] theorem symbol_styled (c : Cell) (s : Style) : (c.styled s).symbol = c.symbol := rfl

end Cell

end MarketBoard

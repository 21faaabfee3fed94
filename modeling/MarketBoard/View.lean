import MarketBoard.Instrument.Basic

/-!
What the user looks at: the cursor, the order of the table, the depth box, and the part of the table
that is in sight.

* `Overlay`: the life of the depth box.
* `View`: cursor, order, depth box, size of the screen, count of messages and the last failure.
* `View.bodyHeight`, `View.topRow`: the window of rows that is in sight.
-/

namespace MarketBoard

/-- The order that the user chose for the table. -/
inductive SortOrder where
  | arrival | ascending | descending
deriving DecidableEq, Repr, Inhabited

/-- The depth box. -/
inductive Overlay where
  | hidden
  /-- A request for the book of this instrument is on its way. -/
  | pending (key : Key)
  | shown (key : Key) (book : Book)
  | failed (key : Key) (reason : String)
deriving DecidableEq, Repr, Inhabited

namespace Overlay

/-- The box is open, whatever is in it. -/
def isOpen : Overlay → Bool
  | hidden => false
  | _ => true

/-- The instrument whose depth the box is about. -/
def key? : Overlay → Option Key
  | hidden => none
  | pending key => some key
  | shown key _ => some key
  | failed key _ => some key

end Overlay

/-- What the user looks at. -/
structure View where
  /-- The row of the cursor. -/
  row : Nat := firstRow
  /-- The column of the cursor. -/
  column : Nat := 0
  sort : SortOrder := .arrival
  overlay : Overlay := .hidden
  width : Nat
  height : Nat
  /-- The number of messages that were applied. Counters of 64 bits hold it below `2 ^ 64`; here it has
  no bound and does not overflow. -/
  messages : Nat := 0
  /-- The last failure, in words. -/
  lastError : Option String := none
deriving DecidableEq, Repr, Inhabited

namespace View

/-- The view of a new board on a screen of the given size. -/
def ofSize (width height : Nat) : View := { width, height }

/-- The lines between the header and the status; there is always one. -/
def bodyHeight (v : View) : Nat := max (v.height - 2) 1

/-- The first row in sight: the first of all, or such that the row of the cursor is the last one in
sight. -/
def topRow (v : View) : Nat :=
  if firstRow + v.bodyHeight ≤ v.row then v.row + 1 - v.bodyHeight else firstRow

end View

end MarketBoard

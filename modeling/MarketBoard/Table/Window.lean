import MarketBoard.Screen.Grid
import MarketBoard.Table.DepthBox

/-!
The frame that is put together for the screen, line by line.

* `Window`: what a frame shows: the lines of the pad from a row on, the status, and the depth box.
* `Window.compose`: the frame, laid over what was there before: the header on the first line, rows of
  the pad below it, the status on the last line, and the box over all of them.
* `Window.canCompose`: the box, if there is one, can be given a place.
-/

namespace MarketBoard

/-- What a frame shows. -/
structure Window where
  /-- The lines of the table, the header first. -/
  pad : List Line
  /-- The first row in sight. -/
  top : Nat
  status : List Char
  box : Option DepthBox

namespace Window

/-- The lines of a screen that rows take. -/
def bodyLines (height : Nat) : Nat := max (height - 2) 1

/-- The row of the pad that a line of the screen shows, if it shows one. -/
def padRow? (w : Window) (height y : Nat) : Option Nat :=
  if y = 0 then some 0
  else if y ≤ bodyLines height then some (w.top + (y - 1))
  else none

/-- A line of the screen with its row of the pad laid over it. -/
def tableLine (w : Window) (height y : Nat) (base : Line) : Line :=
  match w.padRow? height y >>= (w.pad[·]?) with
  | some line => base.cover line
  | none => base

/-- A line of the screen with the status put on the last one. A screen of one line has none. -/
def statusLine (w : Window) (height y : Nat) (base : Line) : Line :=
  if 2 ≤ height ∧ y + 1 = height then base.write 0 base.length w.status .plain else base

/-- A line of the screen with its part of a box laid over it. -/
def boxLine (b : DepthBox) (r : Rect) (y : Nat) (base : Line) : Line :=
  if r.y ≤ y ∧ y < r.y + r.height then base.splice r.x (b.line r.width r.height (y - r.y)) else base

/-- A line of the frame without the box. -/
def plainLine (w : Window) (height y : Nat) (base : Line) : Line :=
  w.statusLine height y (w.tableLine height y base)

/-- The frame without the box, over what was there before. -/
def composePlain (w : Window) (base : Grid) : Grid := base.mapLines (w.plainLine base.height)

/-- The frame can be put together: its box, if it has one, can be given a place. -/
def canCompose (w : Window) : Bool := w.box.all DepthBox.isPlaceable

/-- The frame, over what was there before. A box without a place is not laid; nobody sees such a frame
(`Canvas.stopped`). -/
def compose (w : Window) (base : Grid) : Grid :=
  match w.box with
  | none => w.composePlain base
  | some b =>
    match Rect.forRows? b.rows base.width base.height with
    | none => w.composePlain base
    | some r => (w.composePlain base).mapLines (boxLine b r)

end Window

end MarketBoard

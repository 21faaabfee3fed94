import MarketBoard.Notice
import MarketBoard.Screen.Terminal
import MarketBoard.Store
import MarketBoard.Table.Window

/-!
The table as it is drawn: a pad with a line for every row, and the terminal that shows a part of it.

* `Canvas`: pad, terminal, the journal of what went wrong, and whether the program has ended in a draw.
* `Canvas.drawHeader`, `Canvas.drawRow`: one line of the pad.
* `Canvas.refresh`: the part in sight, the status and the depth box sent to the terminal.
* `Canvas.redraw`: everything anew.
* Failures of the terminal are noted in the journal; they never stop the board.
-/

namespace MarketBoard

/-- The pad, the terminal and the journal. -/
structure Canvas where
  /-- A line for every row, the header's first. -/
  pad : List Line
  terminal : Terminal
  /-- What went wrong, in order. -/
  journal : List Notice := []
  /-- The program ended while a frame was put together: the lines of the depth box could not be counted.
  What is drawn from then on nobody sees. -/
  stopped : Bool := false

namespace Canvas

/-- The rows of a pad for which no number is given. -/
def defaultRows : Nat := 999

/-- A blank pad of the given number of rows. -/
def blankPad (rows : Nat) : List Line := List.replicate rows (Line.blank lineWidth)

/-- A blank canvas on a terminal; a pad has at least 2 and at most 65535 rows. -/
def ofTerminal (t : Terminal) (rows : Nat) : Canvas :=
  { pad := blankPad (min (max rows 2) 65535), terminal := t }

/-- The number of rows, the header's included. -/
def capacity (c : Canvas) : Nat := c.pad.length

/-- The cell in column `x` of a row. -/
def cell? (c : Canvas) (x row : Nat) : Option Cell := c.pad[row]? >>= (·[x]?)

/-- What a row says, without the white space at its end; nothing where there is no row. -/
def rowText (c : Canvas) (row : Nat) : List Char :=
  match c.pad[row]? with
  | some line => line.text
  | none => []

/-- Adds an event to the journal. -/
def note (c : Canvas) (n : Notice) : Canvas := { c with journal := c.journal ++ [n] }

/-- The size to go on with when the terminal does not tell its own. -/
def assumedSize : Nat × Nat := (lineWidth, 24)

/-- The size of the terminal, or the one to go on with. -/
def size (c : Canvas) : (Nat × Nat) × Canvas :=
  match c.terminal.size with
  | (.ok size, t) => (size, { c with terminal := t })
  | (.error fault, t) => (assumedSize, { c with terminal := t }.note (.sizeUnknown fault))

/-! ### The pad -/

/-- Draws the header. -/
def drawHeader (c : Canvas) (v : View) : Canvas :=
  { c with pad := c.pad.set 0 (headerLine v.column) }

/-- The pad has a row for instruments of this number. -/
def hasRow (c : Canvas) (row : Nat) : Bool := row != 0 && row < c.capacity

/-- Draws an instrument at its row, highlighted where the cursor is. With `clearing` the highlight is
left away. -/
def drawRow (c : Canvas) (i : Instrument) (v : View) (clearing : Bool) : Canvas :=
  if c.hasRow i.row then
    { c with pad := c.pad.set i.row (i.line (!clearing && i.row = v.row) v.column) }
  else c.note (.rowOutside i.row i.label c.capacity)

/-- Draws the instrument at a row; without one nothing is done. -/
def drawRowAt (c : Canvas) (row : Nat) (s : Store) (v : View) (clearing : Bool) : Canvas :=
  match s.atRow? row with
  | some i => c.drawRow i v clearing
  | none => c

/-! ### The screen -/

/-- What the screen is to show. -/
def window (c : Canvas) (v : View) (s : Store) : Window where
  pad := c.pad
  top := v.topRow
  status := (statusText v s.size).toList
  box := v.overlay.box?

/-- Sends what is in sight to the terminal. A frame that cannot be put together ends the program. -/
def refresh (c : Canvas) (v : View) (s : Store) : Canvas :=
  let w := c.window v s
  let c := { c with stopped := c.stopped || c.terminal.composes && !w.canCompose }
  match c.terminal.draw w.compose with
  | (.ok _, t) => { c with terminal := t }
  | (.error fault, t) => { c with terminal := t }.note (.frameUnsent v.topRow fault)

/-- Blanks the pad. -/
def blankAll (c : Canvas) : Canvas := { c with pad := blankPad c.capacity }

/-- Clears the terminal. -/
def clearTerminal (c : Canvas) : Canvas :=
  match c.terminal.clear with
  | (.ok _, t) => { c with terminal := t }
  | (.error fault, t) => { c with terminal := t }.note (.notCleared fault)

/-- Draws the header and all instruments. -/
def drawAll (c : Canvas) (s : Store) (v : View) : Canvas :=
  s.rows.foldl (fun c i => c.drawRow i v false) (c.drawHeader v)

/-- Draws everything anew on a blank pad and a cleared terminal. -/
def redraw (c : Canvas) (s : Store) (v : View) : Canvas :=
  (c.blankAll.clearTerminal.drawAll s v).refresh v s

/-- Follows the size of the terminal, and tells it. -/
def resize (c : Canvas) : (Nat × Nat) × Canvas :=
  match c.terminal.follow with
  | (.ok _, t) => { c with terminal := t }.size
  | (.error fault, t) => ({ c with terminal := t }.note (.notResized fault)).size

end Canvas

end MarketBoard

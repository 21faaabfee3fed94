import MarketBoard.Canvas
import MarketBoard.Command

/-!
The board: the store, the view and the canvas, changed together by one event at a time.

* `Board.receive`: a message of the feed; only its row is drawn anew.
* `Board.obey`: a command of the user; it may ask for a book or for the end (`Effect`).
* `Board.deliver`: the outcome of a request for depth; ignored unless the box waits for it.
-/

namespace MarketBoard

/-- The state of the board. -/
structure Board where
  store : Store
  view : View
  canvas : Canvas

/-- What is left to be done after a command. -/
inductive Effect where
  | quit
  /-- The book of this instrument is wanted. -/
  | fetchDepth (key : Key)
deriving DecidableEq, Repr

namespace Board

/-- A board without instruments on a canvas; the view takes the size of its terminal. -/
def ofCanvas (c : Canvas) (policy : Recoloring) : Board :=
  let ((width, height), c) := c.size
  { store := .empty policy, view := .ofSize width height, canvas := c }

/-! ### Drawing from the state -/

/-- Sends what is in sight. -/
def refresh (b : Board) : Board := { b with canvas := b.canvas.refresh b.view b.store }

/-- Draws everything anew. -/
def redraw (b : Board) : Board := { b with canvas := b.canvas.redraw b.store b.view }

/-- Draws the header. -/
def drawHeader (b : Board) : Board := { b with canvas := b.canvas.drawHeader b.view }

/-- Draws the instrument at a row. -/
def drawRowAt (b : Board) (row : Nat) (clearing : Bool) : Board :=
  { b with canvas := b.canvas.drawRowAt row b.store b.view clearing }

/-- The first drawing. -/
def start (b : Board) : Board := b.redraw

/-! ### Messages -/

/-- Applies a message and draws the row that it touched. -/
def receive (b : Board) (m : Message) : Board :=
  let (row, store) := b.store.receive m
  let b := { b with store, view := { b.view with messages := b.view.messages + 1 } }
  (b.drawRowAt row false).refresh

/-! ### Commands -/

/-- Moves the cursor to another row: the highlight is taken away there and put here, and then both
are shown at once. -/
def moveTo (b : Board) (row : Nat) : Board :=
  if row = b.view.row then b
  else
    let b := b.drawRowAt b.view.row true
    let b := { b with view := { b.view with row } }
    (b.drawRowAt b.view.row false).refresh

/-- Moves the cursor to another column. -/
def moveToColumn (b : Board) (column : Nat) : Board :=
  let b := { b with view := { b.view with column } }
  (b.drawHeader.drawRowAt b.view.row false).refresh

/-- Puts the rows in order. -/
def sort (b : Board) (descending : Bool) : Board :=
  let (_, store) := b.store.rearrange descending
  { b with
    store
    view := { b.view with sort := if descending then .descending else .ascending } }.redraw

/-- Turns the mark at the cursor. -/
def toggleMark (b : Board) : Board :=
  match b.store.turnMark b.view.row with
  | (none, _) => b
  | (some _, store) => ({ b with store }.drawRowAt b.view.row false).refresh

/-- Closes the depth box, or opens it for the instrument at the cursor and asks for its book. -/
def toggleDepth (b : Board) : Option Effect × Board :=
  if b.view.overlay.isOpen then
    (none, { b with view := { b.view with overlay := .hidden } }.redraw)
  else
    match b.store.keyAt? b.view.row with
    | none => (none, b)
    | some key =>
      (some (.fetchDepth key), { b with view := { b.view with overlay := .pending key } }.refresh)

/-- Follows the size of the terminal. -/
def resize (b : Board) : Board :=
  let ((width, height), canvas) := b.canvas.resize
  { b with canvas, view := { b.view with width, height } }.redraw

/-- Obeys a command. -/
def obey (b : Board) : Command → Option Effect × Board
  | .quit => (some .quit, b)
  | .toggleDepth => b.toggleDepth
  | .sortAscending => (none, b.sort false)
  | .sortDescending => (none, b.sort true)
  | .toggleMark => (none, b.toggleMark)
  | .up =>
    (none, if firstRow < b.view.row ∧ (b.store.atRow? (b.view.row - 1)).isSome then
      b.moveTo (b.view.row - 1) else b)
  | .down =>
    (none, if (b.store.atRow? (b.view.row + 1)).isSome then b.moveTo (b.view.row + 1) else b)
  | .top => (none, if b.store.isEmpty then b else b.moveTo firstRow)
  | .bottom =>
    (none, match b.store.lastRow? with
      | some row => b.moveTo row
      | none => b)
  | .left => (none, if 0 < b.view.column then b.moveToColumn (b.view.column - 1) else b)
  | .right =>
    (none, if b.view.column + 1 < Column.count then b.moveToColumn (b.view.column + 1) else b)
  | .resize => (none, b.resize)

/-! ### Depth -/

/-- The words that keep a failed request in sight. -/
def failureText (key : Key) (reason : String) : String := s!"{key.label}: {reason}"

/-- Delivers the outcome of a request for depth, if the box waits for this instrument. -/
def deliver (b : Board) (key : Key) (outcome : Except DepthError Book) : Board :=
  if b.view.overlay = .pending key then
    match outcome with
    | .ok book => { b with view := { b.view with overlay := .shown key book } }.refresh
    | .error cause =>
      let reason := cause.message
      { b with
        canvas := b.canvas.note (.depthFailed key cause)
        view := { b.view with
          overlay := .failed key reason
          lastError := some (failureText key reason) } }.refresh
  else b

end Board

end MarketBoard

import MarketBoard.Screen.Line

/-!
Rectangles of cells.

* `Grid.blank`: a rectangle of plain blanks.
* `Grid.mapLines`: every line changed by itself.
* `Grid.reflow`: a new shape for the same cells, which run on from line to line.
* `Grid.refresh`: what a terminal shows after it was sent the cells in which two rectangles differ.
-/

namespace MarketBoard

/-- Lines of one width, from top to bottom. -/
structure Grid where
  width : Nat
  lines : List Line
deriving DecidableEq, Repr, Inhabited

namespace Grid

/-- The number of lines. -/
def height (g : Grid) : Nat := g.lines.length

/-- Width and height. -/
def size (g : Grid) : Nat × Nat := (g.width, g.height)

/-- A rectangle of plain blanks. -/
def blank (width height : Nat) : Grid := ⟨width, List.replicate height (Line.blank width)⟩

/-- The rectangle of the same shape that holds plain blanks. -/
def cleared (g : Grid) : Grid := blank g.width g.height

/-- The cell in column `x` of line `y`. -/
def cell? (g : Grid) (x y : Nat) : Option Cell := g.lines[y]? >>= (·[x]?)

/-- Every line changed by itself, given its place from the top. -/
def mapLines (g : Grid) (f : Nat → Line → Line) : Grid := { g with lines := g.lines.mapIdx f }

/-- Lines of the given width cut off a run of cells. -/
def cut (width : Nat) : Nat → List Cell → List Line
  | 0, _ => []
  | height + 1, cells => cells.take width :: cut width height (cells.drop width)

/-- The cells in a new shape: they run on from line to line, and blanks follow the last one. -/
def reflow (g : Grid) (width height : Nat) : Grid :=
  ⟨width, cut width height (g.lines.flatten ++ List.replicate (width * height) Cell.blank)⟩

/-! ### Sending differences -/

/-- What the cells before the next one have brought about. -/
structure Carry where
  /-- The next cell is covered by a wide symbol and is not sent. -/
  covered : Bool := false
  /-- The number of cells that have to be sent, changed or not. -/
  stale : Nat := 0

/-- The next cell has to be sent. -/
def Carry.sends (k : Carry) (next previous : Cell) : Bool :=
  (next != previous || 0 < k.stale) && !k.covered

/-- What the next cell brings about in its turn. -/
def Carry.after (k : Carry) (next previous : Cell) : Carry where
  covered := 1 < next.symbol.width
  stale := max (max next.symbol.width previous.symbol.width) k.stale - 1

/-- A line of the screen after it was sent what differs between two lines. -/
def refreshLine : Carry → Line → Line → Line → Line × Carry
  | k, n :: next, p :: previous, s :: shown =>
    let (rest, last) := refreshLine (k.after n p) next previous shown
    ((if k.sends n p then n else s) :: rest, last)
  | k, _, _, shown => (shown, k)

/-- The lines of the screen after they were sent what differs between two lists of lines. -/
def refreshLines : Carry → List Line → List Line → List Line → List Line
  | k, n :: next, p :: previous, s :: shown =>
    let (line, last) := refreshLine k n p s
    line :: refreshLines last next previous shown
  | _, _, _, shown => shown

/-- The cells that are sent, each with the column and line at which it stands. -/
def sent (next previous : Grid) : List (Nat × Nat × Cell) :=
  let places := (List.range next.height).flatMap fun y => (List.range next.width).map fun x => (x, y)
  let pairs := next.lines.flatten.zip previous.lines.flatten
  ((places.zip pairs).foldl (fun (acc : Carry × List (Nat × Nat × Cell)) item =>
    let ((x, y), n, p) := item
    (acc.1.after n p, if acc.1.sends n p then (x, y, n) :: acc.2 else acc.2)) ({}, [])).2.reverse

/-- Puts one cell into a run of lines of another width. -/
def put (g : Grid) (x y : Nat) (c : Cell) : Grid :=
  ⟨g.width, cut g.width g.height (g.lines.flatten.set (y * g.width + x) c)⟩

/-- What the screen shows after it was sent the difference between the rectangle to show and the one
that was sent before. On a screen of another shape the cells go to the places that their columns and
lines have there. -/
def refresh (shown next previous : Grid) : Grid :=
  if shown.size = next.size then
    { shown with lines := refreshLines {} next.lines previous.lines shown.lines }
  else (sent next previous).foldl (fun g item => g.put item.1 item.2.1 item.2.2) shown

/-! ### Shapes -/

/-- A blank rectangle is as high as it is asked to be. -/
@[simp] theorem height_blank (width height : Nat) : (blank width height).height = height := by
  simp [blank, Grid.height]

/-- Changing lines keeps their number. -/
@[simp] theorem height_mapLines (g : Grid) (f : Nat → Line → Line) :
    (g.mapLines f).height = g.height := by
  simp [mapLines, height]

/-- Cutting gives as many lines as asked for. -/
@[simp] theorem length_cut (width height : Nat) (cells : List Cell) :
    (cut width height cells).length = height := by
  induction height generalizing cells with
  | zero => rfl
  | succ height ih => simp [cut, ih]

/-- A new shape has the height that it is given. -/
@[simp] theorem height_reflow (g : Grid) (width height : Nat) :
    (g.reflow width height).height = height := by
  simp [reflow, Grid.height]

end Grid

end MarketBoard

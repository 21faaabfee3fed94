import MarketBoard.Screen.Style
import MarketBoard.Text.Blank

/-!
Lines of cells and the text that is put into them.

* `Line.place`: clusters put into the first cells of a line, up to the first one that has no room.
* `Line.write`: text put at a column into a limited room.
* `Line.lay`: clusters put into the cells from a column on, those of no width too.
* `Line.restyle`: a new look for a stretch of cells.
* `Line.cover`, `Line.splice`: cells of another line over those of this one.
* Every operation keeps the length of the line (`length_write`, `length_restyle`, …).
-/

namespace MarketBoard

/-- Cells from left to right. -/
abbrev Line := List Cell

namespace Line

/-- A line of plain blanks. -/
def blank (width : Nat) : Line := List.replicate width Cell.blank

/-- Puts clusters into the cells from the first one on, as long as there is room. A cluster of no
width is left out. A wide cluster takes the cells that it covers, which become plain blanks; the
first cluster that does not fit ends the text. -/
def place (style : Style) : List Cluster → Nat → Line → Line
  | [], _, cells => cells
  | k :: rest, room, cells =>
    if k.width = 0 then place style rest room cells
    else if room < k.width then cells
    else
      match cells with
      | [] => []
      | c :: after =>
        (c.withSymbol k).styled style ::
          ((after.take (k.width - 1)).map (fun _ => Cell.blank) ++
            place style rest (room - k.width) (after.drop (k.width - 1)))

/-- Puts text at column `x` into at most `room` cells. -/
def write (line : Line) (x room : Nat) (text : List Char) (style : Style) : Line :=
  line.take x ++ place style (clusters text) (min room (line.length - x)) (line.drop x)

/-- Puts a cluster into the cell of column `x`; the cells that it covers become plain blanks. -/
def put (line : Line) (x : Nat) (k : Cluster) (style : Style) : Line :=
  line.mapIdx fun i c =>
    if i = x then (c.withSymbol k).styled style
    else if x < i && i < x + k.width then Cell.blank
    else c

/-- Lays clusters into the cells from column `x` on, as long as they end before column `last` or at it.
A cluster of no width goes into the cell where the next one stands, which takes its place if there is
one. -/
def lay (line : Line) (x last : Nat) (style : Style) : List Cluster → Line
  | [] => line
  | k :: rest =>
    if last < x + k.width then line
    else (line.put x k style).lay (x + k.width) last style rest

/-- Gives `width` cells from column `x` on a new look. -/
def restyle (line : Line) (x width : Nat) (style : Style) : Line :=
  line.take x ++ ((line.drop x).take width).map (·.styled style) ++ line.drop (x + width)

/-- Lays one line over another from the first cell on; the lower one shows where the upper one has
ended, and its length stays. -/
def cover (below above : Line) : Line := above.take below.length ++ below.drop above.length

/-- Lays cells over a line from column `x` on. -/
def splice (line : Line) (x : Nat) (cells : Line) : Line :=
  line.take x ++ cells ++ line.drop (x + cells.length)

/-- The symbols of all cells, one after another. -/
def symbols (line : Line) : List Char := line.flatMap Cell.symbol

/-- The symbols of the line without the white space at its end. -/
def text (line : Line) : List Char :=
  (line.symbols.reverse.dropWhile isBlank).reverse

/-! ### Lengths -/

/-- A blank line is as long as it is asked to be. -/
@[simp] theorem length_blank (width : Nat) : (blank width).length = width := by
  simp [blank]

/-- Placing text neither adds nor takes away cells. -/
@[simp] theorem length_place (style : Style) (ks : List Cluster) (room : Nat) (cells : Line) :
    (place style ks room cells).length = cells.length := by
  fun_induction place style ks room cells with
  | case1 => rfl
  | case2 _ _ _ _ _ ih => exact ih
  | case3 => rfl
  | case4 => rfl
  | case5 k rest room _ _ c after ih =>
    simp only [List.length_cons, List.length_append, List.length_map, ih, List.length_take,
      List.length_drop]
    omega

/-- Writing keeps the length of the line. -/
@[simp] theorem length_write (line : Line) (x room : Nat) (text : List Char) (style : Style) :
    (line.write x room text style).length = line.length := by
  simp only [write, List.length_append, length_place, List.length_take, List.length_drop]
  omega

/-- A cluster takes the place of others and keeps the length of the line. -/
@[simp] theorem length_put (line : Line) (x : Nat) (k : Cluster) (style : Style) :
    (line.put x k style).length = line.length := by
  simp [put]

/-- Laying keeps the length of the line. -/
@[simp] theorem length_lay (line : Line) (x last : Nat) (style : Style) (ks : List Cluster) :
    (line.lay x last style ks).length = line.length := by
  induction ks generalizing line x with
  | nil => rfl
  | cons k rest ih =>
    unfold lay
    split
    · rfl
    · rw [ih, length_put]

/-- A new look keeps the length of the line. -/
@[simp] theorem length_restyle (line : Line) (x width : Nat) (style : Style) :
    (line.restyle x width style).length = line.length := by
  simp only [restyle, List.length_append, List.length_map, List.length_take, List.length_drop]
  omega

/-- A covered line keeps its length. -/
@[simp] theorem length_cover (below above : Line) : (below.cover above).length = below.length := by
  simp only [cover, List.length_append, List.length_take, List.length_drop]
  omega

/-- Cells laid inside a line keep its length. -/
theorem length_splice {line cells : Line} {x : Nat} (h : x + cells.length ≤ line.length) :
    (line.splice x cells).length = line.length := by
  simp only [splice, List.length_append, List.length_take, List.length_drop]
  omega

end Line

end MarketBoard

import MarketBoard.Table.Row

/-!
The box that shows the depth of an instrument over the table.

* `barLength`: the length of a level's bar, in proportion to the largest quantity of its side.
* `DepthBox`: the title and the lines of both halves.
* `wantedLines?`, `DepthBox.isPlaceable`, `boxHeight?`: how high a box is, if its lines can be counted.
* `Rect.forRows?`: the place of the box on a screen: in the middle, and as high as its lines need.
* `DepthBox.line`: a line of the box, frame included.
-/

namespace MarketBoard

/-- A text with its look. -/
structure StyledText where
  text : List Char
  style : Style := .plain
deriving DecidableEq, Repr

/-! ### Levels -/

/-- The largest quantity of a side, but at least one. -/
def largestQuantity (levels : List Level) : Nat :=
  max (levels.foldl (fun m l => max m l.quantity.toNat) 0) 1

/-- The blocks of a bar: the longest bar has `longest` of them, and belongs to the largest
quantity. -/
def barLength (longest largest : Nat) (l : Level) : Nat := l.quantity.toNat * longest / largest

/-- A level in words: quantity, price, and a bar. -/
def Level.text (longest largest : Nat) (l : Level) : List Char :=
  (Decimal.ofUnits l.quantity).columnText quantityPlaces 12 ++ ' ' ::
    (Decimal.ofUnits l.price).columnText pricePlaces 14 ++ ' ' ::
    List.replicate (barLength longest largest l) '█'

/-- The colour of a side. -/
def Side.style : Side → Style
  | .bid => { fg := some .green }
  | .ask => { fg := some .red }

/-- A line for each level of a side, in the order of the levels. -/
def levelLines (levels : List Level) (side : Side) (longest : Nat) : List StyledText :=
  let largest := largestQuantity levels
  levels.map fun l => ⟨l.text longest largest, side.style⟩

/-! ### The box -/

/-- What the box shows: a title, and below it lines in a left and a right half. -/
structure DepthBox where
  title : List Char
  left : List StyledText
  right : List StyledText
deriving DecidableEq, Repr

/-- The longest bar. -/
def longestBar : Nat := 6

/-- The title of the box of an instrument. -/
def boxTitle (key : Key) : List Char := s!" {key.label} depth ".toList

/-- The box of an overlay; none if it is hidden. -/
def Overlay.box? : Overlay → Option DepthBox
  | hidden => none
  | pending key => some ⟨boxTitle key, [⟨"loading...".toList, .plain⟩], []⟩
  | failed key reason => some ⟨boxTitle key, [⟨s!"error: {reason}".toList, alert⟩], []⟩
  | shown key book =>
    some ⟨boxTitle key, levelLines (book.side .bid) .bid longestBar,
      levelLines (book.side .ask) .ask longestBar⟩

/-- The number of lines that the box wants below the titles of its halves. -/
def DepthBox.rows (b : DepthBox) : Nat := max (max b.left.length b.right.length) 1

/-- A rectangle on the screen. -/
structure Rect where
  x : Nat
  y : Nat
  width : Nat
  height : Nat
deriving DecidableEq, Repr

/-- The widest box. -/
def widestBox : Nat := lineWidth - 14

/-- The lines that rows take with frame and titles. The rows are cut to 16 bits; the sum has to fit into
them, and there is none if it does not. -/
def wantedLines? (rows : Nat) : Option Nat :=
  let lines := rows % UInt16.size + 3
  if lines < UInt16.size then some lines else none

/-- The box can be given a place: its lines can be counted. -/
def DepthBox.isPlaceable (b : DepthBox) : Bool := (wantedLines? b.rows).isSome

/-- The height of the box: all lines it wants, but two lines less than the screen has, and three lines
at the least if the screen has them. -/
def boxHeight? (rows screenHeight : Nat) : Option Nat :=
  (wantedLines? rows).map fun lines => max (min lines (screenHeight - 2)) (min 3 screenHeight)

/-- The place of a box in the middle of the screen. -/
def Rect.forRows? (rows screenWidth screenHeight : Nat) : Option Rect :=
  (boxHeight? rows screenHeight).map fun height =>
    let width := min screenWidth widestBox
    ⟨(screenWidth - width) / 2, (screenHeight - height) / 2, width, height⟩

namespace DepthBox

/-- A line of the frame: a sign at each end and others between them. -/
def edge (first middle last : Char) (width : Nat) : Line :=
  match width with
  | 0 => []
  | 1 => [{ symbol := [first] }]
  | n + 2 =>
    { symbol := [first] } :: List.replicate n { symbol := [middle] } ++ [{ symbol := [last] }]

/-- A text in a half of the box. A cluster that is wider than the half is left out. -/
def halfLine (width : Nat) (t : StyledText) : Line :=
  Line.place t.style ((clusters t.text).filter (·.width ≤ width)) width (Line.blank width)

/-- The title of a half. -/
def heading (text : String) : StyledText := ⟨text.toList, headerStyle⟩

/-- A line of a half, blank below its last text. -/
def halfLineAt (lines : List StyledText) (y width : Nat) : Line :=
  match lines[y]? with
  | some t => halfLine width t
  | none => Line.blank width

/-- A line within the frame: the left half is the wider one if they differ. -/
def innerLine (b : DepthBox) (y width : Nat) : Line :=
  let leftWidth := (width + 1) / 2
  halfLineAt (heading "BIDS" :: b.left) y leftWidth ++
    halfLineAt (heading "ASKS" :: b.right) y (width - leftWidth)

/-- The cells for the title in a box: as many as it takes, counted in 16 bits, or all between the
corners. -/
def titleRoom (b : DepthBox) (width : Nat) : Nat :=
  min (textWidth b.title % UInt16.size) (width - 2)

/-- The upper edge of the frame with the title in it. Line feeds are left out. -/
def topLine (b : DepthBox) (width : Nat) : Line :=
  let line := edge '┌' '─' '┐' width
  let room := b.titleRoom width
  if room = 0 then line else line.lay 1 (1 + room) .plain ((clusters b.title).filter (· ≠ ['\n']))

/-- A line of the box, from its top. -/
def line (b : DepthBox) (width height y : Nat) : Line :=
  if y = 0 then b.topLine width
  else if y + 1 = height then edge '└' '─' '┘' width
  else
    match width with
    | 0 => []
    | 1 => [{ symbol := ['│'] }]
    | n + 2 => { symbol := ['│'] } :: b.innerLine (y - 1) n ++ [{ symbol := ['│'] }]

/-- A line of the frame is as wide as the box. -/
@[simp] theorem length_edge (first middle last : Char) (width : Nat) :
    (edge first middle last width).length = width := by
  unfold edge
  split <;> simp

/-- A half is as wide as it is asked to be. -/
@[simp] theorem length_halfLineAt (lines : List StyledText) (y width : Nat) :
    (halfLineAt lines y width).length = width := by
  unfold halfLineAt
  split <;> simp [halfLine]

/-- The title keeps within the frame. -/
@[simp] theorem length_topLine (b : DepthBox) (width : Nat) : (b.topLine width).length = width := by
  unfold topLine
  dsimp only
  split <;> simp

/-- Every line of the box is as wide as the box. -/
@[simp] theorem length_line (b : DepthBox) (width height y : Nat) :
    (b.line width height y).length = width := by
  unfold line
  split
  · simp
  · split
    · simp
    · split
      · rfl
      · rfl
      · simp only [innerLine, List.length_append, List.length_cons, List.length_nil,
          length_halfLineAt]
        omega

end DepthBox

end MarketBoard

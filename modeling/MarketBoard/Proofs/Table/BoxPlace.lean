import MarketBoard.Canvas
import MarketBoard.Proofs.Screen.Writing
import MarketBoard.Proofs.Table.Frame

/-!
Where the depth box stands.

* `wantedLines?_eq`, `DepthBox.exists_place_iff`: which boxes have a place.
* `boxHeight?_le`, `boxHeight?_add_two_le`: the box is not higher than the screen, and leaves its first
  and its last line free from five lines on.
* `Rect.Covers`: the cells of a rectangle.
* `Line.getElem?_splice`, `Window.cell?_compose`: a frame with a box, cell by cell.
* `Canvas.box_in_place`: the box lies in the middle of the screen, and the rest of the frame is what it
  is without it.
-/

namespace MarketBoard

/-! ### The size of the box -/

/-- **The lines of a box are counted exactly**, and there are none exactly where rows, frame and titles
together leave 16 bits. -/
lemma wantedLines?_eq (rows : Nat) :
    (wantedLines? rows = none ↔ UInt16.size ≤ rows % UInt16.size + 3) ∧
      ∀ lines, wantedLines? rows = some lines → lines = rows % UInt16.size + 3 := by
  simp only [wantedLines?]
  split <;> simp_all

/-- Up to 65532 rows can be counted with frame and titles. -/
lemma wantedLines?_of_le {rows : Nat} (h : rows ≤ 65532) : wantedLines? rows = some (rows + 3) := by
  have hrows : rows % UInt16.size = rows := Nat.mod_eq_of_lt (show rows < 65536 by omega)
  rw [wantedLines?, hrows, if_pos (show rows + 3 < 65536 by omega)]

/-- A box has a place, on whatever screen, exactly if its lines can be counted. -/
lemma DepthBox.exists_place_iff (b : DepthBox) (screenWidth screenHeight : Nat) :
    (∃ r, Rect.forRows? b.rows screenWidth screenHeight = some r) ↔ b.isPlaceable = true := by
  rw [← Option.isSome_iff_exists, Rect.forRows?, boxHeight?, Option.isSome_map, Option.isSome_map,
    isPlaceable]

/-- The place of a box: as wide as the screen allows, as high as its lines need, and in the middle. -/
lemma Rect.forRows?_eq_some {rows screenWidth screenHeight : Nat} {r : Rect}
    (h : forRows? rows screenWidth screenHeight = some r) :
    r.width = min screenWidth widestBox ∧ boxHeight? rows screenHeight = some r.height ∧
      r.x = (screenWidth - r.width) / 2 ∧ r.y = (screenHeight - r.height) / 2 := by
  obtain ⟨height, hheight, rfl⟩ := Option.map_eq_some_iff.mp h
  exact ⟨rfl, hheight, rfl, rfl⟩

section Height

variable {rows screenHeight height : Nat}

/-- No box is higher than its screen. -/
lemma boxHeight?_le (h : boxHeight? rows screenHeight = some height) : height ≤ screenHeight := by
  obtain ⟨lines, -, rfl⟩ := Option.map_eq_some_iff.mp h
  omega

/-- A screen of five lines or more has a line above and a line below the box, however many rows the box
wants. -/
lemma boxHeight?_add_two_le (h : boxHeight? rows screenHeight = some height) (htall : 5 ≤ screenHeight) :
    height + 2 ≤ screenHeight := by
  obtain ⟨lines, -, rfl⟩ := Option.map_eq_some_iff.mp h
  omega

/-- A screen that has a line has one for the box. -/
lemma boxHeight?_pos (h : boxHeight? rows screenHeight = some height) (hpos : 1 ≤ screenHeight) :
    1 ≤ height := by
  obtain ⟨lines, -, rfl⟩ := Option.map_eq_some_iff.mp h
  omega

end Height

/-- The box of an overlay, if it has one, can be given a place. -/
def Overlay.isPlaceable (o : Overlay) : Bool := o.box?.all DepthBox.isPlaceable

/-- An open box has something to show. -/
lemma Overlay.exists_box?_of_isOpen {o : Overlay} (h : o.isOpen = true) : ∃ b, o.box? = some b := by
  cases o with
  | hidden => cases h
  | pending key => exact ⟨_, rfl⟩
  | shown key book => exact ⟨_, rfl⟩
  | failed key reason => exact ⟨_, rfl⟩

/-- A box without a book has one row, and one with a book has a row for each level of the longer
side. -/
lemma Overlay.isPlaceable_of_le {o : Overlay}
    (h : ∀ key book, o = .shown key book → ∀ side, (book.side side).length ≤ 65532) :
    o.isPlaceable = true := by
  cases o with
  | hidden => rfl
  | pending key => rfl
  | failed key reason => rfl
  | shown key book =>
      have hbids := h key book rfl .bid
      have hasks := h key book rfl .ask
      rw [isPlaceable, box?, Option.all_some, DepthBox.isPlaceable, wantedLines?_of_le,
        Option.isSome_some]
      simp only [DepthBox.rows, levelLines, List.length_map]
      omega

/-! ### The cells of the box -/

/-- The rectangle holds the cell in column `x` of line `y`. -/
def Rect.Covers (r : Rect) (x y : Nat) : Prop :=
  (r.x ≤ x ∧ x < r.x + r.width) ∧ r.y ≤ y ∧ y < r.y + r.height

/-- Cells that are laid over a line show there and nowhere else. -/
lemma Line.getElem?_splice {below cells : Line} {x : Nat} (h : x + cells.length ≤ below.length)
    (y : Nat) :
    (below.splice x cells)[y]? =
      if x ≤ y ∧ y < x + cells.length then cells[y - x]? else below[y]? := by
  have hhead : (below.take x).length = x := by
    rw [List.length_take]
    omega
  rw [splice]
  by_cases hbefore : y < x
  · rw [List.append_assoc, List.getElem?_append_left (by omega), List.getElem?_take, if_pos hbefore,
      if_neg (by omega)]
  · by_cases hin : y < x + cells.length
    · rw [List.getElem?_append_left (by rw [List.length_append]; omega),
        List.getElem?_append_right (by omega), hhead, if_pos ⟨by omega, hin⟩]
    · rw [List.getElem?_append_right (by rw [List.length_append]; omega), List.length_append, hhead,
        List.getElem?_drop, if_neg (by omega), Nat.add_sub_cancel' (by omega)]

namespace Window

variable {w : Window} {b : DepthBox} {base : Grid}

/-- **A frame with a box, cell by cell**: the lines of the box where it stands, and the frame without it
everywhere else. -/
lemma cell?_compose (hbase : base.IsRect) (hbox : w.box = some b) {r : Rect}
    (hplace : Rect.forRows? b.rows base.width base.height = some r) (x y : Nat) :
    (r.Covers x y → (w.compose base).cell? x y = (b.line r.width r.height (y - r.y))[x - r.x]?) ∧
      (¬ r.Covers x y → (w.compose base).cell? x y = (w.composePlain base).cell? x y) := by
  obtain ⟨-, hr, -, hry⟩ := Rect.forRows?_eq_some hplace
  have hframe : (w.compose base).cell? x y =
      (base.lines[y]? >>= fun line => (boxLine b r y (w.plainLine base.height y line))[x]?) := by
    rw [compose, hbox]
    dsimp only
    rw [hplace]
    dsimp only
    rw [Grid.cell?_mapLines, composePlain, Grid.getElem?_mapLines]
    cases base.lines[y]? <;> rfl
  have hheight : r.y + r.height ≤ base.height := by
    have := boxHeight?_le hr
    omega
  have hwidth : r.x + r.width ≤ base.width := Rect.x_add_width_le hplace
  rw [hframe, composePlain, Grid.cell?_mapLines]
  constructor
  · rintro ⟨hx, hy⟩
    have hline : y < base.lines.length := Nat.lt_of_lt_of_le hy.2 hheight
    have hlength : (w.plainLine base.height y base.lines[y]).length = base.width := by
      rw [length_plainLine, hbase _ (List.getElem_mem hline)]
    rw [List.getElem?_eq_getElem hline, Option.bind_eq_bind, Option.bind_some, boxLine, if_pos hy,
      Line.getElem?_splice, DepthBox.length_line, if_pos hx]
    rwa [DepthBox.length_line, hlength]
  · intro hout
    cases hline : base.lines[y]? with
    | none => rfl
    | some line =>
        have hlength : (w.plainLine base.height y line).length = base.width := by
          rw [length_plainLine, hbase _ (List.mem_of_getElem? hline)]
        simp only [Option.bind_eq_bind, Option.bind_some]
        rw [boxLine]
        split
        · next hy =>
          rw [Line.getElem?_splice, DepthBox.length_line, if_neg fun hx => hout ⟨hx, hy⟩]
          rwa [DepthBox.length_line, hlength]
        · rfl

end Window

/-! ### The place of the box -/

/-- **An open box stays in its place.** Its frame can be put together exactly if the box has a place, and
that is so for every box without a book and for every book with at most 65532 levels on each side. Then
the box is not larger than the screen and at most 136 cells wide, it lies on the screen, and it lies in
the middle: the margins on its two sides, and those above and below it, differ by one cell at most. Its
cells show the lines of the box, and every other cell is what it is in the frame without a box. On a
screen of five lines or more it leaves the first and the last line free. -/
theorem Canvas.box_in_place (c : Canvas) (s : Store) (v : View) (hopen : v.overlay.isOpen = true)
    {base : Grid} (hbase : base.IsRect) (hwidth : 1 ≤ base.width) (hheight : 1 ≤ base.height) :
    ∃ b, v.overlay.box? = some b ∧
      ((c.window v s).canCompose = true ↔
        ∃ r, Rect.forRows? b.rows base.width base.height = some r) ∧
      ((∀ key book, v.overlay = .shown key book → ∀ side, (book.side side).length ≤ 65532) →
        ∃ r, Rect.forRows? b.rows base.width base.height = some r) ∧
      ∀ r, Rect.forRows? b.rows base.width base.height = some r →
        let frame := (c.window v s).compose base
        let bare := (c.window { v with overlay := .hidden } s).compose base
        let right := base.width - (r.x + r.width)
        let below := base.height - (r.y + r.height)
        (1 ≤ r.width ∧ r.width ≤ base.width ∧ r.width ≤ 136) ∧
          (1 ≤ r.height ∧ r.height ≤ base.height) ∧
          r.x + r.width ≤ base.width ∧ r.y + r.height ≤ base.height ∧
          (r.x ≤ right ∧ right ≤ r.x + 1) ∧ (r.y ≤ below ∧ below ≤ r.y + 1) ∧
          (∀ x y, r.Covers x y → frame.cell? x y = (b.line r.width r.height (y - r.y))[x - r.x]?) ∧
          (∀ x y, ¬ r.Covers x y → frame.cell? x y = bare.cell? x y) ∧
          (5 ≤ base.height → ∀ x y, r.Covers x y → y ≠ 0 ∧ y + 1 ≠ base.height) := by
  obtain ⟨b, hbox⟩ := Overlay.exists_box?_of_isOpen hopen
  have hplaceable : v.overlay.isPlaceable = b.isPlaceable := by
    rw [Overlay.isPlaceable, hbox, Option.all_some]
  refine ⟨b, hbox, ?_, fun hlevels => ?_, fun r hplace => ?_⟩
  · rw [b.exists_place_iff, ← hplaceable]
    rfl
  · rw [b.exists_place_iff, ← hplaceable]
    exact Overlay.isPlaceable_of_le hlevels
  intro frame bare right below
  obtain ⟨hw, hr, hx, hy⟩ := Rect.forRows?_eq_some hplace
  have hwidest : widestBox = 136 := rfl
  have hle : r.height ≤ base.height := boxHeight?_le hr
  have hpos : 1 ≤ r.height := boxHeight?_pos hr hheight
  have hcells := Window.cell?_compose (w := c.window v s) hbase hbox hplace
  refine ⟨by omega, ⟨hpos, hle⟩, by omega, by omega, by omega, by omega, fun x y => (hcells x y).1,
    fun x y => (hcells x y).2, ?_⟩
  rintro htall x y ⟨-, hcovered⟩
  have htwo : r.height + 2 ≤ base.height := boxHeight?_add_two_le hr htall
  omega

/-- A box on a screen whose sides leave an odd number of cells on both sides: it has four of seven lines,
and the header and the status are those of the frame without it. -/
theorem Canvas.box_in_place_odd :
    let c := Canvas.ofTerminal (.ofDevice (.blank 141 7)) 3
    let s := Store.empty .trades
    let v := { View.ofSize 141 7 with overlay := .pending ⟨"A", 1⟩ }
    let base := Grid.blank 141 7
    let frame := (c.window v s).compose base
    let bare := (c.window { v with overlay := .hidden } s).compose base
    v.overlay.isOpen = true ∧ base.IsRect ∧ 1 ≤ base.width ∧ 1 ≤ base.height ∧
      (∃ b, v.overlay.box? = some b ∧ Rect.forRows? b.rows 141 7 = some ⟨2, 1, 136, 4⟩) ∧
      ∀ x, frame.cell? x 0 = bare.cell? x 0 ∧ frame.cell? x 6 = bare.cell? x 6 := by
  intro c s v base frame bare
  have hopen : v.overlay.isOpen = true := rfl
  have hbase : base.IsRect := Grid.isRect_blank _ _
  obtain ⟨b, hbox, -, -, hbody⟩ := c.box_in_place s v hopen hbase (by decide) (by decide)
  have hplace : Rect.forRows? b.rows 141 7 = some ⟨2, 1, 136, 4⟩ := by
    rw [← Option.some.inj hbox]
    decide
  obtain ⟨-, -, -, -, -, -, -, hout, hfree⟩ := hbody _ hplace
  refine ⟨hopen, hbase, by decide, by decide, ⟨b, hbox, hplace⟩, fun x => ⟨?_, ?_⟩⟩
  · exact hout x 0 fun hcovered => (hfree (by decide) x 0 hcovered).1 rfl
  · exact hout x 6 fun hcovered => (hfree (by decide) x 6 hcovered).2 rfl

end MarketBoard

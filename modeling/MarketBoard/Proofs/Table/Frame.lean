import MarketBoard.Proofs.Screen.Refresh
import MarketBoard.Table.Window

/-!
The shape of a frame.

* `Window.isRect_compose`, `Window.size_compose`: a frame has the shape of what it was laid over,
  whatever it shows.
* `Grid.cell?_mapLines`: lines that are changed one by one, cell by cell.
-/

namespace MarketBoard

namespace Grid

lemma size_mapLines (g : Grid) (f : Nat → Line → Line) : (g.mapLines f).size = g.size := by
  rw [Grid.size, Grid.size, height_mapLines]
  rfl

lemma getElem?_mapLines (g : Grid) (f : Nat → Line → Line) (y : Nat) :
    (g.mapLines f).lines[y]? = g.lines[y]?.map (f y) := by
  rw [mapLines, List.getElem?_mapIdx]

/-- A cell of a changed line. -/
lemma cell?_mapLines (g : Grid) (f : Nat → Line → Line) (x y : Nat) :
    (g.mapLines f).cell? x y = g.lines[y]? >>= fun line => (f y line)[x]? := by
  rw [cell?, getElem?_mapLines]
  cases g.lines[y]? <;> rfl

/-- Changing lines without changing their lengths keeps a rectangle. -/
lemma IsRect.mapLines {g : Grid} (h : g.IsRect) {f : Nat → Line → Line}
    (hf : ∀ y line, line.length = g.width → (f y line).length = g.width) :
    (g.mapLines f).IsRect := by
  intro line hline
  obtain ⟨y, hy, rfl⟩ := List.mem_mapIdx.mp hline
  exact hf y _ (h _ (List.getElem_mem hy))

end Grid

/-- A box lies within the width of the screen. -/
lemma Rect.x_add_width_le {rows screenWidth screenHeight : Nat} {r : Rect}
    (h : forRows? rows screenWidth screenHeight = some r) : r.x + r.width ≤ screenWidth := by
  obtain ⟨height, -, rfl⟩ := Option.map_eq_some_iff.mp h
  dsimp only
  omega

namespace Window

lemma length_plainLine (w : Window) (height y : Nat) (base : Line) :
    (w.plainLine height y base).length = base.length := by
  have htable : (w.tableLine height y base).length = base.length := by
    rw [tableLine]
    split
    · exact Line.length_cover _ _
    · rfl
  rw [plainLine, statusLine]
  split
  · rw [Line.length_write, htable]
  · exact htable

lemma length_boxLine (b : DepthBox) {r : Rect} (y : Nat) {base : Line}
    (h : r.x + r.width ≤ base.length) : (boxLine b r y base).length = base.length := by
  rw [boxLine]
  split
  · refine Line.length_splice ?_
    rw [DepthBox.length_line]
    exact h
  · rfl

/-- **The frames that are put together**: one without a box, or one with a box in its place. -/
lemma compose_cases (w : Window) (base : Grid) :
    w.compose base = w.composePlain base ∨ ∃ b r, w.box = some b ∧
      Rect.forRows? b.rows base.width base.height = some r ∧
        w.compose base = (w.composePlain base).mapLines (boxLine b r) := by
  rw [compose]
  split
  · exact .inl rfl
  · next b hbox =>
    split
    · exact .inl rfl
    · next r hplace => exact .inr ⟨b, r, hbox, hplace, rfl⟩

/-- A frame over a rectangle is a rectangle. -/
lemma isRect_compose (w : Window) {base : Grid} (h : base.IsRect) : (w.compose base).IsRect := by
  have hplain : (w.composePlain base).IsRect :=
    h.mapLines fun y line hline => by rw [length_plainLine, hline]
  obtain heq | ⟨b, r, -, hplace, heq⟩ := w.compose_cases base
  · rw [heq]
    exact hplain
  · rw [heq]
    refine hplain.mapLines fun y line hline => ?_
    have hwidth : line.length = base.width := hline
    rw [length_boxLine b y (hwidth ▸ Rect.x_add_width_le hplace)]
    exact hline

/-- A frame has the size of what it was laid over. -/
lemma size_compose (w : Window) (base : Grid) : (w.compose base).size = base.size := by
  obtain heq | ⟨b, r, -, -, heq⟩ := w.compose_cases base
  · rw [heq]
    exact Grid.size_mapLines _ _
  · rw [heq, Grid.size_mapLines]
    exact Grid.size_mapLines _ _

end Window

end MarketBoard

import MarketBoard.Screen.Grid
import Mathlib.Tactic.Lemma

/-!
Sending differences: after the cells in which a frame differs from the one before were sent, the
screen shows the frame.

* `Line.coversNext`: whether a run of cells ends in a wide symbol; the cell behind it is not sent.
* `Line.Shows`, `Grid.ShowsLines`: the screen has the cells of a frame, covered ones apart.
* `Grid.refreshLine_shows`: one line; what carries the induction is that a cell that was covered in
  the frame before counts as stale.
* `Grid.shows_refresh`: whole frames.
* `Grid.isBehindWide`, `Grid.isBehindCut`: the cells that are not sent, which are the other half of a
  wide symbol, or the first of a line in its place.
* `Grid.IsShownOn.cell?_eq`: what is shown, cell by cell.
-/

namespace MarketBoard

/-- The symbol of the cell covers the cell behind it. -/
def Cell.isWide (c : Cell) : Bool := 1 < c.symbol.width

namespace Line

/-- The cell behind a run of cells is covered: the last of them is wide. Where there is none, the
answer is the given one. -/
def coversNext (covered : Bool) (cells : Line) : Bool :=
  match cells.getLast? with
  | some c => c.isWide
  | none => covered

@[simp] lemma coversNext_nil (covered : Bool) : coversNext covered [] = covered := rfl

@[simp] lemma coversNext_cons (covered : Bool) (c : Cell) (cells : Line) :
    coversNext covered (c :: cells) = coversNext c.isWide cells := by
  cases cells with
  | nil => rfl
  | cons d cells =>
      rw [coversNext, coversNext, List.getLast?_cons_cons,
        List.getLast?_eq_some_getLast (List.cons_ne_nil d cells)]

lemma coversNext_append (covered : Bool) (a b : Line) :
    coversNext covered (a ++ b) = coversNext (coversNext covered a) b := by
  induction a generalizing covered with
  | nil => rfl
  | cons c a ih => rw [List.cons_append, coversNext_cons, coversNext_cons, ih]

/-- Whether the cell behind some cell is covered is decided by this cell. -/
lemma coversNext_take_succ (covered : Bool) {cells : Line} {x : Nat} {c : Cell}
    (h : cells[x]? = some c) : coversNext covered (cells.take (x + 1)) = c.isWide := by
  rw [List.take_add_one, h, coversNext_append]
  exact coversNext_cons _ _ _

/-- **A line is shown**: the screen has as many cells, and each that is not covered is the cell of
the line. The flag tells whether the first one is covered. -/
inductive Shows : Bool → Line → Line → Prop where
  | nil {covered : Bool} : Shows covered [] []
  | cons {covered : Bool} {c s : Cell} {line screen : Line} :
      (covered = false → s = c) → Shows c.isWide line screen →
        Shows covered (c :: line) (s :: screen)

namespace Shows

/-- A line shows itself. -/
lemma refl (covered : Bool) (line : Line) : Shows covered line line := by
  induction line generalizing covered with
  | nil => exact .nil
  | cons c line ih => exact .cons (fun _ => rfl) (ih c.isWide)

lemma length_eq {covered : Bool} {line screen : Line} (h : Shows covered line screen) :
    screen.length = line.length := by
  induction h with
  | nil => rfl
  | cons _ _ ih => rw [List.length_cons, List.length_cons, ih]

/-- A cell that is not covered is on the screen. -/
lemma getElem?_eq {covered : Bool} {cells screen : Line} (h : Shows covered cells screen) {x : Nat}
    (hx : coversNext covered (cells.take x) = false) : screen[x]? = cells[x]? := by
  induction h generalizing x with
  | nil => rfl
  | cons hc _ ih =>
      cases x with
      | zero => rw [List.getElem?_cons_zero, List.getElem?_cons_zero, hc (by simpa using hx)]
      | succ x => exact ih (by simpa using hx)

end Shows

end Line

namespace Grid

open Line

/-! ### One line -/

/-- **Sending a line shows it**, given that the screen showed the line before. A cell that is left
out although it is not covered is the same in both lines, and it was not covered in the one before:
the wide symbol that would have covered it would have made it stale. -/
lemma refreshLine_shows {was : Bool} {previous screen : Line} (h : Shows was previous screen) :
    ∀ (k : Carry) (next : Line), next.length = previous.length → (was = true → 0 < k.stale) →
      Shows k.covered next (refreshLine k next previous screen).1 ∧
      (refreshLine k next previous screen).2.covered = coversNext k.covered next ∧
      (coversNext was previous = true → 0 < (refreshLine k next previous screen).2.stale) := by
  induction h with
  | @nil was =>
      intro k next hlen hstale
      obtain rfl := List.eq_nil_of_length_eq_zero hlen
      exact ⟨.nil, rfl, hstale⟩
  | @cons was p s previous screen hs _ ih =>
      intro k next hlen hstale
      obtain ⟨n, next, rfl⟩ := List.exists_cons_of_length_eq_add_one hlen
      have hafter : p.isWide = true → 0 < (k.after n p).stale := by
        simp only [Cell.isWide, Carry.after, decide_eq_true_eq]
        omega
      obtain ⟨hshows, hcovered, hcarry⟩ :=
        ih (k.after n p) next (by simpa using hlen) hafter
      refine ⟨.cons (fun hk => ?_) hshows, ?_, ?_⟩
      · by_cases hsend : k.sends n p = true
        · simp [hsend]
        · simp only [Carry.sends, hk, Bool.not_false, Bool.and_true, Bool.or_eq_true, bne_iff_ne,
            decide_eq_true_eq, not_or, Decidable.not_not] at hsend
          have hwas : was = false := by
            cases was with
            | false => rfl
            | true => exact absurd (hstale rfl) hsend.2
          simp [Carry.sends, hk, hsend.1, hsend.2, hs hwas]
      · rw [coversNext_cons]
        exact hcovered
      · rw [coversNext_cons]
        exact hcarry

/-! ### Whole frames -/

/-- **Lines are shown**: the screen has as many lines and shows each, the cells running on from line
to line. -/
inductive ShowsLines : Bool → List Line → List Line → Prop where
  | nil {covered : Bool} : ShowsLines covered [] []
  | cons {covered : Bool} {line screenLine : Line} {lines screen : List Line} :
      Shows covered line screenLine → ShowsLines (coversNext covered line) lines screen →
        ShowsLines covered (line :: lines) (screenLine :: screen)

lemma ShowsLines.refl (covered : Bool) (lines : List Line) : ShowsLines covered lines lines := by
  induction lines generalizing covered with
  | nil => exact .nil
  | cons line lines ih => exact .cons (.refl covered line) (ih _)

lemma ShowsLines.length_eq {covered : Bool} {lines screen : List Line}
    (h : ShowsLines covered lines screen) : screen.length = lines.length := by
  induction h with
  | nil => rfl
  | cons _ _ ih => rw [List.length_cons, List.length_cons, ih]

/-- Sending lines shows them, given that the screen showed as many lines of the same lengths. -/
lemma refreshLines_shows {was : Bool} {previous screen : List Line}
    (h : ShowsLines was previous screen) :
    ∀ (k : Carry) (next : List Line), next.map List.length = previous.map List.length →
      (was = true → 0 < k.stale) →
        ShowsLines k.covered next (refreshLines k next previous screen) := by
  induction h with
  | nil =>
      intro k next hlen _
      obtain rfl := List.map_eq_nil_iff.mp hlen
      exact .nil
  | @cons was p s previous screen hline _ ih =>
      intro k next hlen hstale
      obtain ⟨n, next, rfl, hn, hnext⟩ := List.map_eq_cons_iff.mp hlen
      obtain ⟨hshows, hcovered, hcarry⟩ := refreshLine_shows hline k n hn hstale
      refine .cons hshows ?_
      rw [← hcovered]
      exact ih _ next hnext hcarry

/-- Every line is as wide as the rectangle. -/
def IsRect (g : Grid) : Prop := ∀ line ∈ g.lines, line.length = g.width

lemma isRect_blank (width height : Nat) : (blank width height).IsRect := by
  intro line hline
  rw [(List.mem_replicate.mp hline).2, Line.length_blank]
  rfl

/-- The lengths of the lines of a rectangle follow from its size. -/
lemma IsRect.map_length {g : Grid} (h : g.IsRect) :
    g.lines.map List.length = List.replicate g.size.2 g.size.1 := by
  refine List.eq_replicate_iff.mpr ⟨by simp [Grid.size, Grid.height], fun n hn => ?_⟩
  obtain ⟨line, hline, rfl⟩ := List.mem_map.mp hn
  exact h line hline

/-- The screen shows a frame: it has its size and its cells, covered ones apart. -/
structure IsShownOn (frame screen : Grid) : Prop where
  size : screen.size = frame.size
  shows : ShowsLines false frame.lines screen.lines

/-- A frame is shown on a screen that is like it. -/
lemma IsShownOn.refl (g : Grid) : g.IsShownOn g := ⟨rfl, .refl _ _⟩

/-- **Sending the difference shows the frame**, given that the screen showed the frame before. -/
lemma shows_refresh {previous screen next : Grid} (h : previous.IsShownOn screen)
    (hprevious : previous.IsRect) (hnext : next.IsRect) (hsize : next.size = previous.size) :
    next.IsShownOn (screen.refresh next previous) := by
  have hlines : ShowsLines false next.lines (refreshLines {} next.lines previous.lines screen.lines) :=
    refreshLines_shows h.shows {} next.lines
      (by rw [hnext.map_length, hprevious.map_length, hsize]) (fun hf => absurd hf (by simp))
  have hscreen : screen.size = next.size := h.size.trans hsize.symm
  rw [refresh, if_pos hscreen]
  refine ⟨?_, hlines⟩
  have hwidth : screen.width = next.width := congrArg Prod.fst hscreen
  simp [Grid.size, Grid.height, hwidth, hlines.length_eq]

/-! ### Cell by cell -/

/-- The cell in column `x` of line `y` is the other half of a wide symbol in the column before. -/
def isBehindWide (g : Grid) (x y : Nat) : Bool :=
  0 < x && (g.cell? (x - 1) y).any Cell.isWide

/-- The cell in column `x` of line `y` is the first of its line, and the line before ends in a wide
symbol whose other half was cut off. The cells run on from line to line, so this cell stands in the
place of the other half. -/
def isBehindCut (g : Grid) (x y : Nat) : Bool :=
  x = 0 && 0 < y && (g.cell? (g.width - 1) (y - 1)).any Cell.isWide

/-- The cell in column `x` of line `y` is not sent: it is the other half of a wide symbol, or it stands
in the place of one that was cut off. -/
def isCovered (g : Grid) (x y : Nat) : Bool := g.isBehindWide x y || g.isBehindCut x y

/-- The cells of a rectangle are those within its width and its height. -/
lemma IsRect.exists_cell {g : Grid} (h : g.IsRect) {x y : Nat} (hx : x < g.width)
    (hy : y < g.height) : ∃ cells c, g.lines[y]? = some cells ∧ cells[x]? = some c := by
  have hy' : y < g.lines.length := hy
  have hlength : x < g.lines[y].length := by rwa [h _ (List.getElem_mem hy')]
  exact ⟨_, _, List.getElem?_eq_getElem hy', List.getElem?_eq_getElem hlength⟩

/-- There are no cells of a rectangle beyond its width and its height. -/
lemma IsRect.cell?_eq_none {g : Grid} (h : g.IsRect) {x y : Nat}
    (hxy : ¬ (x < g.width ∧ y < g.height)) : g.cell? x y = none := by
  rw [cell?]
  cases hline : g.lines[y]? with
  | none => rfl
  | some line =>
      have hy : y < g.height := (List.getElem?_eq_some_iff.mp hline).1
      have hx : line.length ≤ x := by
        rw [h line (List.mem_of_getElem? hline)]
        exact Nat.not_lt.mp fun hx => hxy ⟨hx, hy⟩
      exact List.getElem?_eq_none hx

/-- **What the cells before it say of a cell of a rectangle**: in the first column the last cell of the
line before decides, and otherwise the column before. -/
lemma IsRect.coversNext_eq {g : Grid} (h : g.IsRect) {x y : Nat} (hx : x < g.width)
    (hy : y < g.height) :
    coversNext false ((g.lines.take y).flatten ++ (g.lines[y]?.getD []).take x) =
      g.isCovered x y := by
  cases x with
  | succ x =>
      obtain ⟨line, c, hline, hc⟩ := h.exists_cell (Nat.lt_of_succ_lt hx) hy
      rw [hline, Option.getD_some, coversNext_append, coversNext_take_succ _ hc]
      simp [isCovered, isBehindWide, isBehindCut, cell?, hline, hc]
  | zero =>
      cases y with
      | zero => rfl
      | succ y =>
          obtain ⟨line, c, hline, hc⟩ := h.exists_cell (Nat.sub_one_lt_of_lt hx)
            (Nat.lt_of_succ_lt hy)
          have hlast : line.take (g.width - 1 + 1) = line := by
            rw [Nat.sub_add_cancel hx, List.take_of_length_le]
            exact Nat.le_of_eq (h line (List.mem_of_getElem? hline))
          have htake : (g.lines.take (y + 1)).flatten = (g.lines.take y).flatten ++ line := by
            rw [List.take_add_one, hline, List.flatten_append]
            simp
          have hcovers := coversNext_take_succ (coversNext false (g.lines.take y).flatten) hc
          rw [hlast] at hcovers
          rw [List.take_zero, List.append_nil, htake, coversNext_append, hcovers]
          simp [isCovered, isBehindWide, isBehindCut, cell?, hline, hc]

lemma ShowsLines.cell?_eq {covered : Bool} {lines screen : List Line}
    (h : ShowsLines covered lines screen) {x y : Nat}
    (hxy : coversNext covered ((lines.take y).flatten ++ (lines[y]?.getD []).take x) = false) :
    (screen[y]? >>= (·[x]?)) = lines[y]? >>= (·[x]?) := by
  induction h generalizing y with
  | nil => rfl
  | cons hline _ ih =>
      cases y with
      | zero => exact hline.getElem?_eq (by simpa using hxy)
      | succ y =>
          refine ih ?_
          simpa [coversNext_append] using hxy

lemma ShowsLines.map_length {covered : Bool} {lines screen : List Line}
    (h : ShowsLines covered lines screen) : screen.map List.length = lines.map List.length := by
  induction h with
  | nil => rfl
  | cons hline _ ih => rw [List.map_cons, List.map_cons, hline.length_eq, ih]

/-- The screen on which a rectangle is shown is a rectangle. -/
lemma IsShownOn.isRect {frame screen : Grid} (h : frame.IsShownOn screen) (hrect : frame.IsRect) :
    screen.IsRect := by
  intro line hline
  have hwidth : screen.width = frame.width := congrArg Prod.fst h.size
  have hmem : line.length ∈ frame.lines.map List.length :=
    h.shows.map_length ▸ List.mem_map_of_mem hline
  obtain ⟨line', hline', hlength⟩ := List.mem_map.mp hmem
  rw [hwidth, ← hlength, hrect line' hline']

/-- **Every cell of a shown frame that is sent is on the screen.** -/
lemma IsShownOn.cell?_eq {frame screen : Grid} (h : frame.IsShownOn screen) (hrect : frame.IsRect)
    {x y : Nat} (hxy : frame.isCovered x y = false) : screen.cell? x y = frame.cell? x y := by
  by_cases hin : x < frame.width ∧ y < frame.height
  · exact h.shows.cell?_eq ((hrect.coversNext_eq hin.1 hin.2).trans hxy)
  · have hscreen : ¬ (x < screen.width ∧ y < screen.height) := by
      have hwidth : screen.width = frame.width := congrArg Prod.fst h.size
      have hheight : screen.height = frame.height := congrArg Prod.snd h.size
      rwa [hwidth, hheight]
    rw [hrect.cell?_eq_none hin, (h.isRect hrect).cell?_eq_none hscreen]

end Grid

end MarketBoard

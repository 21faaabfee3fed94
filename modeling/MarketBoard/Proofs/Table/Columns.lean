import MarketBoard.Proofs.Screen.Writing
import MarketBoard.Table.Row
import Mathlib.Tactic.ByContra

/-!
The lines of the table, cell by cell.

* `Column.Holds`: a cell lies in a column; `Column.Holds.unique`: in no other one.
* `getElem?_columns`, `getElem?_gap`: texts written into all columns of a blank line stay in their
  columns.
* `Instrument.clustersIn`, `Instrument.HasText`: the clusters of an instrument that a column shows, and the
  cells at which they begin.
* `Instrument.textLine_cases`, `Instrument.getElem?_line`: the cells of an instrument, before and after
  the highlight and the alarm are laid over them.
* `Line.Displays`: a column of a line shows clusters and nothing else. `Instrument.displays_line`: which
  ones the columns of an instrument show.
* `getElem?_headerLine`: the cells of the header.
-/

namespace MarketBoard

namespace Column

/-- A cell lies in a column. -/
def Holds (c : Column) (x : Nat) : Prop := c.x ≤ x ∧ x < c.x + c.width

instance (c : Column) (x : Nat) : Decidable (c.Holds x) :=
  inferInstanceAs (Decidable (c.x ≤ x ∧ x < c.x + c.width))

variable {c d : Column} {x : Nat}

/-- A cell lies in one column at most. -/
lemma Holds.unique (hc : c.Holds x) (hd : d.Holds x) : c = d := by
  by_contra hne
  have := disjoint hne
  have := hc.1
  have := hc.2
  have := hd.1
  have := hd.2
  omega

lemma Holds.lt_lineWidth (h : c.Holds x) : x < lineWidth :=
  Nat.lt_of_lt_of_le h.2 (x_add_width_le c)

lemma mem_all (c : Column) : c ∈ all := by
  cases c <;> decide

lemma nodup_all : all.Nodup := by decide

end Column

/-! ### Texts in columns -/

section Columns

variable (text : Column → List Char) (style : Column → Style) {cells : Line} {x : Nat}

/-- A cell that lies in none of some columns stays as it is when these are written. -/
lemma getElem?_foldl_write_of_gap (cs : List Column) (hcells : cells.length = lineWidth)
    (hx : ∀ c ∈ cs, ¬ c.Holds x) :
    (cs.foldl (fun line c => line.write c.x c.width (text c) (style c)) cells)[x]? = cells[x]? := by
  induction cs generalizing cells with
  | nil => rfl
  | cons c cs ih =>
      have hroom : c.x + c.width ≤ cells.length := hcells ▸ c.x_add_width_le
      rw [List.foldl_cons, ih (by rw [Line.length_write, hcells])
          fun d hd => hx d (List.mem_cons_of_mem c hd),
        Line.getElem?_write_of_not_mem hroom _ _ (hx c List.mem_cons_self)]

/-- A cell of one of some columns is what the text of this column makes of it. -/
lemma getElem?_foldl_write {cs : List Column} (hcs : cs.Nodup) (hcells : cells.length = lineWidth)
    {c : Column} (hc : c ∈ cs) (hx : c.Holds x) :
    (cs.foldl (fun line c => line.write c.x c.width (text c) (style c)) cells)[x]? =
      cells[x]?.map (written (style c) (fitting c.width (clusters (text c))) (x - c.x)) := by
  induction cs generalizing cells with
  | nil => cases hc
  | cons d cs ih =>
      obtain ⟨hd, hcs⟩ := List.nodup_cons.mp hcs
      have hroom : d.x + d.width ≤ cells.length := hcells ▸ d.x_add_width_le
      have hlength : (cells.write d.x d.width (text d) (style d)).length = lineWidth := by
        rw [Line.length_write, hcells]
      rw [List.foldl_cons]
      rcases List.mem_cons.mp hc with rfl | hmem
      · -- the columns behind this one do not touch the cell
        rw [getElem?_foldl_write_of_gap text style cs hlength fun e he hholds => ?_,
          Line.getElem?_write hroom, if_neg (Nat.not_lt.mpr hx.1)]
        exact hd (hx.unique hholds ▸ he)
      · rw [ih hcs hlength hmem, Line.getElem?_write_of_not_mem hroom]
        intro hholds
        exact hd (hx.unique hholds ▸ hmem)

/-- **A column of a line shows its text.** -/
lemma getElem?_columns {c : Column} (hx : c.Holds x) :
    (Column.all.foldl (fun line c => line.write c.x c.width (text c) (style c))
        (Line.blank lineWidth))[x]? =
      some (written (style c) (fitting c.width (clusters (text c))) (x - c.x) .blank) := by
  rw [getElem?_foldl_write text style Column.nodup_all (Line.length_blank _) c.mem_all hx,
    Line.getElem?_blank hx.lt_lineWidth]
  rfl

/-- **Nothing stands between the columns.** -/
lemma getElem?_gap (hlt : x < lineWidth) (hx : ∀ c : Column, ¬ c.Holds x) :
    (Column.all.foldl (fun line c => line.write c.x c.width (text c) (style c))
        (Line.blank lineWidth))[x]? = some .blank := by
  rw [getElem?_foldl_write_of_gap text style _ (Line.length_blank _) fun c _ => hx c,
    Line.getElem?_blank hlt]

end Columns

/-- A column gets a new look. -/
lemma getElem?_restyle_column {cells : Line} (hcells : cells.length = lineWidth) (c : Column)
    (style : Style) (x : Nat) :
    (cells.restyle c.x c.width style)[x]? =
      cells[x]?.map fun cell => if c.Holds x then cell.styled style else cell := by
  rw [Line.getElem?_restyle (hcells ▸ c.x_add_width_le)]
  by_cases hx : c.Holds x
  · simp only [if_pos hx]
    exact if_pos hx
  · simp only [if_neg hx, Option.map_id']
    exact if_neg hx

/-! ### The header -/

/-- A title fills its column. -/
lemma titleText_fills (c : Column) : IsAscii c.titleText ∧ c.titleText.length = c.width := by
  cases c <;> decide

/-- **The header**: each cell of a column has a character of its title. -/
lemma getElem?_headerLine (cursor : Nat) {c : Column} {x : Nat} (hx : c.Holds x) :
    ∃ k, (headerLine cursor)[x]? =
      some ((Cell.blank.withSymbol k).styled (inColumn (c.index = cursor) headerStyle)) := by
  obtain ⟨hascii, hlength⟩ := titleText_fills c
  have hlt : x - c.x < c.titleText.length := by
    have := hx.1
    have := hx.2
    omega
  have hcluster : clusterAt? (fitting c.width (clusters c.titleText)) (x - c.x) =
      some [c.titleText[x - c.x]] := by
    rw [fitting_of_simple hascii.isSimple (Nat.le_of_eq hlength), clusterAt?_of_simple hascii.isSimple,
      List.getElem?_eq_getElem hlt]
    rfl
  exact ⟨_, (getElem?_columns _ _ hx).trans (congrArg some (written_of_some hcluster _ _))⟩

/-! ### Instruments -/

namespace Instrument

/-- The clusters of an instrument that a column shows. -/
def clustersIn (i : Instrument) (c : Column) : List Cluster := fitting c.width (clusters (i.cellText c))

/-- A cluster of the text of a column begins at a cell. -/
def HasText (i : Instrument) (c : Column) (x : Nat) : Prop :=
  c.Holds x ∧ (clusterAt? (i.clustersIn c) (x - c.x)).isSome = true

/-- **The cells of an instrument**, before the highlight and the alarm: each one has a cluster of the
text of a column, in the look of this column, or it is a plain blank. -/
lemma textLine_cases (i : Instrument) (selected : Bool) (cursor : Nat) {x : Nat} (hlt : x < lineWidth) :
    (∃ c k, i.HasText c x ∧ clusterAt? (i.clustersIn c) (x - c.x) = some k ∧
      (i.textLine selected cursor)[x]? = some ((Cell.blank.withSymbol k).styled
        (inColumn (selected && c.index = cursor) (i.cellStyle c)))) ∨
    (∀ c, ¬ i.HasText c x) ∧ (i.textLine selected cursor)[x]? = some .blank := by
  by_cases hcolumn : ∃ c : Column, c.Holds x
  · obtain ⟨c, hx⟩ := hcolumn
    have hcell : (i.textLine selected cursor)[x]? = some (written _ (i.clustersIn c) (x - c.x) .blank) :=
      getElem?_columns i.cellText _ hx
    cases hk : clusterAt? (i.clustersIn c) (x - c.x) with
    | some k =>
        exact .inl ⟨c, k, ⟨hx, by rw [hk]; rfl⟩, hk,
          hcell.trans (congrArg some (written_of_some hk _ _))⟩
    | none =>
        refine .inr ⟨fun d hd => ?_, hcell.trans (congrArg some (written_blank_of_none hk _))⟩
        obtain rfl := hx.unique hd.1
        have htext := hd.2
        rw [hk] at htext
        cases htext
  · exact .inr ⟨fun d hd => hcolumn ⟨d, hd.1⟩, getElem?_gap _ _ hlt fun c hc => hcolumn ⟨c, hc⟩⟩

/-- What the highlight and the alarm make of a cell. -/
def overlaid (i : Instrument) (selected : Bool) (x : Nat) (cell : Cell) : Cell :=
  let row := if selected then cell.styled rowHighlight else cell
  if i.isCrossed ∧ (Column.bid.Holds x ∨ Column.ask.Holds x) then row.styled alert else row

/-- They leave the symbol alone. -/
@[simp] lemma symbol_overlaid (i : Instrument) (selected : Bool) (x : Nat) (cell : Cell) :
    (i.overlaid selected x cell).symbol = cell.symbol := by
  unfold overlaid
  dsimp only
  split <;> split <;> rfl

lemma length_textLine (i : Instrument) (selected : Bool) (cursor : Nat) :
    (i.textLine selected cursor).length = lineWidth := by
  rw [textLine, length_foldl_write, Line.length_blank]

/-- **The line of an instrument**: the highlight lies over the whole line, and the alarm over the
columns of bid and ask. -/
lemma getElem?_line (i : Instrument) (selected : Bool) (cursor : Nat) {x : Nat} (hlt : x < lineWidth) :
    (i.line selected cursor)[x]? =
      (i.textLine selected cursor)[x]?.map (i.overlaid selected x) := by
  have htexts := i.length_textLine selected cursor
  have hrow : (if selected then (i.textLine selected cursor).restyle 0 lineWidth rowHighlight
      else i.textLine selected cursor)[x]? = (i.textLine selected cursor)[x]?.map
        fun cell => if selected then cell.styled rowHighlight else cell := by
    cases selected with
    | false => simp
    | true =>
        rw [if_pos rfl, Line.getElem?_restyle (by omega), if_pos (by omega)]
        rfl
  have hlength : (if selected then (i.textLine selected cursor).restyle 0 lineWidth rowHighlight
      else i.textLine selected cursor).length = lineWidth := by
    split <;> simp [htexts]
  rw [line]
  by_cases hcrossed : i.isCrossed = true
  · rw [if_pos hcrossed, getElem?_restyle_column (by rw [Line.length_restyle, hlength]),
      getElem?_restyle_column hlength, hrow, Option.map_map, Option.map_map]
    refine congrArg (Option.map · _) (funext fun cell => ?_)
    -- the two columns do not overlap, so the alarm is laid over a cell once
    have hapart : ¬ (Column.bid.Holds x ∧ Column.ask.Holds x) := fun h =>
      absurd (h.1.unique h.2) (by decide)
    by_cases hbid : Column.bid.Holds x
    · have hask : ¬ Column.ask.Holds x := fun hask => hapart ⟨hbid, hask⟩
      simp [overlaid, hcrossed, hbid, hask]
    · simp [overlaid, hcrossed, hbid]
  · rw [if_neg hcrossed, hrow]
    refine congrArg (Option.map · _) (funext fun cell => ?_)
    simp [overlaid, hcrossed]

end Instrument

/-- **A column of a line shows clusters**: each one begins at its cell, and the other cells have blanks.
None of them is without width, and the column has room for all. -/
structure Line.Displays (cells : Line) (c : Column) (shown : List Cluster) : Prop where
  symbol : ∀ x, c.Holds x → cells[x]?.map Cell.symbol = some ((clusterAt? shown (x - c.x)).getD [' '])
  width_pos : ∀ k ∈ shown, 0 < k.width
  fits : cellsOf shown ≤ c.width

/-- **The columns of an instrument** show what there is room for of their texts. -/
lemma Instrument.displays_line (i : Instrument) (selected : Bool) (cursor : Nat) (c : Column) :
    (i.line selected cursor).Displays c (i.clustersIn c) where
  symbol x hx := by
    rw [i.getElem?_line _ _ hx.lt_lineWidth, textLine, getElem?_columns _ _ hx, Option.map_some,
      Option.map_some, symbol_overlaid, clustersIn]
    cases hk : clusterAt? (fitting c.width (clusters (i.cellText c))) (x - c.x) with
    | some k =>
        rw [written_of_some hk]
        rfl
    | none =>
        rw [written_blank_of_none hk]
        rfl
  width_pos := (isCut_fitting c.width _).width_pos
  fits := (isCut_fitting c.width _).fits

end MarketBoard

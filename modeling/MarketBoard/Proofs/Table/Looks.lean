import MarketBoard.Proofs.Decimal.Rounding
import MarketBoard.Proofs.Table.Columns

/-!
The look of the cells of an instrument.

* `Instrument.IsAlarmed`: the bid is above the ask, and the cell lies in one of their columns.
* `Instrument.Looks`: what highlight, alarm and underline have to be in a cell. `Instrument.looks_line`:
  what they are in the line of the instrument.
* `exists_reversed_line_iff`: the cursor's line is highlighted, and no other line.
* `headerLine_looks`: the header is underlined in the column of the cursor.
-/

namespace MarketBoard

/-- Red on white. -/
def Cell.IsRedOnWhite (c : Cell) : Prop := c.fg = .red ∧ c.bg = .white

/-- The colour of the price of the last trade. -/
def Trend.color : Trend → Color
  | .up => .green
  | .down => .red
  | .neutral => .white

namespace Instrument

/-- The bid is above the ask, and the cell lies in one of their columns. -/
def IsAlarmed (i : Instrument) (x : Nat) : Prop :=
  i.ask.value < i.bid.value ∧ (Column.bid.Holds x ∨ Column.ask.Holds x)

/-- **The look of a cell of an instrument**, where the cursor may be in the row or not. The alarm is red
on white and not reversed, in a row with the cursor or without it. All other cells of the row of the
cursor are red on white and reversed; without the cursor they have the background of the terminal, and
the price of the last trade and the marked label have their colours. Underlined is the text in the column
of the cursor, in its row. -/
structure Looks (i : Instrument) (selected : Bool) (cursor x : Nat) (cell : Cell) : Prop where
  symbol : ∀ c : Column, c.Holds x → cell.symbol = (clusterAt? (i.clustersIn c) (x - c.x)).getD [' ']
  alarmed : i.IsAlarmed x → cell.IsRedOnWhite ∧ cell.marks.reversed = false
  highlighted : selected = true → ¬ i.IsAlarmed x → cell.IsRedOnWhite ∧ cell.marks.reversed = true
  plain : selected = false → ¬ i.IsAlarmed x → cell.bg = .reset ∧ cell.marks.reversed = false
  underlined : cell.marks.underlined = true ↔
    selected = true ∧ ∃ c : Column, c.index = cursor ∧ i.HasText c x
  last : selected = false → i.HasText .last x → cell.fg = i.trend.color
  marked : selected = false → i.HasText .ticker x → (cell.fg = .yellow ↔ i.marked = true)

/-! ### The layers -/

variable {i : Instrument} {selected : Bool} {cursor x : Nat} {cell : Cell}

lemma isAlarmed_iff :
    i.IsAlarmed x ↔ i.isCrossed = true ∧ (Column.bid.Holds x ∨ Column.ask.Holds x) := by
  rw [IsAlarmed, isCrossed, beq_iff_eq, Decimal.compare_eq_gt_iff]

/-- **The alarm** is above the highlight. -/
lemma overlaid_of_alarmed (h : i.IsAlarmed x) (selected : Bool) (cell : Cell) :
    (i.overlaid selected x cell).IsRedOnWhite ∧
      (i.overlaid selected x cell).marks.reversed = false := by
  rw [isAlarmed_iff] at h
  simp only [overlaid, if_pos h]
  exact ⟨⟨rfl, rfl⟩, Bool.and_false _⟩

/-- **The highlight** is above the look of the columns. -/
lemma overlaid_true (h : ¬ i.IsAlarmed x) (cell : Cell) :
    (i.overlaid true x cell).IsRedOnWhite ∧ (i.overlaid true x cell).marks.reversed = true := by
  rw [isAlarmed_iff] at h
  simp only [overlaid, if_neg h, if_true]
  exact ⟨⟨rfl, rfl⟩, by simp [Cell.styled, rowHighlight, Marks.union, Marks.without]⟩

/-- Where there is neither, the look of the columns shows. -/
lemma overlaid_false (h : ¬ i.IsAlarmed x) (cell : Cell) : i.overlaid false x cell = cell := by
  rw [isAlarmed_iff] at h
  simp [overlaid, if_neg h]

/-- Neither of them underlines. -/
lemma underlined_overlaid (i : Instrument) (selected : Bool) (x : Nat) (cell : Cell) :
    (i.overlaid selected x cell).marks.underlined = cell.marks.underlined := by
  unfold overlaid
  dsimp only
  split <;> split <;> simp [Cell.styled, rowHighlight, alert, Marks.union, Marks.without]

/-- The look of a column is a colour of its text, if it is anything. -/
lemma cellStyle_eq (i : Instrument) (c : Column) : i.cellStyle c = { fg := (i.cellStyle c).fg } := by
  cases c with
  | ticker =>
      rw [cellStyle]
      split <;> rfl
  | last =>
      rw [cellStyle]
      cases i.trend <;> rfl
  | _ => rfl

/-- **The text of a column** has the colour of the column; in the column of the cursor it is
underlined. -/
lemma styled_inColumn (i : Instrument) (c : Column) (k : Cluster) (atCursor : Bool) :
    let cell := (Cell.blank.withSymbol k).styled (inColumn atCursor (i.cellStyle c))
    cell.fg = (i.cellStyle c).fg.getD .reset ∧ cell.bg = .reset ∧ cell.marks.reversed = false ∧
      cell.marks.underlined = atCursor := by
  rw [cellStyle_eq]
  cases atCursor with
  | false => exact ⟨rfl, rfl, rfl, rfl⟩
  | true => exact ⟨rfl, rfl, rfl, rfl⟩

/-- The alarm is in the columns of bid and ask alone. -/
lemma not_isAlarmed_of_holds {c : Column} (hc : c.Holds x) (hbid : c ≠ .bid) (hask : c ≠ .ask) :
    ¬ i.IsAlarmed x := by
  rintro ⟨-, h | h⟩
  · exact hbid (hc.unique h)
  · exact hask (hc.unique h)

/-! ### The line of an instrument -/

/-- A cell has the right look if it has the right look before highlight and alarm are laid over it. -/
lemma looks_overlaid
    (hsymbol : ∀ c : Column, c.Holds x →
      cell.symbol = (clusterAt? (i.clustersIn c) (x - c.x)).getD [' '])
    (hplain : cell.bg = .reset ∧ cell.marks.reversed = false)
    (hunderlined : cell.marks.underlined = true ↔
      selected = true ∧ ∃ c : Column, c.index = cursor ∧ i.HasText c x)
    (hcolor : ∀ c, i.HasText c x → cell.fg = (i.cellStyle c).fg.getD .reset) :
    i.Looks selected cursor x (i.overlaid selected x cell) where
  symbol c hc := by
    rw [symbol_overlaid]
    exact hsymbol c hc
  alarmed h := overlaid_of_alarmed h _ _
  highlighted hselected h := by
    subst hselected
    exact overlaid_true h _
  plain hselected h := by
    subst hselected
    rw [overlaid_false h]
    exact hplain
  underlined := by
    rw [underlined_overlaid]
    exact hunderlined
  last hselected htext := by
    subst hselected
    rw [overlaid_false (not_isAlarmed_of_holds htext.1 (by decide) (by decide)), hcolor _ htext,
      cellStyle]
    cases i.trend <;> rfl
  marked hselected htext := by
    subst hselected
    rw [overlaid_false (not_isAlarmed_of_holds htext.1 (by decide) (by decide)), hcolor _ htext,
      cellStyle]
    cases i.marked <;> decide

/-- **The cells of an instrument have the right look.** -/
lemma looks_line (h : (i.line selected cursor)[x]? = some cell) : i.Looks selected cursor x cell := by
  have hlt : x < lineWidth := by
    rw [← i.length_line selected cursor]
    exact (List.getElem?_eq_some_iff.mp h).1
  rw [i.getElem?_line selected cursor hlt] at h
  rcases i.textLine_cases selected cursor hlt with ⟨c, k, htext, hk, hcell⟩ | ⟨hnone, hcell⟩
  · rw [hcell, Option.map_some, Option.some.injEq] at h
    obtain ⟨hfg, hbg, hreversed, hunderlined⟩ :=
      i.styled_inColumn c k (selected && decide (c.index = cursor))
    subst h
    refine looks_overlaid ?_ ⟨hbg, hreversed⟩ ?_ ?_
    · intro d hd
      obtain rfl := htext.1.unique hd
      rw [hk]
      rfl
    · rw [hunderlined, Bool.and_eq_true, decide_eq_true_eq]
      constructor
      · rintro ⟨hselected, hcursor⟩
        exact ⟨hselected, c, hcursor, htext⟩
      · rintro ⟨hselected, d, hcursor, hd⟩
        exact ⟨hselected, htext.1.unique hd.1 ▸ hcursor⟩
    · intro d hd
      rw [hfg, htext.1.unique hd.1]
  · rw [hcell, Option.map_some, Option.some.injEq] at h
    subst h
    refine looks_overlaid ?_ ⟨rfl, rfl⟩ ?_ fun c hc => absurd hc (hnone c)
    · intro c hc
      have hk : clusterAt? (i.clustersIn c) (x - c.x) = none := by
        by_contra hne
        exact hnone c ⟨hc, Option.isSome_iff_ne_none.mpr hne⟩
      rw [hk]
      rfl
    · constructor
      · intro hmark
        cases hmark
      · rintro ⟨-, c, -, htext⟩
        exact absurd htext (hnone c)

end Instrument

/-! ### Highlights -/

/-- **The line with the cursor is highlighted**, and no other one. -/
lemma exists_reversed_line_iff (i : Instrument) (selected : Bool) (cursor : Nat) :
    (∃ (x : Nat) (cell : Cell), (i.line selected cursor)[x]? = some cell ∧
        cell.marks.reversed = true) ↔
      selected = true := by
  constructor
  · rintro ⟨x, cell, hcell, hreversed⟩
    have hlooks := Instrument.looks_line hcell
    by_contra hselected
    rw [Bool.not_eq_true] at hselected
    by_cases h : i.IsAlarmed x
    · rw [(hlooks.alarmed h).2] at hreversed
      cases hreversed
    · rw [(hlooks.plain hselected h).2] at hreversed
      cases hreversed
  · intro hselected
    -- the first cell belongs to the label, which has no alarm
    have hlength : 0 < (i.line selected cursor).length := by
      rw [i.length_line]
      decide
    have hcell := List.getElem?_eq_getElem hlength
    have hlabel : ¬ i.IsAlarmed 0 :=
      Instrument.not_isAlarmed_of_holds (c := .ticker) (by decide) (by decide) (by decide)
    exact ⟨0, _, hcell, ((Instrument.looks_line hcell).highlighted hselected hlabel).2⟩

/-- **The header** is not highlighted, and underlined in the column of the cursor. -/
lemma headerLine_looks {cursor x : Nat} {cell : Cell} (h : (headerLine cursor)[x]? = some cell) :
    cell.marks.reversed = false ∧
      (cell.marks.underlined = true ↔ ∃ c : Column, c.index = cursor ∧ c.Holds x) := by
  have hlt : x < lineWidth := by
    rw [← length_headerLine cursor]
    exact (List.getElem?_eq_some_iff.mp h).1
  by_cases hcolumn : ∃ c : Column, c.Holds x
  · obtain ⟨c, hc⟩ := hcolumn
    obtain ⟨k, hcell⟩ := getElem?_headerLine cursor hc
    rw [hcell, Option.some.injEq] at h
    subst h
    have hiff : (∃ d : Column, d.index = cursor ∧ d.Holds x) ↔ c.index = cursor := by
      constructor
      · rintro ⟨d, hcursor, hd⟩
        exact hc.unique hd ▸ hcursor
      · intro hcursor
        exact ⟨c, hcursor, hc⟩
    rw [hiff, inColumn]
    by_cases hcursor : c.index = cursor
    · simp [hcursor, Cell.styled, Style.patch, headerStyle, columnHighlight, Marks.union, Marks.without,
        Cell.withSymbol, Cell.blank]
    · simp [hcursor, Cell.styled, headerStyle, Marks.union, Marks.without, Cell.withSymbol, Cell.blank]
  · have hnone : ∀ c : Column, ¬ c.Holds x := fun c hc => hcolumn ⟨c, hc⟩
    rw [headerLine, getElem?_gap _ _ hlt hnone, Option.some.injEq] at h
    subst h
    refine ⟨rfl, ?_⟩
    constructor
    · intro hmark
      cases hmark
    · rintro ⟨c, -, hc⟩
      exact absurd hc (hnone c)

end MarketBoard

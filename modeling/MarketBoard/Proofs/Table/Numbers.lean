import MarketBoard.Proofs.Canvas.Drawing
import MarketBoard.Proofs.Decimal.Numeral
import MarketBoard.Proofs.Store.Market
import MarketBoard.Proofs.Table.Columns

/-!
The numbers of the table have the right magnitude.

* `Instrument.amount?`: the number that a column shows, and its places.
* `Column.aligned`: the whole text of a number in a column, with the signs of the column.
* `Instrument.exists_fullText_eq`: the text of an instrument, before it is fitted into the column, is the
  rounded number.
* `Line.spelled`, `Instrument.spelled_line`: a text as wide as its column is read off the cells.
* `Canvas.numbers_of_run`: in the table of every run a column shows the whole number, or hash signs.
-/

namespace MarketBoard

/-! ### The texts of numbers -/

/-- The number of an instrument in a column, and its places; the first column has no number. -/
def Instrument.amount? (i : Instrument) : Column → Option (ℚ × Nat)
  | .ticker => none
  | .bidSize => some (i.bidSize.value, 4)
  | .bid => some (i.bid.value, 7)
  | .ask => some (i.ask.value, 7)
  | .askSize => some (i.askSize.value, 4)
  | .spread => some (i.ask.value - i.bid.value, 7)
  | .last => some (i.last.value, 7)
  | .updates => some (i.updates, 0)
  | .total => some (i.total.value, 4)

namespace Column

/-- The signs of a column before and behind its number. -/
def signs : Column → List Char × List Char
  | .ask => (['x', ' '], [])
  | .spread => (['('], [')'])
  | _ => ([], [])

/-- The whole text of a number in a column: at the right end, between the signs of the column. -/
def aligned (c : Column) (numeral : List Char) : List Char :=
  c.signs.1 ++ padLeft (c.width - c.signs.1.length - c.signs.2.length) numeral ++ c.signs.2

variable (c : Column)

/-- The whole text is never shorter than the column. -/
lemma width_le_length_aligned (numeral : List Char) : c.width ≤ (c.aligned numeral).length := by
  simp only [aligned, List.length_append, length_padLeft]
  omega

lemma isAscii_aligned {numeral : List Char} (h : IsAscii numeral) : IsAscii (c.aligned numeral) := by
  have hsigns : IsAscii c.signs.1 ∧ IsAscii c.signs.2 := by
    cases c <;> decide
  exact (hsigns.1.append ((isAscii_replicate _ (by decide)).append h)).append hsigns.2

end Column

namespace Instrument

/-- No zero of an instrument has a minus sign. -/
structure IsProper (i : Instrument) : Prop where
  bid : i.bid.IsProper
  ask : i.ask.IsProper
  bidSize : i.bidSize.IsProper
  askSize : i.askSize.IsProper
  last : i.last.IsProper
  total : i.total.IsProper

variable {i : Instrument} {c : Column} {q : ℚ} {places : Nat}

/-- The number of a column is a count, or a decimal number that is printed with fixed places. -/
lemma IsProper.of_amount? (h : i.IsProper) (hc : i.amount? c = some (q, places)) :
    (q = (i.updates : ℤ) ∧ places = 0 ∧ i.fullText c = c.aligned (digits i.updates)) ∨
      ∃ d : Decimal, d.IsProper ∧ d.value = q ∧ i.fullText c = c.aligned (d.fixedText places) := by
  cases c with
  | ticker => cases hc
  | bidSize =>
      cases hc
      exact .inr ⟨i.bidSize, h.bidSize, rfl, (List.append_nil _).symm⟩
  | bid =>
      cases hc
      exact .inr ⟨i.bid, h.bid, rfl, (List.append_nil _).symm⟩
  | ask =>
      cases hc
      exact .inr ⟨i.ask, h.ask, rfl, (List.append_nil _).symm⟩
  | askSize =>
      cases hc
      exact .inr ⟨i.askSize, h.askSize, rfl, (List.append_nil _).symm⟩
  | spread =>
      cases hc
      exact .inr ⟨i.spread, h.ask.sub h.bid, Decimal.value_sub _ _, rfl⟩
  | last =>
      cases hc
      exact .inr ⟨i.last, h.last, rfl, (List.append_nil _).symm⟩
  | updates =>
      cases hc
      exact .inl ⟨rfl, rfl, (List.append_nil _).symm⟩
  | total =>
      cases hc
      exact .inr ⟨i.total, h.total, rfl, (List.append_nil _).symm⟩

/-- **The text of a number**: the number rounded to the places of its column, in plain decimal digits at
the right end of the column. -/
lemma IsProper.exists_fullText_eq (h : i.IsProper) (hc : i.amount? c = some (q, places)) :
    ∃ n numeral, IsNearestEven (q * 10 ^ places) n ∧ IsNumeral places n numeral ∧
      i.fullText c = c.aligned numeral := by
  rcases h.of_amount? hc with ⟨rfl, rfl, htext⟩ | ⟨d, hd, rfl, htext⟩
  · refine ⟨i.updates, _, ?_, isNumeral_digits _, htext⟩
    rw [pow_zero, mul_one]
    exact isNearestEven_intCast _
  · exact ⟨_, _, d.isNearestEven_round places, Decimal.isNumeral_fixedText hd places, htext⟩

end Instrument

/-! ### What the cells spell -/

/-- The symbols in the cells of a column. -/
def Line.spelled (line : Line) (c : Column) : List Cluster :=
  ((line.drop c.x).take c.width).map Cell.symbol

/-- A text of printable ASCII that is as wide as its column is read off the cells of the column. -/
lemma Instrument.spelled_line (i : Instrument) (selected : Bool) (cursor : Nat) {c : Column}
    (hascii : IsAscii (i.cellText c)) (hlength : (i.cellText c).length = c.width) :
    (i.line selected cursor).spelled c = (i.cellText c).map ([·]) := by
  refine List.ext_getElem? fun n => ?_
  rw [Line.spelled, List.getElem?_map, List.getElem?_take, List.getElem?_drop, List.getElem?_map]
  split
  · next hn =>
    have hx : c.Holds (c.x + n) := ⟨by omega, by omega⟩
    have hchar : (i.cellText c)[n]? = some (i.cellText c)[n] := List.getElem?_eq_getElem (by omega)
    rw [(i.displays_line _ _ c).symbol _ hx, clustersIn,
      fitting_of_simple hascii.isSimple (Nat.le_of_eq hlength), clusterAt?_of_simple hascii.isSimple,
      Nat.add_sub_cancel_left, hchar]
    rfl
  · next hn => rw [List.getElem?_eq_none (by omega), Option.map_none, Option.map_none]

/-! ### Reachable instruments -/

lemma isProper_lastUnits {α : Type} (entry : α → UInt64) (l : List α) : (lastUnits entry l).IsProper := by
  rw [lastUnits]
  cases l.getLast? with
  | none => exact Decimal.isProper_of_nonneg rfl
  | some a => exact Decimal.isProper_ofUnits (entry a)

lemma isProper_totalSize (trades : List Trade) : (totalSize trades).IsProper := by
  rw [totalSize]
  split
  · exact Decimal.isProper_of_nonneg rfl
  · exact Decimal.isProper_of_nonneg rfl

/-- **The data of messages** has no zero with a minus sign. -/
lemma Store.isProper_of_run {policy : Recoloring} {steps : List Step} {i : Instrument}
    (hi : i ∈ ((empty policy).run steps).table) : i.IsProper := by
  have hsound := (isSound_empty policy).run steps
  have hmarket : some i.market = Market.ofHistory? policy (about i.key (messages steps)) := by
    rw [← market?_run, market?, hsound.get?_of_mem hi, Option.map_some]
  rw [Market.ofHistory?] at hmarket
  split at hmarket
  · cases hmarket
  · obtain ⟨hbid, hask, hbidSize, haskSize, hlast, -, -, htotal, -⟩ :=
      Market.mk.inj (Option.some.inj hmarket)
    exact ⟨hbid ▸ isProper_lastUnits _ _, hask ▸ isProper_lastUnits _ _,
      hbidSize ▸ isProper_lastUnits _ _, haskSize ▸ isProper_lastUnits _ _,
      hlast ▸ isProper_lastUnits _ _, htotal ▸ isProper_totalSize _⟩

/-! ### The numbers of the table -/

namespace Instrument

/-- A text that is not a label becomes hash signs if it does not fit. -/
lemma cellText_of_ne_ticker (i : Instrument) {c : Column} (hc : c ≠ .ticker) :
    i.cellText c = saturate (i.fullText c) c.width := by
  cases c with
  | ticker => exact absurd rfl hc
  | _ => rfl

/-- **A column with a number** shows the whole number, or hash signs if it has no room for it. -/
lemma IsProper.spelled_line {i : Instrument} (h : i.IsProper) (selected : Bool) (cursor : Nat)
    {c : Column} {q : ℚ} {places : Nat} (hc : i.amount? c = some (q, places)) :
    ∃ n numeral, IsNearestEven (q * 10 ^ places) n ∧ IsNumeral places n numeral ∧
      (i.line selected cursor).spelled c =
        if (c.aligned numeral).length ≤ c.width then (c.aligned numeral).map ([·])
        else List.replicate c.width ['#'] := by
  obtain ⟨n, numeral, hnearest, hnumeral, hfull⟩ := h.exists_fullText_eq hc
  have hcell : i.cellText c = saturate (c.aligned numeral) c.width := by
    rw [← hfull]
    refine i.cellText_of_ne_ticker ?_
    rintro rfl
    cases hc
  have hwidth := c.width_le_length_aligned numeral
  refine ⟨n, numeral, hnearest, hnumeral, ?_⟩
  rw [saturate] at hcell
  split
  · next hfits =>
    rw [if_pos hfits] at hcell
    rw [← hcell]
    exact i.spelled_line _ _ (hcell ▸ c.isAscii_aligned hnumeral.isAscii) (by rw [hcell]; omega)
  · next hlong =>
    rw [if_neg hlong] at hcell
    rw [i.spelled_line _ _ (hcell ▸ isAscii_replicate _ (by decide))
      (by rw [hcell, List.length_replicate]), hcell, List.map_replicate]

/-- Between the columns a line has blanks. -/
lemma symbol_line_gap (i : Instrument) (selected : Bool) (cursor : Nat) {x : Nat} (hlt : x < lineWidth)
    (hx : ∀ c : Column, ¬ c.Holds x) :
    (i.line selected cursor)[x]?.map Cell.symbol = some [' '] := by
  rw [i.getElem?_line _ _ hlt, textLine, getElem?_gap _ _ hlt hx, Option.map_some, Option.map_some,
    symbol_overlaid]
  rfl

end Instrument

/-- **The numbers of the table have the right magnitude.** In the line of an instrument, after whichever
messages, sorts and marks, each column with a number spells the whole text of this number, or hash signs
if the text has more characters than the column has cells. The text is the number in plain decimal
digits, rounded half to even to the places of the column, at the right end of the column and between its
signs; the spread is rounded from the exact difference. Between the columns there are blanks. -/
theorem Canvas.numbers_of_run (policy : Recoloring) (steps : List Store.Step) {i : Instrument}
    (hi : i ∈ ((Store.empty policy).run steps).table) (c : Canvas) (hrow : c.hasRow i.row = true)
    (v : View) (clearing : Bool) :
    ∃ cells, (c.drawRow i v clearing).pad[i.row]? = some cells ∧
      (∀ column q places, i.amount? column = some (q, places) →
        ∃ n numeral, IsNearestEven (q * 10 ^ places) n ∧ IsNumeral places n numeral ∧
          Line.spelled cells column =
            if (column.aligned numeral).length ≤ column.width then (column.aligned numeral).map ([·])
            else List.replicate column.width ['#']) ∧
      ∀ x < lineWidth, (∀ column : Column, ¬ column.Holds x) →
        cells[x]?.map Cell.symbol = some [' '] := by
  refine ⟨_, c.getElem?_drawRow_self hrow v clearing, ?_, ?_⟩
  · intro column q places hamount
    exact (Store.isProper_of_run hi).spelled_line _ _ hamount
  · intro x hlt hx
    exact i.symbol_line_gap _ _ hlt hx

/-- A crossed quote whose spread is halfway between two units of the last place, with a size for which
there is no room. -/
theorem Canvas.numbers_of_run_crossed :
    let q : Quote := ⟨⟨"A", 1⟩, 250000006, 1, UInt64.ofNat (2 ^ 64 - 1), 123456⟩
    let i := (Instrument.fresh ⟨"A", 1⟩ 1).afterQuote .trades q
    let c := Canvas.ofTerminal (.ofDevice (.blank 40 5)) 3
    i ∈ ((Store.empty .trades).run [.message (.quote q)]).table ∧ c.hasRow i.row = true ∧
      ∃ line, (c.drawRow i (.ofSize 40 5) false).pad[i.row]? = some line ∧
        line.spelled .bidSize = List.replicate 14 ['#'] ∧
        line.spelled .spread = "(      -2.5000000)".toList.map ([·]) ∧
        ∃ n numeral, IsNearestEven ((i.ask.value - i.bid.value) * 10 ^ 7) n ∧ IsNumeral 7 n numeral ∧
          Column.spread.aligned numeral = "(      -2.5000000)".toList := by
  intro q i c
  have hi : i ∈ ((Store.empty .trades).run [.message (.quote q)]).table := by decide +kernel
  have hrow : c.hasRow i.row = true := by decide +kernel
  obtain ⟨line, hline, hcolumns, -⟩ :=
    c.numbers_of_run .trades [.message (.quote q)] hi hrow (.ofSize 40 5) false
  obtain rfl : i.line true 0 = line := Option.some.inj (Eq.trans (by decide +kernel) hline)
  have hspread : (i.line true 0).spelled .spread = "(      -2.5000000)".toList.map ([·]) := by
    decide +kernel
  obtain ⟨n, numeral, hnearest, hnumeral, htext⟩ := hcolumns .spread _ _ rfl
  refine ⟨hi, hrow, _, hline, by decide +kernel, hspread, n, numeral, hnearest, hnumeral, ?_⟩
  rw [hspread] at htext
  split at htext
  · exact (List.map_injective_iff.mpr (fun _ _ h => List.singleton_inj.mp h) htext).symm
  · exact absurd htext (by decide)

end MarketBoard

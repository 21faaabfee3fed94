import MarketBoard.Proofs.Instrument.Market
import MarketBoard.Proofs.Store.Rows

/-!
What a store shows: everything but the price before the last one, and the policy by which quotes treat
it.

* `Instrument.shown`, `Store.shown`: an instrument and a store without these.
* `Instrument.IsSettled`: a quote that settles the trend would leave it as it is. It holds of a fresh
  instrument and is kept by every message, hence `Store.IsSettled` by every run.
* `Instrument.shown_after`, `Store.shown_apply`: what is shown after a message follows from what was
  shown before it, under either policy.
* `Store.shown_sort`, `Store.shown_toggleMark`: likewise for sorts and marks.
-/

namespace MarketBoard

/-! ### Instruments -/

namespace Instrument

variable {i : Instrument}

/-- What an instrument shows: all but the price before the last one. -/
def shown (i : Instrument) : Instrument := { i with previous := .zero }

/-- **The trend is settled**: wherever the last two prices differ, it leads from one to the other
already. -/
def IsSettled (i : Instrument) : Prop := i.settled.trend = i.trend

lemma isSettled_fresh (key : Key) (row : Nat) : (fresh key row).IsSettled := rfl

/-- A trend that has just been compared is settled. -/
lemma isSettled_of_between (h : i.trend = Trend.between i.previous i.last) : i.IsSettled := by
  rw [IsSettled, settled]
  dsimp only
  split
  · rfl
  · exact h.symm

/-- Two prices that count as one leave nothing to settle. -/
lemma isSettled_of_eq (h : i.previous = i.last) : i.IsSettled := by
  rw [IsSettled, settled]
  simp [h, Decimal.compare_self]

/-- **Every message keeps the trend settled**: a trade compares, and a quote either leaves prices and
trend alone or lets the two prices count as one. -/
lemma IsSettled.after (h : i.IsSettled) (policy : Recoloring) (m : Message) :
    (i.after policy m).IsSettled := by
  cases m with
  | trade t => exact isSettled_of_between rfl
  | quote q =>
      cases policy with
      | trades => exact h
      | quotesAndTrades => exact isSettled_of_eq rfl

/-- Under the policy of trades alone, what is shown after a message follows from what was shown before
it: no message looks at the earlier price. -/
lemma shown_after (i : Instrument) (m : Message) :
    (i.after .trades m).shown = (i.shown.after .trades m).shown := by
  cases m <;> rfl

/-- **Under either policy**, what is shown after a message follows from what was shown before it, as a
quote that settles the trend finds it settled. -/
lemma IsSettled.shown_after (h : i.IsSettled) (policy : Recoloring) (m : Message) :
    (i.after policy m).shown = (i.shown.after .trades m).shown := by
  cases policy with
  | trades => exact i.shown_after m
  | quotesAndTrades =>
      cases m with
      | trade t => rfl
      | quote q =>
          have hsettled : i.settled = { i with previous := i.last } := by
            have htrend : i.settled.trend = i.trend := h
            rw [← htrend]
            rfl
          simp only [Instrument.after, afterQuote, hsettled]
          rfl

end Instrument

/-! ### Stores -/

namespace Store

/-- What a store shows. -/
def shown (s : Store) : Store := { s with policy := .trades, table := s.table.map Instrument.shown }

@[simp] lemma size_shown (s : Store) : s.shown.size = s.size := List.length_map _

@[simp] lemma isEmpty_shown (s : Store) : s.shown.isEmpty = s.isEmpty := List.isEmpty_map

@[simp] lemma keyAt?_shown (s : Store) (row : Nat) : s.shown.keyAt? row = s.keyAt? row := rfl

@[simp] lemma lastRow?_shown (s : Store) : s.shown.lastRow? = s.lastRow? := rfl

@[simp] lemma get?_shown (s : Store) (k : Key) :
    s.shown.get? k = (s.get? k).map Instrument.shown :=
  find?_map_key s.table Instrument.shown (fun _ => rfl) k

@[simp] lemma rowOf?_shown (s : Store) (k : Key) : s.shown.rowOf? k = s.rowOf? k := by
  rw [rowOf?, get?_shown, Option.map_map]
  rfl

@[simp] lemma atRow?_shown (s : Store) (row : Nat) :
    s.shown.atRow? row = (s.atRow? row).map Instrument.shown := by
  rw [atRow?, atRow?, keyAt?_shown]
  cases s.keyAt? row with
  | none => rfl
  | some k => exact s.get?_shown k

@[simp] lemma rows_shown (s : Store) : s.shown.rows = s.rows.map Instrument.shown := by
  have hget : s.shown.get? = fun k => (s.get? k).map Instrument.shown := funext s.get?_shown
  rw [rows, rows, hget, List.map_filterMap]
  rfl

/-! ### Changes -/

lemma shown_shown (s : Store) : s.shown.shown = s.shown := by
  rw [shown, shown, List.map_map]
  rfl

/-- A new key is taken in alike. -/
lemma shown_ensure (s : Store) (key : Key) : (s.ensure key).shown = s.shown.ensure key := by
  rw [ensure, ensure, get?_shown]
  cases s.get? key with
  | none => simp [shown, Instrument.shown, Instrument.fresh]
  | some i => rfl

/-- A change of an instrument that is seen as another one is seen as this one in the store. -/
lemma shown_modify {s : Store} {key : Key} {f g : Instrument → Instrument}
    (h : ∀ i ∈ s.table, (f i).shown = g i.shown) :
    (s.modify key f).shown = s.shown.modify key g := by
  simp only [modify, shown, List.map_map]
  congr 1
  refine List.map_congr_left fun i hi => ?_
  show (if i.key = key then f i else i).shown = if i.key = key then g i.shown else i.shown
  split
  · exact h i hi
  · rfl

/-- Sorting moves what is shown. -/
lemma shown_sort (s : Store) (descending : Bool) :
    (s.sort descending).shown = s.shown.sort descending := by
  simp only [sort, arrange, shown, List.map_map]
  rfl

/-- Turning a mark turns it in what is shown. -/
lemma shown_toggleMark (s : Store) (row : Nat) :
    (s.toggleMark row).shown = s.shown.toggleMark row := by
  rw [toggleMark, toggleMark, keyAt?_shown]
  cases s.keyAt? row with
  | none => rfl
  | some key => exact shown_modify fun _ _ => rfl

/-- The trend of every instrument is settled. -/
def IsSettled (s : Store) : Prop := ∀ i ∈ s.table, i.IsSettled

/-- An instrument that was there or is fresh is settled. -/
lemma IsSettled.ensure {s : Store} (h : s.IsSettled) (key : Key) : (s.ensure key).IsSettled := by
  rw [Store.ensure]
  split
  · exact h
  · intro i hi
    obtain hold | hnew := List.mem_append.mp hi
    · exact h i hold
    · rw [List.mem_singleton.mp hnew]
      exact Instrument.isSettled_fresh key _

/-- Changes that keep every trend settled. -/
lemma IsSettled.modify {s : Store} (h : s.IsSettled) {key : Key} {f : Instrument → Instrument}
    (hf : ∀ i : Instrument, i.IsSettled → (f i).IsSettled) : (s.modify key f).IsSettled := by
  intro j hj
  obtain ⟨i, hi, rfl⟩ := List.mem_map.mp hj
  split
  · exact hf i (h i hi)
  · exact h i hi

/-- **Every run keeps all trends settled.** -/
lemma IsSettled.run {s : Store} (h : s.IsSettled) (steps : List Step) : (s.run steps).IsSettled := by
  induction steps generalizing s with
  | nil => exact h
  | cons t rest ih =>
      refine ih ?_
      cases t with
      | message m => exact (h.ensure m.key).modify fun i hi => hi.after s.policy m
      | sort descending =>
          intro j hj
          obtain ⟨i, hi, rfl⟩ := List.mem_map.mp hj
          exact h i hi
      | mark row =>
          rw [step, toggleMark]
          split
          · exact h.modify fun _ hi => hi
          · exact h

/-- **What is shown after a message** follows from what was shown before it, under either policy. -/
lemma IsSettled.shown_apply {s : Store} (h : s.IsSettled) (m : Message) :
    (s.apply m).shown = (s.shown.apply m).shown := by
  have hshown : (s.shown.ensure m.key).shown = (s.ensure m.key).shown := by
    rw [shown_ensure, shown_shown, shown_ensure]
  calc (s.apply m).shown
      = (s.ensure m.key).shown.modify m.key fun i => (i.after .trades m).shown :=
        shown_modify fun i hi => (h.ensure m.key i hi).shown_after s.policy m
    _ = (s.shown.ensure m.key).shown.modify m.key fun i => (i.after .trades m).shown := by
        rw [hshown]
    _ = (s.shown.apply m).shown := (shown_modify fun i _ => i.shown_after m).symm

end Store

end MarketBoard

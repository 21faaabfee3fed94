import MarketBoard.Proofs.Store.LookUp
import Mathlib.Data.List.Nodup

/-!
Table and rows: the instruments of a store and the order of their keys stay in step.

* `IsSound`: the keys of the table are distinct, the order of the rows is a rearrangement of them, and
  every instrument carries its label and its row. `IsSound.apply`, `IsSound.toggleMark` and
  `IsSound.sort` keep it.
* `Step`, `run`: the histories of a store.
* `IsSound.atRow?_row`, `IsSound.get?_of_atRow?`: look-ups by key and by row are inverse to each other.
* `rows_agree_of_run`: what holds of the rows after every history.
-/

namespace MarketBoard.Store

/-- **A sound store**: no two instruments have one key, the rows show the keys of the table, each
once, and every instrument carries the label and the row of its key. -/
structure IsSound (s : Store) : Prop where
  nodup : (s.table.map Instrument.key).Nodup
  perm : s.order.Perm (s.table.map Instrument.key)
  label : ∀ k i, s.get? k = some i → i.label = k.label
  row : ∀ k i, s.get? k = some i → i.row = s.order.idxOf k + firstRow

namespace IsSound

variable {s : Store}

/-! ### Keys and rows -/

lemma nodup_order (h : s.IsSound) : s.order.Nodup := h.perm.nodup_iff.mpr h.nodup

/-- The keys that have a row are those that have an instrument. -/
lemma mem_order_iff (h : s.IsSound) (k : Key) : k ∈ s.order ↔ (s.get? k).isSome := by
  rw [h.perm.mem_iff, isSome_get?_iff]

lemma length_order (h : s.IsSound) : s.order.length = s.size := by
  rw [h.perm.length_eq, List.length_map, size]

/-- Every instrument of the table is found under its key. -/
lemma get?_of_mem (h : s.IsSound) {i : Instrument} (hi : i ∈ s.table) :
    s.get? i.key = some i := by
  obtain ⟨j, hj⟩ := Option.isSome_iff_exists.mp
    ((isSome_get?_iff s i.key).mpr (List.mem_map_of_mem hi))
  obtain ⟨hmem, hkey⟩ := mem_table_of_get? hj
  rw [hj, List.inj_on_of_nodup_map h.nodup hmem hi hkey]

/-- The key of an instrument stands at the row that the instrument carries. -/
lemma keyAt?_row (h : s.IsSound) {k : Key} {i : Instrument} (hi : s.get? k = some i) :
    s.keyAt? i.row = some k := by
  have hk : k ∈ s.order := (h.mem_order_iff k).mpr (by rw [hi]; rfl)
  rw [keyAt?, if_neg (by rw [h.row k i hi]; omega), h.row k i hi, Nat.add_sub_cancel]
  exact List.getElem?_idxOf hk

/-- The instrument at the row that an instrument carries is this instrument. -/
lemma atRow?_row (h : s.IsSound) {k : Key} {i : Instrument} (hi : s.get? k = some i) :
    s.atRow? i.row = some i := by
  simp [atRow?, h.keyAt?_row hi, hi]

/-- The instrument of the key at a row carries this row. -/
lemma row_of_keyAt? (h : s.IsSound) {row : Nat} {k : Key} (hk : s.keyAt? row = some k) :
    ∃ i, s.get? k = some i ∧ i.row = row := by
  rw [keyAt?] at hk
  split at hk
  · exact absurd hk (by simp)
  · next hrow =>
    obtain ⟨hlt, hget⟩ := List.getElem?_eq_some_iff.mp hk
    obtain ⟨i, hi⟩ := Option.isSome_iff_exists.mp
      ((h.mem_order_iff k).mp (hget ▸ List.getElem_mem hlt))
    refine ⟨i, hi, ?_⟩
    rw [h.row k i hi, ← hget, h.nodup_order.idxOf_getElem]
    omega

/-- What stands at a row carries this row and is found under its key. -/
lemma get?_of_atRow? (h : s.IsSound) {row : Nat} {i : Instrument} (hi : s.atRow? row = some i) :
    s.get? i.key = some i ∧ i.row = row := by
  obtain ⟨k, hk, hget⟩ := Option.bind_eq_some_iff.mp hi
  obtain ⟨j, hj, hrow⟩ := h.row_of_keyAt? hk
  obtain rfl : i = j := Option.some.inj (hget.symm.trans hj)
  rw [(mem_table_of_get? hget).2]
  exact ⟨hget, hrow⟩

/-- Look-ups by row and by key find the same instruments. -/
lemma atRow?_eq_some_iff (h : s.IsSound) {row : Nat} {i : Instrument} :
    s.atRow? row = some i ↔ s.get? i.key = some i ∧ i.row = row := by
  refine ⟨h.get?_of_atRow?, ?_⟩
  rintro ⟨hi, rfl⟩
  exact h.atRow?_row hi

/-- At a row stands the instrument of the table that carries this row. -/
lemma atRow?_eq_some_iff_mem (h : s.IsSound) {row : Nat} {i : Instrument} :
    s.atRow? row = some i ↔ i ∈ s.table ∧ i.row = row := by
  constructor
  · intro hi
    obtain ⟨hget, hrow⟩ := h.get?_of_atRow? hi
    exact ⟨(mem_table_of_get? hget).1, hrow⟩
  · rintro ⟨hi, rfl⟩
    exact h.atRow?_row (h.get?_of_mem hi)

/-- Two stores have the same instrument at a row if they find the same ones with this row by key. -/
lemma atRow?_congr {s' : Store} (h : s.IsSound) (h' : s'.IsSound) {row : Nat}
    (hget : ∀ i : Instrument, i.row = row → (s.get? i.key = some i ↔ s'.get? i.key = some i)) :
    s.atRow? row = s'.atRow? row := by
  refine Option.ext fun i => ?_
  rw [h.atRow?_eq_some_iff, h'.atRow?_eq_some_iff]
  exact and_congr_left (hget i)

/-- The rows in use are those from the first one to the number of instruments. -/
lemma keyAt?_eq_none (h : s.IsSound) {row : Nat} (hrow : row = 0 ∨ s.size < row) :
    s.keyAt? row = none := by
  rw [keyAt?]
  split
  · rfl
  · next hle =>
    refine List.getElem?_eq_none ?_
    rw [h.length_order]
    simp only [firstRow] at hle ⊢
    omega

lemma atRow?_eq_none (h : s.IsSound) {row : Nat} (hrow : row = 0 ∨ s.size < row) :
    s.atRow? row = none := by
  simp [atRow?, h.keyAt?_eq_none hrow]

/-- There is an instrument at every row from the first one to the number of instruments. -/
lemma isSome_atRow?_iff (h : s.IsSound) (row : Nat) :
    (s.atRow? row).isSome ↔ firstRow ≤ row ∧ row ≤ s.size := by
  constructor
  · intro hsome
    refine Decidable.by_contra fun hout => ?_
    rw [h.atRow?_eq_none (by simp only [firstRow] at hout; omega)] at hsome
    exact absurd hsome (by simp)
  · rintro ⟨hfirst, hlast⟩
    have hlt : row - firstRow < s.order.length := by
      rw [h.length_order]
      simp only [firstRow] at hfirst ⊢
      omega
    have hkey : s.keyAt? row = some s.order[row - firstRow] := by
      rw [keyAt?, if_neg (Nat.not_lt.mpr hfirst), List.getElem?_eq_getElem hlt]
    obtain ⟨i, hi, hrow⟩ := h.row_of_keyAt? hkey
    rw [← hrow, h.atRow?_row hi]
    rfl

/-- The last row in use has the number of instruments. -/
lemma lastRow?_eq (h : s.IsSound) :
    s.lastRow? = if s.size = 0 then none else some s.size := by
  rw [lastRow?, ← h.length_order]
  cases s.order <;> simp [firstRow]

/-! ### The instruments in the order of the rows -/

/-- Selecting what every element has keeps all places. -/
lemma getElem?_filterMap {α β : Type} (f : α → Option β) :
    ∀ (l : List α), (∀ a ∈ l, (f a).isSome) → ∀ n : Nat, (l.filterMap f)[n]? = l[n]? >>= f
  | [], _, n => by simp
  | a :: l, hall, n => by
      obtain ⟨b, hb⟩ := Option.isSome_iff_exists.mp (hall a List.mem_cons_self)
      rw [List.filterMap_cons_some hb]
      cases n with
      | zero => simp [hb]
      | succ n =>
          simpa using getElem?_filterMap f l (fun x hx => hall x (List.mem_cons_of_mem a hx)) n

/-- The instruments in the order of the rows are those at the rows. -/
lemma rows_getElem? (h : s.IsSound) (n : Nat) : s.rows[n]? = s.atRow? (n + firstRow) := by
  have hle : ¬ n + firstRow < firstRow := by omega
  rw [rows, getElem?_filterMap _ _ fun k hk => (h.mem_order_iff k).mp hk]
  simp [atRow?, keyAt?, hle]

/-- The rows carry the numbers from the first row on. -/
lemma map_row_rows (h : s.IsSound) : s.rows.map Instrument.row = List.range' firstRow s.size := by
  refine List.ext_getElem? fun n => ?_
  rw [List.getElem?_map, h.rows_getElem?]
  by_cases hn : n < s.size
  · have hlt : n < s.order.length := h.length_order ▸ hn
    have hkey : s.keyAt? (n + firstRow) = some s.order[n] := by simp [keyAt?, hlt]
    obtain ⟨i, hi, hrow⟩ := h.row_of_keyAt? hkey
    rw [← hrow, h.atRow?_row hi, List.getElem?_range' hn, Option.map_some, hrow]
    congr 1
    omega
  · rw [h.atRow?_eq_none (by simp only [firstRow]; omega),
      List.getElem?_eq_none (by rw [List.length_range']; omega)]
    rfl

/-- An instrument is among the rows exactly if it is in the table. -/
lemma mem_rows_iff (h : s.IsSound) (i : Instrument) : i ∈ s.rows ↔ i ∈ s.table := by
  simp only [rows, List.mem_filterMap, h.mem_order_iff]
  constructor
  · rintro ⟨k, -, hk⟩
    exact (mem_table_of_get? hk).1
  · intro hi
    exact ⟨i.key, by rw [h.get?_of_mem hi]; rfl, h.get?_of_mem hi⟩

/-- The rows show every instrument of the table once. -/
lemma rows_perm (h : s.IsSound) : s.rows.Perm s.table := by
  have hrows : s.rows.Nodup := by
    refine List.Nodup.of_map Instrument.row ?_
    rw [h.map_row_rows]
    exact List.nodup_range'
  exact (List.perm_ext_iff_of_nodup hrows h.nodup.of_map).mpr h.mem_rows_iff

end IsSound

/-! ### Changes keep a store sound -/

lemma isSound_empty (policy : Recoloring) : (empty policy).IsSound where
  nodup := List.nodup_nil
  perm := List.Perm.refl _
  label := by simp [get?, empty]
  row := by simp [get?, empty]

namespace IsSound

variable {s : Store}

/-- The place of a key that is in the order already does not move when a key is added. -/
lemma idxOf_order_apply (h : s.IsSound) (m : Message) {k : Key} (hk : (s.get? k).isSome) :
    (s.apply m).order.idxOf k = s.order.idxOf k := by
  rw [order_apply]
  split
  · rfl
  · rw [List.idxOf_append, if_pos ((h.mem_order_iff k).mpr hk)]

/-- A new key gets the next place. -/
lemma idxOf_order_apply_new (h : s.IsSound) (m : Message) (hm : s.get? m.key = none) :
    (s.apply m).order.idxOf m.key = s.order.length := by
  have hnot : m.key ∉ s.order := by simp [h.mem_order_iff, hm]
  rw [order_apply, hm, if_neg (by simp), List.idxOf_append, if_neg hnot]
  simp

/-- A message keeps a store sound. -/
lemma apply (h : s.IsSound) (m : Message) : (s.apply m).IsSound where
  nodup := by
    rw [keys_apply]
    split
    · exact h.nodup
    · next hm =>
      rw [isSome_get?_iff] at hm
      exact List.nodup_append.mpr ⟨h.nodup, List.nodup_singleton _, by grind⟩
  perm := by
    rw [order_apply, keys_apply]
    split
    · exact h.perm
    · exact h.perm.append_right _
  label := by
    intro k i hi
    rw [get?_apply] at hi
    split at hi
    · next hk =>
      obtain rfl := Option.some.inj hi
      cases hm : s.get? m.key with
      | none => simp [Instrument.fresh, hk]
      | some j => simp [h.label _ _ hm, hk]
    · exact h.label k i hi
  row := by
    intro k i hi
    rw [get?_apply] at hi
    split at hi
    · next hk =>
      obtain rfl := Option.some.inj hi
      subst hk
      cases hm : s.get? m.key with
      | none => simp [Instrument.fresh, h.idxOf_order_apply_new m hm]
      | some j => simp [h.row _ _ hm, h.idxOf_order_apply m (k := m.key) (by simp [hm])]
    · rw [h.row k i hi, h.idxOf_order_apply m (by simp [hi])]

/-- Turning a mark keeps a store sound. -/
lemma toggleMark (h : s.IsSound) (row : Nat) : (s.toggleMark row).IsSound := by
  have hfound : ∀ k i, (s.toggleMark row).get? k = some i →
      ∃ j, s.get? k = some j ∧ i.label = j.label ∧ i.row = j.row := by
    intro k i hi
    rw [get?_toggleMark] at hi
    split at hi
    · obtain ⟨j, hj, rfl⟩ := Option.map_eq_some_iff.mp hi
      exact ⟨j, hj, rfl, rfl⟩
    · exact ⟨i, hi, rfl, rfl⟩
  refine ⟨keys_toggleMark s row ▸ h.nodup, ?_, ?_, ?_⟩
  · rw [order_toggleMark, keys_toggleMark]
    exact h.perm
  · intro k i hi
    obtain ⟨j, hj, hlabel, -⟩ := hfound k i hi
    rw [hlabel, h.label k j hj]
  · intro k i hi
    obtain ⟨j, hj, -, hrow⟩ := hfound k i hi
    rw [hrow, h.row k j hj, order_toggleMark]

/-- Sorting keeps a store sound. -/
lemma sort (h : s.IsSound) (descending : Bool) : (s.sort descending).IsSound := by
  have hkeys : (s.sort descending).table.map Instrument.key = s.table.map Instrument.key := by
    simp [Store.sort, arrange]
  refine ⟨hkeys ▸ h.nodup, hkeys ▸ (sortedKeys_perm s descending).trans h.perm, ?_, ?_⟩
  · intro k i hi
    rw [get?_sort] at hi
    obtain ⟨j, hj, rfl⟩ := Option.map_eq_some_iff.mp hi
    exact h.label k j hj
  · intro k i hi
    rw [get?_sort] at hi
    obtain ⟨j, hj, rfl⟩ := Option.map_eq_some_iff.mp hi
    rw [← (mem_table_of_get? hj).2]
    rfl

end IsSound

/-! ### Histories -/

/-- What is done to a store. -/
inductive Step where
  | message (m : Message)
  | sort (descending : Bool)
  | mark (row : Nat)
deriving DecidableEq, Repr

/-- The step puts the rows in a new order. -/
def Step.isSort : Step → Bool
  | .sort _ => true
  | _ => false

/-- The store after a step. -/
def step (s : Store) : Step → Store
  | .message m => s.apply m
  | .sort descending => s.sort descending
  | .mark row => s.toggleMark row

/-- The store after several steps. -/
def run (s : Store) (steps : List Step) : Store := steps.foldl step s

lemma IsSound.step {s : Store} (h : s.IsSound) (t : Step) : (s.step t).IsSound := by
  cases t with
  | message m => exact h.apply m
  | sort descending => exact h.sort descending
  | mark row => exact h.toggleMark row

lemma IsSound.run {s : Store} (h : s.IsSound) (steps : List Step) : (s.run steps).IsSound := by
  induction steps generalizing s with
  | nil => exact h
  | cons t rest ih => exact ih (h.step t)

/-- No step loses a key. -/
lemma isSome_get?_step {s : Store} (t : Step) {k : Key} (hk : (s.get? k).isSome) :
    ((s.step t).get? k).isSome := by
  cases t with
  | message m =>
      rw [step, get?_apply]
      split
      · rfl
      · exact hk
  | sort descending =>
      rw [step, get?_sort, Option.isSome_map]
      exact hk
  | mark row =>
      rw [step, get?_toggleMark]
      split
      · rwa [Option.isSome_map]
      · exact hk

lemma isSome_get?_run {s : Store} (steps : List Step) {k : Key} (hk : (s.get? k).isSome) :
    ((s.run steps).get? k).isSome := by
  induction steps generalizing s with
  | nil => exact hk
  | cons t rest ih => exact ih (isSome_get?_step t hk)

/-- No step makes a store smaller. -/
lemma size_le_size_step (s : Store) (t : Step) : s.size ≤ (s.step t).size := by
  cases t with
  | message m =>
      rw [step, size_apply]
      split <;> omega
  | sort descending => simp [step, size, Store.sort, arrange]
  | mark row => exact Nat.le_of_eq (size_toggleMark s row).symm

lemma size_le_size_run (s : Store) (steps : List Step) : s.size ≤ (s.run steps).size := by
  induction steps generalizing s with
  | nil => exact Nat.le_refl _
  | cons t rest ih => exact Nat.le_trans (s.size_le_size_step t) (ih (s.step t))

/-- A step that is no sort leaves every instrument at its row. -/
lemma rowOf?_step {s : Store} {t : Step} (ht : t.isSort = false) {k : Key} {row : Nat}
    (hk : s.rowOf? k = some row) : (s.step t).rowOf? k = some row := by
  obtain ⟨i, hi, hrow⟩ := Option.map_eq_some_iff.mp hk
  cases t with
  | message m =>
      rw [step, rowOf?, get?_apply]
      split
      · next h => simp [← h, hi, hrow]
      · exact hk
  | sort descending => exact absurd ht (by simp [Step.isSort])
  | mark n =>
      rw [step, rowOf?, get?_toggleMark]
      split
      · simp [hi, hrow]
      · exact hk

/-- Between two sorts every instrument stays at its row. -/
lemma rowOf?_run {s : Store} {steps : List Step} (ht : ∀ t ∈ steps, t.isSort = false) {k : Key}
    {row : Nat} (hk : s.rowOf? k = some row) : (s.run steps).rowOf? k = some row := by
  induction steps generalizing s with
  | nil => exact hk
  | cons t rest ih =>
      exact ih (fun u hu => ht u (List.mem_cons_of_mem t hu))
        (rowOf?_step (ht t List.mem_cons_self) hk)

/-- The row of a message's key: where it stood, or the next one. -/
lemma IsSound.rowOf?_apply {s : Store} (h : s.IsSound) (m : Message) :
    (s.apply m).rowOf? m.key = some ((s.rowOf? m.key).getD (s.size + 1)) := by
  rw [rowOf?, get?_apply, if_pos rfl, rowOf?]
  cases hm : s.get? m.key with
  | none => simp [Instrument.fresh, h.length_order, firstRow]
  | some i => simp

/-- A message leaves all rows but its own alone. -/
lemma IsSound.atRow?_apply_of_ne {s : Store} (h : s.IsSound) {m : Message} {row : Nat}
    (hrow : (s.apply m).rowOf? m.key ≠ some row) : (s.apply m).atRow? row = s.atRow? row := by
  refine (h.apply m).atRow?_congr h fun i hi => ?_
  by_cases hk : i.key = m.key
  · constructor
    · intro hget
      rw [rowOf?, ← hk, hget, Option.map_some, hi] at hrow
      exact absurd rfl hrow
    · intro hget
      rw [h.rowOf?_apply, rowOf?, ← hk, hget, Option.map_some, Option.getD_some, hi] at hrow
      exact absurd rfl hrow
  · rw [get?_apply, if_neg hk]

/-- Turning the mark at a row leaves all other rows alone. -/
lemma IsSound.atRow?_toggleMark_of_ne {s : Store} (h : s.IsSound) {n row : Nat} (hrow : row ≠ n) :
    (s.toggleMark n).atRow? row = s.atRow? row := by
  refine (h.toggleMark n).atRow?_congr h fun i hi => ?_
  rw [get?_toggleMark]
  split
  · next hkey =>
    obtain ⟨j, hj, hjrow⟩ := h.row_of_keyAt? hkey
    constructor
    · intro hget
      rw [hj, Option.map_some, Option.some.injEq] at hget
      exact absurd (hi.symm.trans (congrArg Instrument.row hget.symm)) (hjrow ▸ hrow)
    · intro hget
      rw [hj, Option.some.injEq] at hget
      exact absurd (hi.symm.trans (congrArg Instrument.row hget.symm)) (hjrow ▸ hrow)
  · rfl

/-- **Table and rows agree after every history.**
The table has no key twice, and the rows show its keys, each once. What is found under a key has this
key, its label, and the row at which the key stands, and it is found again at this row. The rows are
numbered from 1 to the number of instruments; there is nothing at row 0 or below the last row; and
the instruments in the order of the rows are those of the table. A message adds an instrument exactly
if its key is new, in the next row, and is answered by the row of its key. As long as nothing is
sorted, no instrument leaves its row. A mark that is turned is answered by the new mark, which is then
found at the row, and where nothing is, the answer is none and nothing changes. -/
theorem rows_agree_of_run (policy : Recoloring) (steps : List Step) :
    let s := (empty policy).run steps
    ((s.table.map Instrument.key).Nodup ∧ s.order.Nodup ∧
      ∀ k, k ∈ s.order ↔ (s.get? k).isSome) ∧
    (∀ k i, s.get? k = some i →
      i.key = k ∧ i.label = k.label ∧ i.row = s.order.idxOf k + 1 ∧
        s.keyAt? i.row = some k ∧ s.atRow? i.row = some i) ∧
    (s.rows.map Instrument.row = List.range' 1 s.size ∧ s.rows.Perm s.table) ∧
    (∀ row, row = 0 ∨ s.size < row → s.keyAt? row = none ∧ s.atRow? row = none) ∧
    s.lastRow? = (if s.size = 0 then none else some s.size) ∧
    (∀ m, ∃ row, s.receive m = (row, s.apply m) ∧
      (s.apply m).rowOf? m.key = some row ∧ (s.apply m).keyAt? row = some m.key ∧
      if (s.get? m.key).isSome then (s.apply m).size = s.size ∧ s.rowOf? m.key = some row
      else (s.apply m).size = s.size + 1 ∧ row = s.size + 1) ∧
    (∀ more : List Step, (∀ t ∈ more, t.isSort = false) →
      ∀ k row, s.rowOf? k = some row → (s.run more).rowOf? k = some row) ∧
    (∀ row, (s.turnMark row).2 = s.toggleMark row ∧
      (s.turnMark row).1 = ((s.turnMark row).2.atRow? row).map Instrument.marked ∧
      ((s.turnMark row).1 = none ↔ row = 0 ∨ s.size < row) ∧
      ((s.turnMark row).1 = none → (s.turnMark row).2 = s)) := by
  intro s
  have h : s.IsSound := (isSound_empty policy).run steps
  refine ⟨⟨h.nodup, h.nodup_order, h.mem_order_iff⟩, fun k i hi => ?_,
    ⟨h.map_row_rows, h.rows_perm⟩, fun row hrow => ⟨h.keyAt?_eq_none hrow, h.atRow?_eq_none hrow⟩,
    h.lastRow?_eq, fun m => ?_, fun more ht k row hk => rowOf?_run ht hk, fun row => ?_⟩
  · exact ⟨(mem_table_of_get? hi).2, h.label k i hi, h.row k i hi, h.keyAt?_row hi, h.atRow?_row hi⟩
  · have hrow := h.rowOf?_apply m
    obtain ⟨i, hi, hirow⟩ := Option.map_eq_some_iff.mp hrow
    have hanswer : (s.receive m).1 = (s.rowOf? m.key).getD (s.size + 1) :=
      Option.some.inj ((s.row_receive m).symm.trans hrow)
    have hkey : (s.apply m).keyAt? ((s.rowOf? m.key).getD (s.size + 1)) = some m.key :=
      hirow ▸ (h.apply m).keyAt?_row hi
    refine ⟨_, Prod.ext hanswer rfl, hrow, hkey, ?_⟩
    rw [size_apply]
    cases hm : s.get? m.key with
    | none => simp [rowOf?, hm]
    | some j => simp [rowOf?, hm]
  · have hout : s.atRow? row = none ↔ row = 0 ∨ s.size < row := by
      rw [← Option.not_isSome_iff_eq_none, h.isSome_atRow?_iff, firstRow]
      omega
    have hstays : s.atRow? row = none → s.toggleMark row = s := fun hnone => by
      rw [toggleMark, h.keyAt?_eq_none (hout.mp hnone)]
    have hmark : s.turnMark row =
        (((s.toggleMark row).atRow? row).map Instrument.marked, s.toggleMark row) := by
      rw [turnMark_eq]
      cases hat : s.atRow? row with
      | none => rw [hstays hat]; rfl
      | some i => rfl
    have hnone : (s.turnMark row).1 = none ↔ s.atRow? row = none := by
      rw [hmark, Option.map_eq_none_iff, atRow?_toggleMark, Option.map_eq_none_iff]
    refine ⟨congrArg Prod.snd hmark, ?_, hnone.trans hout, fun hanswer => ?_⟩
    · rw [hmark]
    · rw [hmark]
      exact hstays (hnone.mp hanswer)

end MarketBoard.Store

import MarketBoard.Store
import Mathlib.Tactic.Lemma

/-!
Look-ups in a store after each of its changes.

* `get?_apply`: a message changes the instrument of its own key, which is taken in if it is new, and
  leaves all others alone.
* `get?_sort`: sorting gives every instrument the row of its key and changes nothing else.
* `get?_toggleMark`, `atRow?_toggleMark`: a mark is turned at one key and found at its row.
* `row_receive`, `turnMark_eq`: the row and the mark with which a change is answered.
* `order_apply`, `size_apply`: a new key comes last.
-/

namespace MarketBoard.Store

/-! ### Keys and look-ups -/

/-- What is found under a key is in the table and has that key. -/
lemma mem_table_of_get? {s : Store} {k : Key} {i : Instrument} (h : s.get? k = some i) :
    i ∈ s.table ∧ i.key = k :=
  ⟨List.mem_of_find?_eq_some h, by simpa using List.find?_some h⟩

/-- Nothing is found exactly under a key that the table does not have. -/
lemma get?_eq_none_iff (s : Store) (k : Key) :
    s.get? k = none ↔ k ∉ s.table.map Instrument.key := by
  simp [get?]

/-- Something is found exactly under the keys of the table. -/
lemma isSome_get?_iff (s : Store) (k : Key) :
    (s.get? k).isSome ↔ k ∈ s.table.map Instrument.key := by
  rw [← Option.ne_none_iff_isSome, Ne, get?_eq_none_iff, Decidable.not_not]

/-- A table changed instrument by instrument, keys apart, changes under every key alike. -/
lemma find?_map_key (table : List Instrument) (f : Instrument → Instrument)
    (hf : ∀ i, (f i).key = i.key) (k : Key) :
    (table.map f).find? (·.key = k) = (table.find? (·.key = k)).map f := by
  rw [List.find?_map]
  congr 2
  funext i
  simp [hf]

/-- A store is empty exactly if it has no size. -/
lemma isEmpty_iff (s : Store) : s.isEmpty = true ↔ s.size = 0 := by
  rw [isEmpty, List.isEmpty_iff, size, List.length_eq_zero_iff]

/-! ### Changes at one key -/

/-- Changing the instrument of a key changes what is found under this key alone. -/
lemma get?_modify (s : Store) (key : Key) (f : Instrument → Instrument)
    (hf : ∀ i, (f i).key = i.key) (k : Key) :
    (s.modify key f).get? k = if k = key then (s.get? k).map f else s.get? k := by
  have hkey : ∀ i : Instrument, (if i.key = key then f i else i).key = i.key := fun i => by
    split <;> simp [hf]
  rw [get?, modify, find?_map_key _ _ hkey, ← get?]
  cases h : s.get? k with
  | none => simp
  | some i =>
      obtain rfl := (mem_table_of_get? h).2
      by_cases hk : i.key = key <;> simp [hk]

/-- A key that has to have an instrument keeps its own or gets a fresh one in the next row. -/
lemma get?_ensure (s : Store) (key k : Key) :
    (s.ensure key).get? k =
      if k = key then some ((s.get? key).getD (.fresh key (s.order.length + firstRow)))
      else s.get? k := by
  rw [ensure]
  split
  · next i h =>
    by_cases hk : k = key
    · subst hk
      simp [h]
    · simp [hk]
  · next h =>
    have hfresh : ((Instrument.fresh key (s.order.length + firstRow)).key = k) = (key = k) := rfl
    by_cases hk : k = key
    · subst hk
      rw [get?] at h
      simp [get?, h, hfresh]
    · simp [get?, hfresh, hk, Ne.symm hk]

@[simp] lemma policy_ensure (s : Store) (key : Key) : (s.ensure key).policy = s.policy := by
  rw [ensure]
  split <;> rfl

@[simp] lemma policy_apply (s : Store) (m : Message) : (s.apply m).policy = s.policy :=
  policy_ensure s m.key

/-! ### Messages -/

/-- **A message changes its own instrument**: under its key stands what was there, or a fresh
instrument in the next row, after the message; under all other keys nothing changes. -/
lemma get?_apply (s : Store) (m : Message) (k : Key) :
    (s.apply m).get? k =
      if k = m.key then
        some (((s.get? m.key).getD (.fresh m.key (s.order.length + firstRow))).after s.policy m)
      else s.get? k := by
  rw [apply, get?_modify _ _ _ (fun i => Instrument.key_after i s.policy m), get?_ensure]
  split <;> simp

/-- **A message is answered by the row** at which its key stands from then on. -/
lemma row_receive (s : Store) (m : Message) :
    (s.apply m).rowOf? m.key = some (s.receive m).1 := by
  rw [rowOf?, get?_apply, if_pos rfl, Option.map_some, Instrument.row_after]
  rfl

/-- A message for a key that is not in the table puts the key at the end of the rows. -/
lemma order_apply (s : Store) (m : Message) :
    (s.apply m).order = if (s.get? m.key).isSome then s.order else s.order ++ [m.key] := by
  simp only [apply, modify, ensure]
  split <;> simp_all

/-- A message for a key that is not in the table adds one instrument. -/
lemma size_apply (s : Store) (m : Message) :
    (s.apply m).size = if (s.get? m.key).isSome then s.size else s.size + 1 := by
  simp only [size, apply, modify, ensure, List.length_map]
  split <;> simp_all

/-- A message for a key that is not in the table puts the key at the end of the table's keys. -/
lemma keys_apply (s : Store) (m : Message) :
    (s.apply m).table.map Instrument.key =
      if (s.get? m.key).isSome then s.table.map Instrument.key
      else s.table.map Instrument.key ++ [m.key] := by
  have hkey : ∀ i : Instrument,
      (if i.key = m.key then i.after s.policy m else i).key = i.key := fun i => by
    split <;> simp
  simp only [apply, modify, ensure, List.map_map, Function.comp_def, hkey]
  split <;> simp_all [Instrument.fresh]

/-! ### Marks -/

/-- Turning the mark at a row changes the instrument of the key at this row and no other. -/
lemma get?_toggleMark (s : Store) (row : Nat) (k : Key) :
    (s.toggleMark row).get? k =
      if s.keyAt? row = some k then (s.get? k).map fun i => { i with marked := !i.marked }
      else s.get? k := by
  rw [toggleMark]
  split
  · next key h =>
    rw [get?_modify]
    · simp only [h, Option.some.injEq, eq_comm]
    · exact fun _ => rfl
  · next h => simp [h]

@[simp] lemma order_toggleMark (s : Store) (row : Nat) : (s.toggleMark row).order = s.order := by
  rw [toggleMark]
  split <;> rfl

@[simp] lemma size_toggleMark (s : Store) (row : Nat) : (s.toggleMark row).size = s.size := by
  rw [toggleMark]
  split <;> simp [modify, size]

/-- At the row itself the instrument with its mark turned is found. -/
lemma atRow?_toggleMark (s : Store) (row : Nat) :
    (s.toggleMark row).atRow? row =
      (s.atRow? row).map fun i => { i with marked := !i.marked } := by
  have hkey : (s.toggleMark row).keyAt? row = s.keyAt? row := by
    rw [keyAt?, order_toggleMark, keyAt?]
  rw [atRow?, atRow?, hkey]
  cases hk : s.keyAt? row with
  | none => rfl
  | some k => exact (get?_toggleMark s row k).trans (if_pos hk)

/-- **A mark that is turned is answered by the new mark**, and a row without an instrument by none; then
nothing has changed. -/
lemma turnMark_eq (s : Store) (row : Nat) :
    s.turnMark row = (((s.toggleMark row).atRow? row).map Instrument.marked,
      if (s.atRow? row).isSome then s.toggleMark row else s) := by
  rw [turnMark, atRow?_toggleMark]
  cases s.atRow? row <;> rfl

/-- Marks do not touch the keys of the table. -/
lemma keys_toggleMark (s : Store) (row : Nat) :
    (s.toggleMark row).table.map Instrument.key = s.table.map Instrument.key := by
  rw [toggleMark]
  split
  · next key _ =>
    have hkey : ∀ i : Instrument,
        (if i.key = key then { i with marked := !i.marked } else i).key = i.key := fun i => by
      split <;> rfl
    simp only [modify, List.map_map, Function.comp_def, hkey]
  · rfl

/-! ### Sorting -/

/-- A new order of the rows gives every instrument the row of its key. -/
lemma get?_arrange (s : Store) (order : List Key) (k : Key) :
    (s.arrange order).get? k =
      (s.get? k).map fun i => { i with row := order.idxOf i.key + firstRow } := by
  rw [get?, arrange, find?_map_key]
  · rfl
  · exact fun _ => rfl

/-- Sorting changes the rows of instruments and nothing else about them. -/
lemma get?_sort (s : Store) (descending : Bool) (k : Key) :
    (s.sort descending).get? k =
      (s.get? k).map fun i =>
        { i with row := (s.sortedKeys descending).idxOf i.key + firstRow } :=
  get?_arrange s _ k

/-- Sorting neither loses nor repeats a key. -/
lemma sortedKeys_perm (s : Store) (descending : Bool) :
    (s.sortedKeys descending).Perm s.order := by
  rw [sortedKeys]
  cases descending with
  | false => exact List.mergeSort_perm _ _
  | true => exact (List.reverse_perm _).trans (List.mergeSort_perm _ _)

end MarketBoard.Store

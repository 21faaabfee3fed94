import MarketBoard.Proofs.Instrument.Order
import MarketBoard.Proofs.Store.Rows

/-!
Sorting puts the rows in the one order of their keys.

* `pairwise_sortedKeys`: in ascending order every key stands before all that follow.
  `sortedKeys_eq_of_pairwise`: there is no other such order.
* `sortedKeys_congr`: the order depends on which keys there are, and on nothing else.
* `sort_sort`: an earlier sort leaves no trace.
* `sort_canonical`: what sorting does to a store, whatever happened to it before.
-/

namespace MarketBoard.Store

variable {s s' : Store}

/-! ### The order of the keys -/

/-- A sorted store shows its keys in the sorted order. -/
@[simp] lemma order_sort (s : Store) (descending : Bool) :
    (s.sort descending).order = s.sortedKeys descending := rfl

/-- Descending order is ascending order read from its end. -/
lemma sortedKeys_true (s : Store) : s.sortedKeys true = (s.sortedKeys false).reverse := rfl

/-- In ascending order no key stands behind one that follows. -/
lemma pairwise_isLE_sortedKeys (s : Store) :
    (s.sortedKeys false).Pairwise fun a b => (Key.compare a b).isLE := by
  refine List.pairwise_mergeSort (fun _ _ _ => Std.TransCmp.isLE_trans) (fun a b => ?_) s.order
  have hswap : Key.compare b a = (Key.compare a b).swap := Std.OrientedCmp.eq_swap
  rw [hswap]
  cases Key.compare a b <;> rfl

/-- **The order depends on the keys alone**: rows that show the same keys are put in the same order. -/
lemma sortedKeys_congr (h : s.order.Perm s'.order) (descending : Bool) :
    s.sortedKeys descending = s'.sortedKeys descending := by
  have hperm : (s.sortedKeys false).Perm (s'.sortedKeys false) :=
    (sortedKeys_perm s false).trans (h.trans (sortedKeys_perm s' false).symm)
  have hascending : s.sortedKeys false = s'.sortedKeys false :=
    hperm.eq_of_pairwise (fun _ _ _ _ => Key.eq_of_isLE) (pairwise_isLE_sortedKeys s)
      (pairwise_isLE_sortedKeys s')
  cases descending with
  | false => exact hascending
  | true => rw [sortedKeys_true, sortedKeys_true, hascending]

/-- **In ascending order every key stands before all that follow.** -/
lemma pairwise_sortedKeys (h : s.order.Nodup) : (s.sortedKeys false).Pairwise Key.Before := by
  have hnodup : (s.sortedKeys false).Nodup := (sortedKeys_perm s false).nodup_iff.mpr h
  refine (pairwise_isLE_sortedKeys s).imp₂ (fun a b hle hne => ?_) hnodup
  obtain hlt | heq := Ordering.isLE_iff_eq_lt_or_eq_eq.mp hle
  · exact Key.compare_eq_lt_iff.mp hlt
  · exact absurd (Std.LawfulEqCmp.eq_of_compare heq) hne

/-- No other order of the keys is ascending. -/
lemma sortedKeys_eq_of_pairwise {keys : List Key} (hperm : keys.Perm s.order)
    (hkeys : keys.Pairwise Key.Before) : s.sortedKeys false = keys := by
  have hle : keys.Pairwise fun a b => (Key.compare a b).isLE :=
    hkeys.imp fun h => Ordering.isLE_iff_eq_lt_or_eq_eq.mpr (.inl (Key.compare_eq_lt_iff.mpr h))
  exact ((sortedKeys_perm s false).trans hperm.symm).eq_of_pairwise
    (fun _ _ _ _ => Key.eq_of_isLE) (pairwise_isLE_sortedKeys s) hle

/-! ### Sorting again -/

/-- New rows replace the rows that were there. -/
lemma arrange_arrange (s : Store) (order order' : List Key) :
    (s.arrange order).arrange order' = s.arrange order' := by
  simp [arrange]

/-- **An earlier sort leaves no trace.** -/
lemma sort_sort (s : Store) (first second : Bool) : (s.sort first).sort second = s.sort second := by
  have hkeys : (s.sort first).sortedKeys second = s.sortedKeys second :=
    sortedKeys_congr (sortedKeys_perm s first) second
  rw [Store.sort, hkeys, Store.sort, arrange_arrange, ← Store.sort]

/-! ### Sorting after a history -/

/-- Two sound stores with the same keys show the same keys in their rows. -/
lemma IsSound.perm_order (h : s.IsSound) (h' : s'.IsSound)
    (hkeys : ∀ k, (s.get? k).isSome ↔ (s'.get? k).isSome) : s.order.Perm s'.order := by
  refine (List.perm_ext_iff_of_nodup h.nodup_order h'.nodup_order).mpr fun k => ?_
  rw [h.mem_order_iff, h'.mem_order_iff, hkeys]

/-- Sorting gives every instrument the place of its key and changes nothing else. -/
lemma get?_sort_eq (s : Store) (descending : Bool) (k : Key) :
    (s.sort descending).get? k =
      (s.get? k).map fun i => { i with row := (s.sort descending).order.idxOf k + 1 } := by
  rw [get?_sort]
  cases hk : s.get? k with
  | none => rfl
  | some i =>
      rw [Option.map_some, Option.map_some, (mem_table_of_get? hk).2]
      rfl

/-- **Sorting is canonical and loses nothing.**
After every history, the rows that a sort gives show the keys of the store, each once. They are the
same for every other history that has led to the same keys, under any policy. Ascending, every key
stands before all that follow, by the bytes of its label, then of its symbol, then by its source;
descending, the rows are those read from the end. Every instrument gets the row of its key and keeps
everything else, and so does the store. Sorting a second time gives what the second sort alone
would give. The keys with which a sort is answered are those of the rows, from the first row on. -/
theorem sort_canonical (policy : Recoloring) (steps : List Step) :
    let s := (empty policy).run steps
    (∀ descending, (s.sort descending).order.Perm (s.table.map Instrument.key) ∧
      (s.sort descending).order.Nodup ∧
      ∀ k, k ∈ (s.sort descending).order ↔ (s.get? k).isSome) ∧
    (∀ (policy' : Recoloring) (steps' : List Step),
      (∀ k, (((empty policy').run steps').get? k).isSome ↔ (s.get? k).isSome) →
        ∀ descending, (((empty policy').run steps').sort descending).order =
          (s.sort descending).order) ∧
    (s.sort false).order.Pairwise Key.Before ∧
    (s.sort true).order = (s.sort false).order.reverse ∧
    (∀ descending k, (s.sort descending).get? k =
      (s.get? k).map fun i => { i with row := (s.sort descending).order.idxOf k + 1 }) ∧
    (∀ descending, (s.sort descending).policy = s.policy ∧
      (s.sort descending).table.map Instrument.key = s.table.map Instrument.key) ∧
    (∀ first second, (s.sort first).sort second = s.sort second) ∧
    ∀ descending, (s.rearrange descending).2 = s.sort descending ∧
      ∀ i, (s.rearrange descending).1[i]? = (s.sort descending).keyAt? (i + 1) := by
  intro s
  have hs : s.IsSound := (isSound_empty policy).run steps
  refine ⟨fun descending => ?_, fun policy' steps' hkeys descending => ?_, ?_, sortedKeys_true s,
    get?_sort_eq s, fun descending => ⟨rfl, ?_⟩, sort_sort s, fun descending => ⟨rfl, fun i => ?_⟩⟩
  · have hperm := (sortedKeys_perm s descending).trans hs.perm
    refine ⟨hperm, hperm.nodup_iff.mpr hs.nodup, fun k => ?_⟩
    rw [isSome_get?_iff]
    exact hperm.mem_iff
  · exact sortedKeys_congr (((isSound_empty policy').run steps').perm_order hs hkeys) descending
  · exact pairwise_sortedKeys hs.nodup_order
  · simp [Store.sort, arrange]
  · rw [keyAt?, if_neg (show ¬ i + 1 < firstRow by simp [firstRow])]
    rfl

/-- Three instruments, two of which have one label, in two histories that agree in nothing but the
keys: the symbol decides between equal labels. -/
theorem sort_canonical_equal_labels :
    let first : List Step := [.message (.trade ⟨⟨"B", 1⟩, 5, 1⟩),
      .message (.trade ⟨⟨"A/C", 1⟩, 5, 1⟩), .message (.trade ⟨⟨"A-C", 1⟩, 5, 1⟩)]
    let second : List Step := [.message (.quote ⟨⟨"A-C", 1⟩, 1, 2, 3, 4⟩), .sort true,
      .message (.trade ⟨⟨"A/C", 1⟩, 7, 2⟩), .mark 1, .message (.quote ⟨⟨"B", 1⟩, 1, 2, 3, 4⟩)]
    let s := (empty .trades).run first
    let s' := (empty .quotesAndTrades).run second
    (∀ k, (s'.get? k).isSome ↔ (s.get? k).isSome) ∧
      (⟨"A/C", 1⟩ : Key).label = (⟨"A-C", 1⟩ : Key).label ∧
      (s.sort false).order = [⟨"A-C", 1⟩, ⟨"A/C", 1⟩, ⟨"B", 1⟩] ∧
      (s'.sort false).order = [⟨"A-C", 1⟩, ⟨"A/C", 1⟩, ⟨"B", 1⟩] ∧
      (s'.sort true).order = (s.sort true).order := by
  intro first second s s'
  have hs : s.IsSound := (isSound_empty .trades).run first
  have hs' : s'.IsSound := (isSound_empty .quotesAndTrades).run second
  have hperm : s'.order.Perm s.order := by decide +kernel
  have hkeys : ∀ k, (s'.get? k).isSome ↔ (s.get? k).isSome := fun k => by
    rw [← hs'.mem_order_iff, ← hs.mem_order_iff]
    exact hperm.mem_iff
  have hascending : (s.sort false).order = [⟨"A-C", 1⟩, ⟨"A/C", 1⟩, ⟨"B", 1⟩] :=
    sortedKeys_eq_of_pairwise (by decide +kernel) (by decide +kernel)
  have hsame := (sort_canonical .trades first).2.1 .quotesAndTrades second hkeys
  exact ⟨hkeys, by decide +kernel, hascending, (hsame false).trans hascending, hsame true⟩

end MarketBoard.Store

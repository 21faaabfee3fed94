import MarketBoard.Instrument.Key
import Mathlib.Tactic.Lemma

/-!
The order of keys.

* `Key.Before`: one key stands before another, by the bytes of its label, then of its symbol, then by
  its source. `Key.compare_eq_lt_iff`: this is the order in which keys are compared.
* `Key.compare_eq_lex`: three comparisons one after the other, hence transitive, and only equal keys
  are equal in it.
-/

namespace MarketBoard

namespace Key

/-! ### Texts -/

/-- Bytes are compared one by one: the first two that differ decide, and bytes that go on stand
behind those that end. -/
lemma compare_bytes_eq_lt_iff (xs ys : List UInt8) : Ord.compare xs ys = .lt ↔ xs < ys := by
  show List.compareLex Ord.compare xs ys = .lt ↔ xs < ys
  induction xs generalizing ys with
  | nil => cases ys <;> simp [List.compareLex]
  | cons x xs ih =>
      cases ys with
      | nil => simp [List.compareLex]
      | cons y ys =>
          rw [List.compareLex_cons_cons, Ordering.then_eq_lt, Std.compare_eq_lt,
            Std.compare_eq_iff_eq, ih, List.cons_lt_cons_iff]

/-- Texts with the same bytes are the same. -/
lemma textBytes_inj {s t : String} : textBytes s = textBytes t ↔ s = t := by
  simp [textBytes, ← ByteArray.ext_iff, String.toByteArray_inj]

/-! ### Keys -/

/-- **One key stands before another**: the bytes of its label are smaller; or the labels are equal,
and the bytes of its symbol are smaller, or this is equal as well and its source is smaller. -/
def Before (a b : Key) : Prop :=
  textBytes a.label < textBytes b.label ∨
    a.label = b.label ∧
      (textBytes a.symbol < textBytes b.symbol ∨ a.symbol = b.symbol ∧ a.source < b.source)

instance (a b : Key) : Decidable (a.Before b) := inferInstanceAs (Decidable (_ ∨ _ ∧ (_ ∨ _ ∧ _)))

/-- Keys are compared in this order. -/
lemma compare_eq_lt_iff {a b : Key} : Key.compare a b = .lt ↔ a.Before b := by
  simp only [Key.compare, Before, Ordering.then_eq_lt, compare_bytes_eq_lt_iff,
    Std.compare_eq_iff_eq, Std.compare_eq_lt, textBytes_inj]

/-- The comparison of keys is made of three others. -/
lemma compare_eq_lex :
    Key.compare = compareLex (compareOn fun k => textBytes k.label)
      (compareLex (compareOn fun k => textBytes k.symbol) (compareOn source)) := rfl

instance : Std.TransCmp Key.compare := by
  rw [compare_eq_lex]
  infer_instance

instance : Std.LawfulEqCmp Key.compare where
  eq_of_compare {a b} h := by
    simp only [Key.compare, Ordering.then_eq_eq, Std.compare_eq_iff_eq, textBytes_inj] at h
    obtain ⟨-, hsymbol, hsource⟩ := h
    cases a
    cases b
    exact congr (congrArg Key.mk hsymbol) hsource

/-- Of two keys neither of which stands behind the other, both are the same. -/
lemma eq_of_isLE {a b : Key} (hab : (Key.compare a b).isLE) (hba : (Key.compare b a).isLE) : a = b :=
  Std.LawfulEqCmp.eq_of_compare (Std.OrientedCmp.isLE_antisymm hab hba)

end Key

end MarketBoard

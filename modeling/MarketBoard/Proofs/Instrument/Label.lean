import MarketBoard.Instrument.Key
import Mathlib.Data.List.Basic
import Mathlib.Data.List.TakeWhile
import Mathlib.Tactic.Lemma

/-!
Which instruments look alike.

* `IsSlashed`: a text with its first hyphen, if it has one, replaced by a slash. `isSlashed_iff`: this
  is what becomes of a symbol in a label.
* `Key.label_eq_iff_slashed`: a label is taken apart at its last point, so it tells the source.
* `Key.label_eq_iff`: two keys have one label exactly if they have one source and their symbols are
  slashed to one text; without slashes in the symbols, only if they are equal.
-/

namespace MarketBoard

/-! ### Slashes for hyphens -/

/-- **A text with its first hyphen replaced by a slash**; without a hyphen it stays as it is. -/
inductive IsSlashed : List Char → List Char → Prop where
  /-- There is no hyphen. -/
  | keep {text : List Char} (h : '-' ∉ text) : IsSlashed text text
  /-- No hyphen stands in front of the one that is replaced. -/
  | turn {front : List Char} (h : '-' ∉ front) (back : List Char) :
      IsSlashed (front ++ '-' :: back) (front ++ '/' :: back)

lemma slashed_of_not_mem {text : List Char} (h : '-' ∉ text) : slashed text = text := by
  have hdrop : text.dropWhile (· ≠ '-') = [] :=
    List.dropWhile_eq_nil_iff.mpr fun c hc => decide_eq_true (ne_of_mem_of_not_mem hc h)
  rw [slashed, hdrop]

lemma slashed_append {front : List Char} (h : '-' ∉ front) (back : List Char) :
    slashed (front ++ '-' :: back) = front ++ '/' :: back := by
  have hfront : ∀ c ∈ front, decide (c ≠ '-') = true := fun c hc =>
    decide_eq_true (ne_of_mem_of_not_mem hc h)
  rw [slashed, List.dropWhile_append_of_pos hfront, List.takeWhile_append_of_pos hfront]
  simp

/-- **Only the first hyphen of a symbol is turned into a slash.** -/
lemma isSlashed_iff {text result : List Char} : IsSlashed text result ↔ slashed text = result := by
  constructor
  · rintro (h | ⟨h, back⟩)
    · exact slashed_of_not_mem h
    · exact slashed_append h back
  · rintro rfl
    by_cases h : '-' ∈ text
    · obtain ⟨front, back, rfl, hfront⟩ := List.eq_append_cons_of_mem h
      rw [slashed_append hfront]
      exact .turn hfront back
    · rw [slashed_of_not_mem h]
      exact .keep h

/-- A text without slashes is known from the text to which it is slashed: the one slash in there was
the first hyphen. -/
lemma IsSlashed.eq_of_not_mem {text text' result : List Char} (h : IsSlashed text result)
    (h' : IsSlashed text' result) (hslash : '/' ∉ text) (hslash' : '/' ∉ text') : text = text' := by
  cases h with
  | keep =>
      cases h' with
      | keep => rfl
      | turn => exact absurd (List.mem_append_right _ List.mem_cons_self) hslash
  | @turn front _ back =>
      generalize hresult : front ++ '/' :: back = result at h'
      cases h' with
      | keep =>
          refine absurd ?_ hslash'
          rw [← hresult]
          exact List.mem_append_right _ List.mem_cons_self
      | @turn front' _ back' =>
          have hfront : '/' ∉ front := fun hc => hslash (List.mem_append_left _ hc)
          have hback : '/' ∉ back := fun hc =>
            hslash (List.mem_append_right _ (List.mem_cons_of_mem _ hc))
          obtain ⟨rfl, -, rfl⟩ := (List.append_cons_inj_of_notMem hfront hback).mp hresult
          rfl

/-! ### Labels -/

/-- A text is taken apart at its last point. -/
lemma append_point_inj {front front' back back' : List Char} (h : '.' ∉ back) (h' : '.' ∉ back') :
    front ++ '.' :: back = front' ++ '.' :: back' ↔ front = front' ∧ back = back' := by
  constructor
  · intro heq
    rcases List.append_eq_append_iff.mp heq with ⟨middle, rfl, hmiddle⟩ | ⟨middle, rfl, hmiddle⟩
    · cases middle with
      | nil => simpa using hmiddle
      | cons c middle =>
          obtain ⟨-, rfl⟩ := List.cons.inj hmiddle
          exact absurd (List.mem_append_right _ List.mem_cons_self) h
    · cases middle with
      | nil => simpa [eq_comm] using hmiddle
      | cons c middle =>
          obtain ⟨-, rfl⟩ := List.cons.inj hmiddle
          exact absurd (List.mem_append_right _ List.mem_cons_self) h'
  · rintro ⟨rfl, rfl⟩
    rfl

/-- There is no point among the digits of a number. -/
lemma point_not_mem_toDigits (n : Nat) : '.' ∉ Nat.toDigits 10 n := by
  intro h
  have hdigit : '.'.isDigit = true := Nat.isDigit_of_mem_toDigits (by decide) (by decide) h
  exact absurd hdigit (by decide)

/-- Numbers are known from their digits. -/
lemma toDigits_ten_inj {n m : Nat} : Nat.toDigits 10 n = Nat.toDigits 10 m ↔ n = m := by
  refine ⟨fun h => ?_, congrArg _⟩
  calc n = Nat.ofDigitChars 10 (Nat.toDigits 10 n) 0 := Nat.ofDigitChars_ten_toDigits.symm
    _ = Nat.ofDigitChars 10 (Nat.toDigits 10 m) 0 := by rw [h]
    _ = m := Nat.ofDigitChars_ten_toDigits

namespace Key

/-- **A label tells the source**, which stands behind its last point, and the slashed symbol. -/
lemma label_eq_iff_slashed {a b : Key} :
    a.label = b.label ↔ a.source = b.source ∧ slashed a.symbol.toList = slashed b.symbol.toList := by
  rw [label, label, String.ofList_inj, labelChars, labelChars,
    append_point_inj (point_not_mem_toDigits _) (point_not_mem_toDigits _), toDigits_ten_inj,
    UInt32.toNat_inj, and_comm]

/-- **Which instruments look alike.** Two keys have one label exactly if they have one source and their
symbols become one text when the first hyphen of each, if it has one, is replaced by a slash. So keys of
different sources never share a label, and keys whose symbols contain no slash share it only if they are
equal. -/
theorem label_eq_iff (a b : Key) :
    (a.label = b.label ↔ a.source = b.source ∧
      ∃ text, IsSlashed a.symbol.toList text ∧ IsSlashed b.symbol.toList text) ∧
      (a.source ≠ b.source → a.label ≠ b.label) ∧
      ('/' ∉ a.symbol.toList → '/' ∉ b.symbol.toList → (a.label = b.label ↔ a = b)) := by
  have hiff : a.label = b.label ↔ a.source = b.source ∧
      ∃ text, IsSlashed a.symbol.toList text ∧ IsSlashed b.symbol.toList text := by
    simp only [label_eq_iff_slashed, isSlashed_iff, exists_eq_left']
    rw [eq_comm (a := slashed b.symbol.toList)]
  refine ⟨hiff, fun hsource hlabel => hsource (hiff.mp hlabel).1, fun hslash hslash' => ?_⟩
  constructor
  · intro hlabel
    obtain ⟨hsource, text, h, h'⟩ := hiff.mp hlabel
    have hsymbol : a.symbol = b.symbol :=
      String.toList_inj.mp (h.eq_of_not_mem h' hslash hslash')
    cases a
    cases b
    exact congr (congrArg Key.mk hsymbol) hsource
  · rintro rfl
    rfl

/-- Of two symbols the first hyphens are turned at different places, and they look alike; a point in a
symbol is not taken for the one in front of the source. -/
theorem label_eq_iff_points :
    let a : Key := ⟨"A-B/C", 1⟩
    let b : Key := ⟨"A/B-C", 1⟩
    let c : Key := ⟨"A-B.1", 2⟩
    let d : Key := ⟨"A-B", 12⟩
    a.label = b.label ∧ (c.source ≠ d.source ∧ c.label ≠ d.label) ∧
      '/' ∉ c.symbol.toList ∧ '/' ∉ d.symbol.toList ∧ (c.label = d.label ↔ c = d) := by
  intro a b c d
  have hc : '/' ∉ c.symbol.toList := by decide +kernel
  have hd : '/' ∉ d.symbol.toList := by decide +kernel
  have hsource : c.source ≠ d.source := by decide
  have halike : a.label = b.label :=
    (label_eq_iff a b).1.mpr ⟨rfl, _, isSlashed_iff.mpr rfl, isSlashed_iff.mpr (by decide +kernel)⟩
  exact ⟨halike, ⟨hsource, (label_eq_iff c d).2.1 hsource⟩, hc, hd, (label_eq_iff c d).2.2 hc hd⟩

end Key

end MarketBoard

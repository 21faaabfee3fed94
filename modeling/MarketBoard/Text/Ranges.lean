/-!
Sets of characters, given as ranges of code points in ascending order.

* `Ranges.holds`: one of the ranges holds a code point.
* `Ranges.ascending`: the ranges follow one another without touching.
* `Ranges.holds_iff`: in ascending ranges the search finds what is there, though it stops early.
-/

namespace MarketBoard

/-- Ranges of code points, first and last included. -/
abbrev Ranges := List (Nat × Nat)

namespace Ranges

/-- One of the ranges holds the code point. The search ends at the first range that lies behind
it. -/
def holds : Ranges → Nat → Bool
  | [], _ => false
  | (first, last) :: rest, n =>
    if n < first then false
    else if n ≤ last then true
    else holds rest n

/-- Every range is in order and ends before the next one begins. -/
def ascending : Ranges → Bool
  | [] => true
  | [range] => range.1 ≤ range.2
  | range :: next :: rest => range.1 ≤ range.2 && range.2 < next.1 && ascending (next :: rest)

/-- What is left of ascending ranges is ascending. -/
theorem ascending_of_cons {range : Nat × Nat} {rest : Ranges}
    (h : ascending (range :: rest) = true) : ascending rest = true := by
  cases rest with
  | nil => rfl
  | cons next rest =>
    simp only [ascending, Bool.and_eq_true] at h
    exact h.2

/-- In ascending ranges all that follows lies behind the first one. -/
theorem lt_of_ascending {range later : Nat × Nat} {rest : Ranges}
    (h : ascending (range :: rest) = true) (mem : later ∈ rest) : range.2 < later.1 := by
  induction rest generalizing range with
  | nil => cases mem
  | cons next rest ih =>
    have step : range.2 < next.1 := by
      simp only [ascending, Bool.and_eq_true, decide_eq_true_eq] at h
      exact h.1.2
    have inner := ascending_of_cons h
    rcases List.mem_cons.1 mem with rfl | mem
    · exact step
    · have order : next.1 ≤ next.2 := by
        cases rest with
        | nil => simpa [ascending] using inner
        | cons _ _ =>
          simp only [ascending, Bool.and_eq_true, decide_eq_true_eq] at inner
          exact inner.1.1
      exact Nat.lt_of_lt_of_le step (Nat.le_of_lt (Nat.lt_of_le_of_lt order (ih inner mem)))

/-- The search finds exactly what one of the ranges holds. -/
theorem holds_iff {r : Ranges} (h : r.ascending = true) (n : Nat) :
    r.holds n = true ↔ ∃ range ∈ r, range.1 ≤ n ∧ n ≤ range.2 := by
  induction r with
  | nil => simp [holds]
  | cons range rest ih =>
    have later : ∀ next ∈ rest, range.2 < next.1 := fun _ mem => lt_of_ascending h mem
    have ih := ih (ascending_of_cons h)
    have order : range.1 ≤ range.2 := by
      cases rest with
      | nil => simpa [ascending] using h
      | cons _ _ =>
        simp only [ascending, Bool.and_eq_true, decide_eq_true_eq] at h
        exact h.1.1
    unfold holds
    split
    · rename_i below
      simp only [Bool.false_eq_true, List.mem_cons, false_iff, not_exists, not_and]
      intro next mem low
      rcases mem with rfl | mem
      · exact absurd low (Nat.not_le.2 below)
      · have := later next mem
        omega
    · split
      · simp only [List.mem_cons, true_iff]
        exact ⟨range, .inl rfl, by omega, by assumption⟩
      · rw [ih]
        simp only [List.mem_cons, exists_eq_or_imp]
        constructor
        · exact fun found => .inr found
        · rintro (both | found)
          · omega
          · exact found

end Ranges

end MarketBoard

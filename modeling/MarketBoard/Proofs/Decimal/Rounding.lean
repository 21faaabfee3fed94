import MarketBoard.Decimal.Rounding
import Mathlib.Algebra.Order.Field.Rat
import Mathlib.Algebra.Ring.Parity
import Mathlib.Tactic.FieldSimp
import Mathlib.Tactic.Lemma
import Mathlib.Tactic.Linarith
import Mathlib.Tactic.Positivity
import Mathlib.Tactic.Ring

/-!
The values of decimal numbers, and what rounding makes of them.

* `Decimal.value`: the rational number that a decimal number stands for.
* `Decimal.value_sub`, `Decimal.compare_eq_gt_iff`: differences and comparisons are exact, whatever the
  scales.
* `IsNearestEven`: an integer nearest to a rational number, a tie going to the even one.
  `isNearestEven_roundHalfEven`, `Decimal.isNearestEven_round`: rounding finds it.
* `Decimal.IsProper`: a zero has no minus sign. Differences and rounding keep it so.
-/

namespace MarketBoard

namespace Decimal

/-! ### Values -/

/-- The rational number that a decimal number stands for. -/
def value (d : Decimal) : ℚ := d.signed / 10 ^ d.scale

lemma tenTo_eq (places : Nat) : (tenTo places : ℚ) = 10 ^ places := by
  rw [tenTo, Nat.pow_eq, Nat.cast_pow, Nat.cast_ofNat]

lemma tenTo_pos (places : Nat) : 0 < tenTo places := Nat.pow_pos (by decide)

lemma tenTo_mul (m n : Nat) : tenTo m * tenTo n = tenTo (m + n) := (Nat.pow_add 10 m n).symm

lemma natAbs_signed (d : Decimal) : d.signed.natAbs = d.mantissa := by
  rw [signed]
  split <;> omega

/-- The value of a wire integer. -/
lemma value_ofUnits (units : UInt64) : (ofUnits units).value = units.toNat / 10 ^ 8 := by
  simp [value, ofUnits, signed, unitPlaces]

/-- From its own scale on a number is exact in units of a place. -/
lemma signedAt_eq {d : Decimal} {places : Nat} (h : d.scale ≤ places) :
    (d.signedAt places : ℚ) = d.value * 10 ^ places := by
  have hsplit : (10 : ℚ) ^ places = 10 ^ d.scale * 10 ^ (places - d.scale) := by
    rw [← pow_add, Nat.add_sub_cancel' h]
  rw [signedAt, value, Int.cast_mul, Int.cast_natCast, tenTo_eq, hsplit]
  field_simp

lemma signed_eq_zero_iff (d : Decimal) : d.signed = 0 ↔ d.isZero = true := by
  rw [signed, isZero, beq_iff_eq]
  split <;> omega

lemma value_eq_zero {d : Decimal} (h : d.isZero = true) : d.value = 0 := by
  rw [value, (signed_eq_zero_iff d).mpr h, Int.cast_zero, zero_div]

lemma isZero_of_value {d : Decimal} (h : d.value = 0) : d.isZero = true := by
  rw [value, div_eq_zero_iff, or_iff_left (by positivity)] at h
  exact (signed_eq_zero_iff d).mp (by exact_mod_cast h)

/-- **Numbers are compared by their values.** -/
lemma compare_eq_gt_iff (a b : Decimal) : a.compare b = .gt ↔ b.value < a.value := by
  have hpow : (0 : ℚ) < 10 ^ max a.scale b.scale := by positivity
  rw [compare, compare_gt_iff_gt, ← Int.cast_lt (R := ℚ), signedAt_eq (le_max_left _ _),
    signedAt_eq (le_max_right _ _)]
  exact mul_lt_mul_iff_left₀ hpow

lemma value_neg (d : Decimal) : d.neg.value = -d.value := by
  have hsigned : d.neg.signed = -d.signed := by
    obtain ⟨negative, mantissa, scale⟩ := d
    cases negative <;> simp [signed, neg]
  rw [value, hsigned, Int.cast_neg, neg_div]
  rfl

lemma signed_ofSigned (n : Int) (scale : Nat) : (ofSigned n scale).signed = n := by
  simp only [signed, ofSigned, decide_eq_true_eq]
  split <;> omega

/-- **Differences are exact.** -/
lemma value_sub (a b : Decimal) : (a.sub b).value = a.value - b.value := by
  rw [sub]
  split
  · next ha =>
    rw [value_eq_zero ha, zero_sub]
    split
    · next hb => rw [value_eq_zero hb, neg_zero]
    · exact value_neg b
  · split
    · next hb => rw [value_eq_zero hb, sub_zero]
    · have hpow : (10 : ℚ) ^ max a.scale b.scale ≠ 0 := by positivity
      rw [value, signed_ofSigned, Int.cast_sub, signedAt_eq (le_max_left _ _),
        signedAt_eq (le_max_right _ _), ← sub_mul]
      exact mul_div_cancel_right₀ _ hpow

end Decimal

/-! ### Nearest integers -/

/-- **The integer nearest to a rational number**, and of two that are equally near the even one. -/
def IsNearestEven (q : ℚ) (n : ℤ) : Prop := |q - n| ≤ 1 / 2 ∧ (|q - n| = 1 / 2 → Even n)

lemma isNearestEven_intCast (n : ℤ) : IsNearestEven n n := by
  rw [IsNearestEven, sub_self, abs_zero]
  exact ⟨by norm_num, fun h => absurd h (by norm_num)⟩

/-- The sign does not matter. -/
lemma IsNearestEven.neg {q : ℚ} {n : ℤ} (h : IsNearestEven q n) : IsNearestEven (-q) (-n) := by
  have habs : |-q - ((-n : ℤ) : ℚ)| = |q - n| := by
    rw [Int.cast_neg, ← abs_neg]
    ring_nf
  rw [IsNearestEven, habs]
  exact ⟨h.1, fun htie => (h.2 htie).neg⟩

/-- **Rounding half to even finds the nearest integer.** -/
lemma isNearestEven_roundHalfEven (num : Nat) {den : Nat} (hden : 0 < den) :
    IsNearestEven (num / den : ℚ) (roundHalfEven num den) := by
  obtain ⟨floor, rest, hrest, rfl⟩ : ∃ floor rest, rest < den ∧ num = den * floor + rest :=
    ⟨num / den, num % den, Nat.mod_lt _ hden, (Nat.div_add_mod num den).symm⟩
  have hdiv : (den * floor + rest) / den = floor := by
    rw [Nat.mul_add_div hden, Nat.div_eq_of_lt hrest, Nat.add_zero]
  have hmod : (den * floor + rest) % den = rest := by
    rw [Nat.mul_add_mod, Nat.mod_eq_of_lt hrest]
  have hpos : (0 : ℚ) < den := Nat.cast_pos.mpr hden
  -- what is cut off, as a part of one
  have hpart : (((den * floor + rest : Nat) : ℚ) / den) = floor + rest / den := by
    push_cast
    field_simp
  have hnonneg : (0 : ℚ) ≤ rest / den := by positivity
  rw [hpart, roundHalfEven, hdiv, hmod]
  cases horder : Ord.compare (2 * rest) den with
  | lt =>
      have hless : (rest : ℚ) / den < 1 / 2 := by
        rw [div_lt_div_iff₀ hpos two_pos, one_mul]
        exact_mod_cast (Nat.mul_comm rest 2 ▸ Nat.compare_eq_lt.mp horder)
      have habs : |(floor + rest / den - ((floor : ℕ) : ℤ) : ℚ)| = rest / den := by
        rw [Int.cast_natCast, add_sub_cancel_left, abs_of_nonneg hnonneg]
      rw [IsNearestEven, habs]
      exact ⟨hless.le, fun htie => absurd htie hless.ne⟩
  | gt =>
      have hmore : 1 / 2 < (rest : ℚ) / den := by
        rw [div_lt_div_iff₀ two_pos hpos, one_mul]
        exact_mod_cast (Nat.mul_comm rest 2 ▸ Nat.compare_eq_gt.mp horder)
      have hlt : (rest : ℚ) / den < 1 := (div_lt_one hpos).mpr (Nat.cast_lt.mpr hrest)
      have habs : |(floor + rest / den - ((floor + 1 : ℕ) : ℤ) : ℚ)| = 1 - rest / den := by
        rw [Int.cast_natCast, Nat.cast_add, Nat.cast_one, abs_of_nonpos (by linarith)]
        ring
      rw [IsNearestEven, habs]
      exact ⟨by linarith, fun htie => absurd htie (by linarith)⟩
  | eq =>
      have hhalf : (rest : ℚ) / den = 1 / 2 := by
        rw [div_eq_div_iff hpos.ne' two_ne_zero, one_mul]
        exact_mod_cast (Nat.mul_comm rest 2 ▸ Nat.compare_eq_eq.mp horder)
      rw [hhalf]
      dsimp only
      split
      · next heven =>
        have habs : |(floor + 1 / 2 - ((floor : ℕ) : ℤ) : ℚ)| = 1 / 2 := by
          rw [Int.cast_natCast, add_sub_cancel_left, abs_of_pos (by norm_num)]
        rw [IsNearestEven, habs]
        exact ⟨le_refl _, fun _ => (Int.even_coe_nat floor).mpr (Nat.even_iff.mpr heven)⟩
      · next hodd =>
        have habs : |(floor + 1 / 2 - ((floor + 1 : ℕ) : ℤ) : ℚ)| = 1 / 2 := by
          rw [Int.cast_natCast, Nat.cast_add, Nat.cast_one, abs_of_nonpos (by linarith)]
          ring
        rw [IsNearestEven, habs]
        refine ⟨le_refl _, fun _ => (Int.even_coe_nat _).mpr (Nat.even_iff.mpr ?_)⟩
        omega

namespace Decimal

/-- **A rounded number is nearest to the number in units of its last place.** -/
lemma isNearestEven_round (d : Decimal) (places : Nat) :
    IsNearestEven (d.value * 10 ^ places) ((d.round places).signedAt places) := by
  rw [round]
  split
  · next hscale =>
    rw [← signedAt_eq hscale]
    exact isNearestEven_intCast _
  · next hscale =>
    split
    · next hzero =>
      have hsigned : ({ d with scale := places } : Decimal).signed = 0 :=
        (signed_eq_zero_iff _).mpr hzero
      rw [value_eq_zero hzero, zero_mul, signedAt, hsigned, Int.zero_mul]
      exact isNearestEven_intCast 0
    · -- the places that go are those of the divisor
      have hvalue : d.value * 10 ^ places = d.signed / tenTo (d.scale - places) := by
        have hsplit : (10 : ℚ) ^ d.scale = 10 ^ places * 10 ^ (d.scale - places) := by
          rw [← pow_add, Nat.add_sub_cancel' (by omega)]
        rw [value, tenTo_eq, hsplit]
        field_simp
      have hnearest := isNearestEven_roundHalfEven d.mantissa (tenTo_pos (d.scale - places))
      have hsigned : IsNearestEven (d.signed / tenTo (d.scale - places))
          (if d.negative then -(roundHalfEven d.mantissa (tenTo (d.scale - places)) : ℤ)
            else roundHalfEven d.mantissa (tenTo (d.scale - places))) := by
        rw [signed]
        cases d.negative with
        | false => simpa using hnearest
        | true =>
            have hneg := hnearest.neg
            rw [← neg_div] at hneg
            simpa using hneg
      rw [hvalue]
      dsimp only
      split
      · next hm =>
        rw [hm] at hsigned
        simpa [signedAt, signed, zero] using hsigned
      · simpa [signedAt, signed] using hsigned

/-! ### Zeros without a minus sign -/

/-- A zero has no minus sign. -/
def IsProper (d : Decimal) : Prop := d.negative = true → d.mantissa ≠ 0

lemma isProper_of_nonneg {d : Decimal} (h : d.negative = false) : d.IsProper := by
  intro hneg
  rw [h] at hneg
  cases hneg

/-- Wire integers have no sign. -/
lemma isProper_ofUnits (units : UInt64) : (ofUnits units).IsProper :=
  isProper_of_nonneg rfl

/-- The difference of zeros and a difference that is zero have no minus sign. -/
lemma IsProper.sub {a b : Decimal} (ha : a.IsProper) (hb : b.IsProper) : (a.sub b).IsProper := by
  rw [Decimal.sub]
  split
  · split
    · exact hb
    · next hne => exact fun _ hzero => hne (beq_iff_eq.mpr hzero)
  · split
    · exact ha
    · intro hneg hzero
      simp only [ofSigned, decide_eq_true_eq] at hneg hzero
      omega

/-- A number that rounds to zero loses its sign. -/
lemma IsProper.round {d : Decimal} (h : d.IsProper) (places : Nat) : (d.round places).IsProper := by
  rw [Decimal.round]
  split
  · exact h
  · split
    · exact h
    · dsimp only
      split
      · exact isProper_of_nonneg rfl
      · next hm => exact fun _ => hm

end Decimal

end MarketBoard

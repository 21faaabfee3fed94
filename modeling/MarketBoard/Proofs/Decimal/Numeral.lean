import MarketBoard.Decimal.Text
import MarketBoard.Proofs.Decimal.Rounding
import MarketBoard.Proofs.Screen.Writing

/-!
Numbers in print are the numbers that they stand for.

* `IsWhole`: the digits of a whole number, without needless zeros in front. `isWhole_digits`: those that
  are printed.
* `IsNumeral`: a number in plain decimal digits with a given number of places behind the point.
* `Decimal.isNumeral_fixedText`: the text of a number with fixed places is the rounded number.
* `Decimal.length_fixedText_le`, `Decimal.length_fixedText_ofUnits_le`: how long such a text can be.
* `IsNumeral.isAscii`: such a text takes a cell for each of its characters.
-/

namespace MarketBoard

/-- **The digits of a whole number**: they are read as this number, and no zero stands in front of
others. -/
structure IsWhole (n : Nat) (text : List Char) : Prop where
  digits : ∀ c ∈ text, c.isDigit = true
  read : Nat.ofDigitChars 10 text 0 = n
  ne_nil : text ≠ []
  lead : text.head? = some '0' → text = ['0']

/-- **A number in plain decimal digits**, given in units of its last place: a minus sign if it is
negative, the digits of its whole part, and behind a point, if there are places, exactly as many digits
as there are places. -/
def IsNumeral (places : Nat) (n : ℤ) (text : List Char) : Prop :=
  ∃ whole behind, text = (if n < 0 then ['-'] else []) ++ whole ++
      (if places = 0 then [] else '.' :: behind) ∧
    IsWhole (n.natAbs / 10 ^ places) whole ∧
    behind.length = places ∧ (∀ c ∈ behind, c.isDigit = true) ∧
    Nat.ofDigitChars 10 (whole ++ behind) 0 = n.natAbs

/-! ### Digits -/

/-- The first of the digits that are printed is zero for zero alone. -/
lemma head?_digits_ne {n : Nat} (h : 0 < n) : (digits n).head? ≠ some '0' := by
  rw [digits]
  induction n using Nat.strong_induction_on with
  | _ n ih =>
      rw [Nat.toDigits_eq_if (by decide)]
      split
      · next hlt =>
        have hdigit : ∀ m < 10, 0 < m → m.digitChar ≠ '0' := by decide
        simpa using hdigit n hlt h
      · next hge =>
        have hfirst := ih (n / 10) (by omega) (by omega)
        rwa [List.head?_append_of_ne_nil _ Nat.toDigits_ne_nil]

/-- **The digits that are printed** are those of the number. -/
lemma isWhole_digits (n : Nat) : IsWhole n (digits n) where
  digits _ hc := Nat.isDigit_of_mem_toDigits (by decide) (by decide) hc
  read := Nat.ofDigitChars_ten_toDigits
  ne_nil := Nat.toDigits_ne_nil
  lead hhead := by
    obtain rfl | hpos := Nat.eq_zero_or_pos n
    · rfl
    · exact absurd hhead (head?_digits_ne hpos)

/-- As many digits behind the point as there are places. -/
lemma length_placeDigits {places n : Nat} (hplaces : 0 < places) (h : n < 10 ^ places) :
    (placeDigits places n).length = places := by
  have hlength : (digits n).length ≤ places := (Nat.length_toDigits_le_iff (by decide) hplaces).mpr h
  rw [placeDigits, List.length_append, List.length_replicate]
  omega

lemma isDigit_of_mem_placeDigits {places n : Nat} {c : Char} (hc : c ∈ placeDigits places n) :
    c.isDigit = true := by
  rcases List.mem_append.mp hc with hc | hc
  · rw [List.eq_of_mem_replicate hc]
    rfl
  · exact (isWhole_digits n).digits c hc

/-- Zeros in front do not count. -/
lemma read_placeDigits (places n : Nat) : Nat.ofDigitChars 10 (placeDigits places n) 0 = n := by
  rw [placeDigits, Nat.ofDigitChars_append, Nat.ofDigitChars_replicate_zero, Nat.mul_zero]
  exact Nat.ofDigitChars_ten_toDigits

/-! ### Numerals -/

/-- Digits with a point between them are a numeral. -/
lemma isNumeral_pointed (places : Nat) (n : ℤ) :
    IsNumeral places n ((if n < 0 then ['-'] else []) ++ Decimal.pointed places n.natAbs) := by
  have hten : Decimal.tenTo places = 10 ^ places := rfl
  have hwhole : IsWhole (n.natAbs / 10 ^ places) (digits (n.natAbs / 10 ^ places)) :=
    isWhole_digits _
  obtain rfl | hplaces := Nat.eq_zero_or_pos places
  · refine ⟨digits (n.natAbs / 10 ^ 0), [], ?_, hwhole, rfl, by simp, ?_⟩
    · rw [Decimal.pointed, if_pos rfl, if_pos rfl, List.append_nil, hten]
    · rw [List.append_nil, hwhole.read, Nat.pow_zero, Nat.div_one]
  · have hbehind : n.natAbs % 10 ^ places < 10 ^ places := Nat.mod_lt _ (by positivity)
    refine ⟨_, placeDigits places (n.natAbs % 10 ^ places), ?_, hwhole,
      length_placeDigits hplaces hbehind, fun c => isDigit_of_mem_placeDigits, ?_⟩
    · rw [Decimal.pointed, if_neg hplaces.ne', if_neg hplaces.ne', hten, List.append_assoc]
    · rw [Nat.ofDigitChars_append, hwhole.read, Nat.ofDigitChars_eq_ofDigitChars_zero,
        length_placeDigits hplaces hbehind, read_placeDigits, Nat.div_add_mod]

namespace Decimal

/-- The magnitude of a number in units of a place. -/
lemma natAbs_signedAt (d : Decimal) (places : Nat) :
    (d.signedAt places).natAbs = d.mantissa * tenTo (places - d.scale) := by
  rw [signedAt, Int.natAbs_mul, natAbs_signed, Int.natAbs_natCast]

/-- A number has a minus sign if it is below zero. -/
lemma IsProper.negative_iff {d : Decimal} (h : d.IsProper) (places : Nat) :
    d.negative = true ↔ d.signedAt places < 0 := by
  have hten : (0 : ℤ) < tenTo (places - d.scale) := by exact_mod_cast tenTo_pos _
  have hsign : d.signedAt places < 0 ↔ d.signed < 0 :=
    calc d.signedAt places < 0
        ↔ d.signed * tenTo (places - d.scale) < 0 * tenTo (places - d.scale) := by
          rw [Int.zero_mul, signedAt]
      _ ↔ d.signed < 0 := mul_lt_mul_iff_left₀ hten
  rw [hsign, signed]
  constructor
  · intro hneg
    have := h hneg
    rw [if_pos hneg]
    omega
  · intro hlt
    by_contra hneg
    rw [if_neg hneg] at hlt
    omega

/-- The text of a number with fixed places: the sign of the rounded number, and its digits. -/
lemma fixedText_eq {d : Decimal} (h : d.IsProper) (places : Nat) :
    d.fixedText places = (if (d.round places).signedAt places < 0 then ['-'] else []) ++
      pointed places ((d.round places).signedAt places).natAbs := by
  have hsign : (d.round places).signText =
      if (d.round places).signedAt places < 0 then ['-'] else [] := by
    rw [signText]
    exact if_congr ((h.round places).negative_iff places) rfl rfl
  rw [fixedText, hsign, natAbs_signedAt]

/-- **The text of a number with fixed places is the rounded number** in plain decimal digits. -/
lemma isNumeral_fixedText {d : Decimal} (h : d.IsProper) (places : Nat) :
    IsNumeral places ((d.round places).signedAt places) (d.fixedText places) := by
  rw [fixedText_eq h]
  exact isNumeral_pointed places _

end Decimal

/-- The digits of a whole number are a numeral without places. -/
lemma isNumeral_digits (n : Nat) : IsNumeral 0 n (digits n) := by
  have hnumeral := isNumeral_pointed 0 n
  rw [if_neg (by omega), Decimal.pointed, if_pos rfl, Int.natAbs_natCast] at hnumeral
  simpa using hnumeral

/-! ### The length of a numeral -/

/-- Digits with a point between them: no more in front of it than the magnitude has. -/
lemma length_pointed_le {places whole units : Nat} (hplaces : 0 < places) (hwhole : 0 < whole)
    (h : units < 10 ^ (whole + places)) :
    (Decimal.pointed places units).length ≤ whole + 1 + places := by
  have hten : Decimal.tenTo places = 10 ^ places := rfl
  have hpow : 0 < 10 ^ places := by positivity
  have hfront : (digits (units / 10 ^ places)).length ≤ whole := by
    refine (Nat.length_toDigits_le_iff (by decide) hwhole).mpr ?_
    rwa [Nat.div_lt_iff_lt_mul hpow, ← pow_add]
  have hbehind : (placeDigits places (units % 10 ^ places)).length = places :=
    length_placeDigits hplaces (Nat.mod_lt _ hpow)
  rw [Decimal.pointed, if_neg hplaces.ne', hten, List.length_append, List.length_cons, hbehind]
  omega

namespace Decimal

/-- **The length of the text of a number with fixed places**, if the number is not negative and stays
below a power of ten when it is rounded. -/
lemma length_fixedText_le {d : Decimal} (h : d.IsProper) {places whole : Nat} (hplaces : 0 < places)
    (hwhole : 0 < whole) (hlow : 0 ≤ d.value) (hhigh : d.value + 1 ≤ 10 ^ whole) :
    (d.fixedText places).length ≤ whole + 1 + places := by
  have hnear := abs_le.mp (d.isNearestEven_round places).1
  have hpow : (1 : ℚ) ≤ 10 ^ places := one_le_pow₀ (by norm_num)
  have hlow' : 0 ≤ d.value * 10 ^ places := by positivity
  have hnonneg : 0 ≤ (d.round places).signedAt places := by
    have hgt : (-1 : ℚ) < (d.round places).signedAt places := by linarith
    have hgt : (-1 : ℤ) < (d.round places).signedAt places := by exact_mod_cast hgt
    omega
  have hlt : (d.round places).signedAt places < 10 ^ (whole + places) := by
    have hlt : ((d.round places).signedAt places : ℚ) < 10 ^ (whole + places) := by
      calc ((d.round places).signedAt places : ℚ)
          ≤ d.value * 10 ^ places + 1 / 2 := by linarith
        _ < (d.value + 1) * 10 ^ places := by linarith
        _ ≤ 10 ^ whole * 10 ^ places := by gcongr
        _ = 10 ^ (whole + places) := (pow_add _ _ _).symm
    exact_mod_cast hlt
  rw [fixedText_eq h, if_neg (not_lt.mpr hnonneg), List.nil_append]
  refine length_pointed_le hplaces hwhole ?_
  zify
  rwa [abs_of_nonneg hnonneg]

/-- **No wire integer has more than twelve digits in front of the point.** -/
lemma length_fixedText_ofUnits_le (units : UInt64) {places : Nat} (hplaces : 0 < places) :
    ((ofUnits units).fixedText places).length ≤ 12 + 1 + places := by
  have hunits : (units.toNat : ℚ) ≤ 2 ^ 64 := by exact_mod_cast units.toNat_lt.le
  refine length_fixedText_le (isProper_ofUnits units) hplaces (by decide) ?_ ?_
  · rw [value_ofUnits]
    positivity
  · rw [value_ofUnits]
    linarith

end Decimal

/-! ### The cells of a numeral -/

lemma isAscii_of_isDigit {text : List Char} (h : ∀ c ∈ text, c.isDigit = true) : IsAscii text := by
  intro c hc
  have hdigit := h c hc
  simp only [Char.isDigit, Bool.and_eq_true, decide_eq_true_eq] at hdigit
  have hlow : 48 ≤ c.toNat := UInt32.le_iff_toNat_le.mp hdigit.1
  have hhigh : c.toNat ≤ 57 := UInt32.le_iff_toNat_le.mp hdigit.2
  omega

/-- A numeral is printable ASCII. -/
lemma IsNumeral.isAscii {places : Nat} {n : ℤ} {text : List Char} (h : IsNumeral places n text) :
    IsAscii text := by
  obtain ⟨whole, behind, rfl, hwhole, -, hbehind, -⟩ := h
  refine ((?_ : IsAscii _).append (isAscii_of_isDigit hwhole.digits)).append ?_
  · split <;> decide
  · split
    · decide
    · have hpoint : IsAscii ['.'] := by decide
      exact hpoint.append (isAscii_of_isDigit hbehind)

end MarketBoard

import MarketBoard.Proofs.Decimal.Rounding

/-!
Wire integers and the values that they stand for.

* `Decimal.word?`: a number that is a word of 64 bits. `Decimal.toUnits?_eq_some_iff`: a wire integer
  exists exactly for the values that it holds.
* `Decimal.IsHeld`: the numbers of 96 bits and 28 places. `Decimal.IsProduct`: products of such numbers,
  as far as they are exact. `Decimal.exists_product_or_overflow`: a number times `10 ^ 8` never has to be
  rounded.
* `Decimal.toUnitsBy?`: the conversion by way of such a product. `Decimal.toUnitsBy?_eq_some_iff`: it
  finds the same integers.
* `Decimal.times?`: a product of 96 bits, rounded where it has to be. `Decimal.isProduct_times?`: it is
  exact where it can be.
* `Decimal.units_exact`: the conversions undo each other.
-/

namespace MarketBoard

namespace Decimal

variable {d : Decimal}

/-! ### Numbers that are words -/

lemma signed_neg_iff (d : Decimal) : d.signed < 0 ↔ d.negative = true ∧ ¬ d.isZero = true := by
  rw [← signed_eq_zero_iff, signed]
  cases d.negative
  · simp
  · simp; omega

/-- A value is a whole number if its mantissa is this number with zeros in all places. -/
lemma value_eq_natCast_iff (d : Decimal) (n : Nat) :
    d.value = n ↔ d.signed = n * tenTo d.scale := by
  have hpow : (10 : ℚ) ^ d.scale ≠ 0 := by positivity
  rw [value, div_eq_iff hpow, ← tenTo_eq]
  exact_mod_cast Iff.rfl

/-- The word of 64 bits that a number is: none if it has a part behind the point, has a minus sign, be
it a zero, or does not fit. -/
def word? (d : Decimal) : Option UInt64 :=
  if d.mantissa % tenTo d.scale ≠ 0 then none
  else if d.negative then none
  else
    let whole := d.mantissa / tenTo d.scale
    if whole < UInt64.size then some (UInt64.ofNat whole) else none

/-- The minus sign of a number says that it is negative, if it is no sign of a zero. -/
lemma IsProper.signed_neg_iff (h : d.IsProper) : d.signed < 0 ↔ d.negative = true := by
  rw [Decimal.signed_neg_iff, isZero, beq_iff_eq]
  exact and_iff_left_of_imp h

/-- **A number is a word exactly if that is its value**; only a zero with a minus sign is none. -/
lemma IsProper.word?_eq_some_iff (hproper : d.IsProper) {r : UInt64} :
    d.word? = some r ↔ d.value = r.toNat := by
  have habs := d.natAbs_signed
  have hten := tenTo_pos d.scale
  have hneg := hproper.signed_neg_iff
  rw [value_eq_natCast_iff, word?]
  constructor
  · intro h
    split at h
    · cases h
    · next hwhole =>
      split at h
      · cases h
      · next hsign =>
        dsimp only at h
        split at h
        · next hfits =>
          obtain rfl := Option.some.inj h
          rw [UInt64.toNat_ofNat_of_lt' hfits]
          have hcancel : d.mantissa / tenTo d.scale * tenTo d.scale = d.mantissa :=
            Nat.div_mul_cancel (Nat.dvd_of_mod_eq_zero (not_not.mp hwhole))
          have hsigned : d.signed = d.mantissa := by
            rw [← hneg] at hsign
            omega
          rw [hsigned, ← Nat.cast_mul, hcancel]
        · cases h
  · intro h
    have hmantissa : d.mantissa = r.toNat * tenTo d.scale := by
      rw [← habs, h, Int.natAbs_mul, Int.natAbs_natCast, Int.natAbs_natCast]
    have hsign : ¬ d.negative = true := by
      rw [← hneg, h, not_lt]
      positivity
    have hwhole : ¬ d.mantissa % tenTo d.scale ≠ 0 := by
      rw [hmantissa, not_not, Nat.mul_mod_left]
    have hdiv : d.mantissa / tenTo d.scale = r.toNat := by
      rw [hmantissa, Nat.mul_div_cancel _ hten]
    rw [if_neg hwhole, if_neg hsign, hdiv]
    dsimp only
    rw [if_pos r.toNat_lt, UInt64.ofNat_toNat]

/-! ### Wire integers -/

/-- The number times the wire's multiplier, all of its places kept; a zero loses its sign. -/
def scaled (d : Decimal) : Decimal where
  negative := d.negative ∧ ¬ d.isZero
  mantissa := d.mantissa * tenTo unitPlaces
  scale := d.scale

lemma isProper_scaled (d : Decimal) : d.scaled.IsProper := by
  intro hneg
  have hzero : d.mantissa ≠ 0 := by simpa [isZero] using (of_decide_eq_true hneg).2
  exact Nat.mul_ne_zero hzero (tenTo_pos unitPlaces).ne'

lemma value_scaled (d : Decimal) : d.scaled.value = d.value * 10 ^ 8 := by
  have hsigned : d.scaled.signed = d.signed * tenTo unitPlaces := by
    rw [signed, signed, scaled]
    cases d.negative <;> by_cases hzero : d.mantissa = 0 <;> simp [isZero, hzero]
  rw [value, hsigned, value, Int.cast_mul, Int.cast_natCast, tenTo_eq]
  exact mul_div_right_comm _ _ _

/-- A wire integer is the word that the number is in units of the last place. -/
lemma toUnits?_eq_word? (d : Decimal) : d.toUnits? = d.scaled.word? := by
  rw [toUnits?, word?, scaled]
  by_cases h : d.negative = true ∧ ¬ d.isZero = true
  · rw [if_pos h, if_pos (decide_eq_true h), ite_self]
  · rw [if_neg h, if_neg (mt of_decide_eq_true h)]

/-- **A wire integer exists exactly for the values that it holds.** -/
lemma toUnits?_eq_some_iff {r : UInt64} : d.toUnits? = some r ↔ d.value = r.toNat / 10 ^ 8 := by
  rw [toUnits?_eq_word?, (isProper_scaled d).word?_eq_some_iff, value_scaled,
    eq_div_iff (by norm_num)]

/-- Wire integers are compared as the values that they stand for. -/
lemma compare_ofUnits (r s : UInt64) : (ofUnits r).compare (ofUnits s) = Ord.compare r s := by
  have hat (n : UInt64) : (ofUnits n).signedAt (max unitPlaces unitPlaces) = n.toNat := by
    simp [signedAt, ofUnits, signed]
  show Ord.compare ((ofUnits r).signedAt (max unitPlaces unitPlaces))
    ((ofUnits s).signedAt (max unitPlaces unitPlaces)) = _
  rw [hat, hat]
  cases h : Ord.compare r s with
  | lt =>
      have hlt := UInt64.lt_iff_toNat_lt.mp (Std.compare_eq_lt.mp h)
      exact Std.compare_eq_lt.mpr (by exact_mod_cast hlt)
  | eq =>
      obtain rfl := Std.compare_eq_iff_eq.mp h
      exact Std.compare_self
  | gt =>
      have hlt := UInt64.lt_iff_toNat_lt.mp (Std.compare_eq_gt.mp h)
      exact Std.compare_eq_gt.mpr (by exact_mod_cast hlt)

/-- What a value must be to have no wire integer. -/
lemma toUnits?_eq_none_iff : d.toUnits? = none ↔
    d.value < 0 ∨ (2 ^ 64 - 1) / 10 ^ 8 < d.value ∨ ¬ ∃ n : ℤ, d.value * 10 ^ 8 = n := by
  constructor
  · intro hnone
    by_contra hfits
    push Not at hfits
    obtain ⟨hlow, hhigh, n, hn⟩ := hfits
    rw [le_div_iff₀ (by norm_num), hn] at hhigh
    have hnonneg : 0 ≤ n := by
      have hnonneg : (0 : ℚ) ≤ n := by
        rw [← hn]
        positivity
      exact_mod_cast hnonneg
    have hle : n ≤ 2 ^ 64 - 1 := by exact_mod_cast hhigh
    obtain ⟨units, rfl⟩ := Int.eq_ofNat_of_zero_le hnonneg
    have hsize : units < UInt64.size := by
      rw [UInt64.size]
      omega
    have hsome : d.toUnits? = some (UInt64.ofNat units) := by
      rw [toUnits?_eq_some_iff, UInt64.toNat_ofNat_of_lt' hsize, eq_div_iff (by norm_num), hn]
      rfl
    rw [hnone] at hsome
    cases hsome
  · intro h
    cases hunits : d.toUnits? with
    | none => rfl
    | some r =>
        have hvalue := toUnits?_eq_some_iff.mp hunits
        have hr : (r.toNat : ℚ) ≤ 2 ^ 64 - 1 := by
          have hr : r.toNat + 1 ≤ 2 ^ 64 := r.toNat_lt
          have hr : (r.toNat + 1 : ℚ) ≤ 2 ^ 64 := by exact_mod_cast hr
          linarith
        rw [hvalue] at h
        rcases h with hneg | hhigh | hplaces
        · exact absurd hneg (not_lt.mpr (by positivity))
        · exact absurd hhigh (not_lt.mpr (by gcongr))
        · exact absurd ⟨r.toNat, by rw [div_mul_cancel₀ _ (by norm_num)]; rfl⟩ hplaces

/-! ### Conversion by way of a product -/

/-- The numbers that are held: 96 bits of mantissa and at most 28 places. -/
structure IsHeld (d : Decimal) : Prop where
  mantissa_lt : d.mantissa < 2 ^ 96
  scale_le : d.scale ≤ 28

/-- **A product of held numbers**, which is exact where a held number has the value of the product, and
none where it is out of their range. A product that is exactly zero has no minus sign. What becomes of
products that have to be rounded is left open. -/
structure IsProduct (times? : Decimal → Decimal → Option Decimal) : Prop where
  exact : ∀ {a b p : Decimal}, a.IsHeld → b.IsHeld → p.IsHeld → p.value = a.value * b.value →
    ∃ c, times? a b = some c ∧ c.IsProper ∧ c.value = p.value
  overflow : ∀ {a b : Decimal}, a.IsHeld → b.IsHeld → 2 ^ 96 ≤ |a.value * b.value| →
    times? a b = none

/-- The wire's multiplier. -/
def unitsPerOne : Decimal := ⟨false, tenTo unitPlaces, 0⟩

/-- The conversion to a wire integer by way of a product of numbers: none for a negative value, and else
the word that the product with the multiplier is. -/
def toUnitsBy? (times? : Decimal → Decimal → Option Decimal) (d : Decimal) : Option UInt64 :=
  if d.negative ∧ ¬ d.isZero then none else (times? d unitsPerOne).bind word?

lemma isHeld_ofUnits (r : UInt64) : (ofUnits r).IsHeld :=
  ⟨r.toNat_lt.trans (by norm_num), show 8 ≤ 28 by norm_num⟩

lemma isHeld_unitsPerOne : unitsPerOne.IsHeld := ⟨by decide, by decide⟩

lemma value_unitsPerOne : unitsPerOne.value = 10 ^ 8 := by
  simp [value, unitsPerOne, signed, tenTo_eq, unitPlaces]

/-- **A number times the wire's multiplier never has to be rounded**: with eight places or more it only
loses places, and with fewer it becomes a whole number, which is held or out of range. -/
lemma exists_product_or_overflow (hd : d.IsHeld) :
    (∃ p : Decimal, p.IsHeld ∧ p.value = d.value * unitsPerOne.value) ∨
      2 ^ 96 ≤ |d.value * unitsPerOne.value| := by
  rw [value_unitsPerOne]
  rcases Nat.le_total 8 d.scale with hscale | hscale
  · have hplaces : d.scale - 8 ≤ 28 := (Nat.sub_le _ _).trans hd.scale_le
    refine .inl ⟨{ d with scale := d.scale - 8 }, ⟨hd.mantissa_lt, hplaces⟩, ?_⟩
    have hsplit : (10 : ℚ) ^ d.scale = 10 ^ (d.scale - 8) * 10 ^ 8 := by
      rw [← pow_add, Nat.sub_add_cancel hscale]
    rw [value, value, hsplit]
    field_simp
    rfl
  · rw [← signedAt_eq hscale]
    by_cases hfits : (d.signedAt 8).natAbs < 2 ^ 96
    · refine .inl ⟨ofSigned (d.signedAt 8) 0, ⟨hfits, by simp [ofSigned]⟩, ?_⟩
      rw [value, signed_ofSigned]
      simp [ofSigned]
    · refine .inr ?_
      rw [← Int.cast_abs, Int.abs_eq_natAbs]
      exact_mod_cast not_lt.mp hfits

/-- **The conversion by way of a product finds the same wire integers.** -/
lemma toUnitsBy?_eq_some_iff {times? : Decimal → Decimal → Option Decimal} (h : IsProduct times?)
    (hd : d.IsHeld) {r : UInt64} :
    d.toUnitsBy? times? = some r ↔ d.value = r.toNat / 10 ^ 8 := by
  have hunits : d.value = r.toNat / 10 ^ 8 ↔ d.value * unitsPerOne.value = r.toNat := by
    rw [value_unitsPerOne, eq_div_iff (by norm_num)]
  rw [toUnitsBy?]
  split
  · next hneg =>
    rw [← signed_neg_iff] at hneg
    have hlt : d.value < 0 := div_neg_of_neg_of_pos (by exact_mod_cast hneg) (by positivity)
    have hne : d.value ≠ r.toNat / 10 ^ 8 := (hlt.trans_le (by positivity)).ne
    simp [hne]
  · rw [hunits]
    rcases exists_product_or_overflow hd with ⟨p, hp, hvalue⟩ | hover
    · obtain ⟨c, hc, hproper, hcp⟩ := h.exact hd isHeld_unitsPerOne hp hvalue
      rw [hc, Option.bind_some, hproper.word?_eq_some_iff, hcp, hvalue]
    · have hne : d.value * unitsPerOne.value ≠ r.toNat := by
        intro heq
        rw [heq, abs_of_nonneg (by positivity)] at hover
        have hr : (r.toNat : ℚ) < 2 ^ 64 := by exact_mod_cast r.toNat_lt
        linarith
      simp [h.overflow hd isHeld_unitsPerOne hover, hne]

/-! ### The product that rounds -/

/-- The number with as many places rounded off, half to even, as it takes to hold it; none if that is not
enough. -/
def held? (d : Decimal) : Option Decimal :=
  let off? := (List.range (d.scale + 1)).find? fun off =>
    d.scale - off ≤ 28 ∧ roundHalfEven d.mantissa (tenTo off) < 2 ^ 96
  off?.map fun off => ⟨d.negative, roundHalfEven d.mantissa (tenTo off), d.scale - off⟩

/-- The product with all of its places. -/
def product (a b : Decimal) : Decimal :=
  ⟨a.negative ^^ b.negative, a.mantissa * b.mantissa, a.scale + b.scale⟩

/-- The product as far as it is held. A zero has neither sign nor places. -/
def times? (a b : Decimal) : Option Decimal :=
  if a.isZero ∨ b.isZero then some zero else (product a b).held?

lemma value_product (a b : Decimal) : (product a b).value = a.value * b.value := by
  have hsigned : (product a b).signed = a.signed * b.signed := by
    rw [product, signed, signed, signed]
    cases a.negative <;> cases b.negative <;> simp
  rw [value, hsigned, product, Int.cast_mul, pow_add, value, value, div_mul_div_comm]

lemma abs_value (d : Decimal) : |d.value| = d.mantissa / 10 ^ d.scale := by
  rw [value, abs_div, ← Int.cast_abs, Int.abs_eq_natAbs, natAbs_signed, Int.cast_natCast,
    abs_of_pos (by positivity)]

/-- Numbers of different scales have one value if they have one mantissa at a scale that holds both. -/
lemma value_eq_iff (d e : Decimal) :
    d.value = e.value ↔ d.signed * tenTo e.scale = e.signed * tenTo d.scale := by
  rw [value, value, div_eq_div_iff (by positivity) (by positivity), ← tenTo_eq, ← tenTo_eq]
  exact_mod_cast Iff.rfl

/-- Zeros at the end may be taken off with their places. -/
lemma value_of_mantissa_eq {rest off : Nat} (hoff : off ≤ d.scale)
    (h : d.mantissa = rest * tenTo off) :
    (⟨d.negative, rest, d.scale - off⟩ : Decimal).value = d.value := by
  have hsplit : tenTo d.scale = tenTo off * tenTo (d.scale - off) := by
    rw [tenTo_mul, Nat.add_sub_cancel' hoff]
  rw [value_eq_iff, signed, signed, h, hsplit]
  cases d.negative <;> simp [mul_assoc]

/-- If a held number has the value, the places that it has not are zeros. -/
lemma exists_off {p : Decimal} (hp : p.IsHeld) (h : p.value = d.value) :
    ∃ off ≤ d.scale, d.scale - off ≤ 28 ∧ ∃ rest < 2 ^ 96, d.mantissa = rest * tenTo off := by
  have hcross : p.mantissa * tenTo d.scale = d.mantissa * tenTo p.scale := by
    have hnat := congrArg Int.natAbs ((value_eq_iff p d).mp h)
    rwa [Int.natAbs_mul, Int.natAbs_mul, natAbs_signed, natAbs_signed, Int.natAbs_natCast,
      Int.natAbs_natCast] at hnat
  rcases Nat.le_total p.scale d.scale with hscale | hscale
  · refine ⟨d.scale - p.scale, Nat.sub_le _ _, ?_, p.mantissa, hp.mantissa_lt, ?_⟩
    · rw [Nat.sub_sub_self hscale]
      exact hp.scale_le
    · rw [← Nat.sub_add_cancel hscale, ← tenTo_mul, ← Nat.mul_assoc] at hcross
      exact (Nat.eq_of_mul_eq_mul_right (tenTo_pos _) hcross).symm
  · refine ⟨0, Nat.zero_le _, hscale.trans hp.scale_le, d.mantissa, ?_, by simp⟩
    rw [← Nat.sub_add_cancel hscale, ← tenTo_mul, ← Nat.mul_assoc] at hcross
    calc d.mantissa ≤ d.mantissa * tenTo (p.scale - d.scale) :=
          Nat.le_mul_of_pos_right _ (tenTo_pos _)
      _ = p.mantissa := (Nat.eq_of_mul_eq_mul_right (tenTo_pos _) hcross).symm
      _ < 2 ^ 96 := hp.mantissa_lt

/-- **Nothing is lost where a held number has the value**: the fewest places that have to go are
zeros. -/
lemma exists_held? {p : Decimal} (hp : p.IsHeld) (h : p.value = d.value) :
    ∃ c, d.held? = some c ∧ c.value = d.value := by
  obtain ⟨off, hoff, hplaces, rest, hrest, hmantissa⟩ := exists_off hp h
  have hgood : d.scale - off ≤ 28 ∧ roundHalfEven d.mantissa (tenTo off) < 2 ^ 96 := by
    rw [hmantissa, roundHalfEven_mul _ (tenTo_pos _)]
    exact ⟨hplaces, hrest⟩
  rw [held?]
  cases hfind : (List.range (d.scale + 1)).find? fun off =>
      decide (d.scale - off ≤ 28 ∧ roundHalfEven d.mantissa (tenTo off) < 2 ^ 96) with
  | none =>
      have hnot := List.find?_eq_none.mp hfind off (List.mem_range.mpr (Nat.lt_succ_of_le hoff))
      exact absurd (decide_eq_true hgood) hnot
  | some fewest =>
      obtain ⟨-, hmem, hfewer⟩ := List.find?_range_eq_some.mp hfind
      have hle : fewest ≤ off := by
        by_contra hlt
        have hnot := hfewer off (not_le.mp hlt)
        rw [decide_eq_true hgood] at hnot
        cases hnot
      have hfewest : d.mantissa = rest * tenTo (off - fewest) * tenTo fewest := by
        rw [Nat.mul_assoc, tenTo_mul, Nat.sub_add_cancel hle, hmantissa]
      refine ⟨_, rfl, value_of_mantissa_eq (Nat.le_of_lt_succ (List.mem_range.mp hmem)) ?_⟩
      rw [hfewest, roundHalfEven_mul _ (tenTo_pos _)]

lemma le_roundHalfEven (num den : Nat) : num / den ≤ roundHalfEven num den := by
  rw [roundHalfEven]
  split
  · exact Nat.le_refl _
  · exact Nat.le_succ _
  · split
    · exact Nat.le_refl _
    · exact Nat.le_succ _

/-- Numbers out of range are not held, however many of their places are rounded off. -/
lemma held?_eq_none (h : 2 ^ 96 ≤ |d.value|) : d.held? = none := by
  have hmantissa : 2 ^ 96 * tenTo d.scale ≤ d.mantissa := by
    rw [abs_value, le_div_iff₀ (by positivity), ← tenTo_eq] at h
    exact_mod_cast h
  rw [held?, Option.map_eq_none_iff, List.find?_eq_none]
  intro off hoff hgood
  have hle : off ≤ d.scale := Nat.le_of_lt_succ (List.mem_range.mp hoff)
  have hlt := (decide_eq_true_iff.mp hgood).2
  have hten : tenTo off ≤ tenTo d.scale := Nat.pow_le_pow_right (by norm_num) hle
  have hbig : 2 ^ 96 ≤ d.mantissa / tenTo off := by
    rw [Nat.le_div_iff_mul_le (tenTo_pos _)]
    exact (Nat.mul_le_mul_left _ hten).trans hmantissa
  exact absurd ((hbig.trans (le_roundHalfEven _ _)).trans_lt hlt) (Nat.lt_irrefl _)

lemma isProduct_times? : IsProduct times? where
  exact {a b p} ha hb hp hvalue := by
    rw [times?]
    split
    · next hzero =>
      have hproduct : a.value * b.value = 0 := by
        rcases hzero with hzero | hzero <;> simp [value_eq_zero hzero]
      exact ⟨zero, rfl, isProper_of_nonneg rfl, by rw [hvalue, hproduct, value_eq_zero rfl]⟩
    · next hzero =>
      rw [hvalue, ← value_product]
      obtain ⟨c, hc, hcvalue⟩ := exists_held? hp (hvalue.trans (value_product a b).symm)
      refine ⟨c, hc, fun _ hnone => hzero ?_, hcvalue⟩
      rw [value_eq_zero (beq_iff_eq.mpr hnone), value_product] at hcvalue
      exact (mul_eq_zero.mp hcvalue.symm).imp isZero_of_value isZero_of_value
  overflow {a b} ha hb hover := by
    rw [times?, if_neg]
    · rw [← value_product] at hover
      exact held?_eq_none hover
    · intro hzero
      have hproduct : a.value * b.value = 0 := by
        rcases hzero with hzero | hzero <;> simp [value_eq_zero hzero]
      rw [hproduct, abs_zero] at hover
      exact absurd hover (by norm_num)

/-! ### There and back -/

/-- **Wire integers are exact.** A number has the wire integer `r` exactly if its value is `r / 10 ^ 8`.
So a wire integer is found again from the number that it stands for; different ones stand for different
numbers, in the same order; and of numbers with one value, whatever their scales, all have the same wire
integer. There is none for a negative value, for one beyond the largest wire integer, and for one with
more than eight places; nothing is rounded or wrapped. By way of a product of 96 bits the same wire
integers are found. -/
theorem units_exact :
    (∀ (d : Decimal) (r : UInt64), d.toUnits? = some r ↔ d.value = r.toNat / 10 ^ 8) ∧
      (∀ r : UInt64, (ofUnits r).toUnits? = some r) ∧
      Function.Injective ofUnits ∧
      (∀ r s : UInt64, (ofUnits r).compare (ofUnits s) = Ord.compare r s) ∧
      (∀ d e : Decimal, d.value = e.value → d.toUnits? = e.toUnits?) ∧
      (∀ d : Decimal, d.toUnits? = none ↔
        d.value < 0 ∨ (2 ^ 64 - 1) / 10 ^ 8 < d.value ∨ ¬ ∃ n : ℤ, d.value * 10 ^ 8 = n) ∧
      (∀ r : UInt64, (ofUnits r).IsHeld) ∧
      ∀ times? : Decimal → Decimal → Option Decimal, IsProduct times? →
        ∀ d : Decimal, d.IsHeld → d.toUnitsBy? times? = d.toUnits? := by
  have hback (r : UInt64) : (ofUnits r).toUnits? = some r :=
    toUnits?_eq_some_iff.mpr (value_ofUnits r)
  refine ⟨fun _ _ => toUnits?_eq_some_iff, hback, fun r s hrs => ?_, compare_ofUnits,
    fun d e hvalue => ?_, fun _ => toUnits?_eq_none_iff, isHeld_ofUnits, fun times? h d hd => ?_⟩
  · have hsome := hback r
    rw [hrs, hback s] at hsome
    exact (Option.some.inj hsome).symm
  · refine Option.ext fun r => ?_
    rw [toUnits?_eq_some_iff, toUnits?_eq_some_iff, hvalue]
  · refine Option.ext fun r => ?_
    rw [toUnitsBy?_eq_some_iff h hd, toUnits?_eq_some_iff]

/-- One half with 28 places is found, although the product of the mantissas takes more than 96 bits, and
it is found alike with one place. A zero with a minus sign is found too, although it is no word
itself. -/
theorem units_exact_many_places :
    let half : Decimal := ⟨false, 5 * 10 ^ 27, 28⟩
    let minusZero : Decimal := ⟨true, 0, 3⟩
    IsProduct times? ∧ half.IsHeld ∧ half.toUnitsBy? times? = some 50000000 ∧
      half.value = (⟨false, 5, 1⟩ : Decimal).value ∧
      half.toUnits? = (⟨false, 5, 1⟩ : Decimal).toUnits? ∧
      minusZero.IsHeld ∧ minusZero.word? = none ∧ minusZero.toUnitsBy? times? = some 0 := by
  intro half minusZero
  have hheld : half.IsHeld := ⟨by norm_num [half], by norm_num [half]⟩
  have hheld₀ : minusZero.IsHeld := ⟨by norm_num [minusZero], by norm_num [minusZero]⟩
  have hvalue : half.value = (⟨false, 5, 1⟩ : Decimal).value := by norm_num [half, value, signed]
  obtain ⟨hunits, -, -, -, halike, -, -, hby⟩ := units_exact
  refine ⟨isProduct_times?, hheld, ?_, hvalue, halike _ _ hvalue, hheld₀, rfl, ?_⟩
  · have hhalf : UInt64.toNat 50000000 = 50000000 := rfl
    rw [hby _ isProduct_times? _ hheld, hunits]
    norm_num [half, value, signed, hhalf]
  · rw [hby _ isProduct_times? _ hheld₀, hunits]
    norm_num [minusZero, value, signed]

end Decimal

end MarketBoard

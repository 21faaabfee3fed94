import MarketBoard.Settings.Basic
import Mathlib.Tactic.Lemma

/-!
Numbers on the command line.

* `integerOf?_toString`: a number that was written in digits is read as this number.
* `Arguments.collect_maxLevels`, `Settings.ofArguments_maxLevels`: every number of levels but zero can
  be asked for.
-/

namespace MarketBoard

/-- The digits of a number begin with a digit, which is no sign. -/
lemma exists_toDigits_eq_cons (n : Nat) :
    ∃ c cs, Nat.toDigits 10 n = c :: cs ∧ c ≠ '+' ∧ c ≠ '-' := by
  obtain ⟨c, cs, hdigits⟩ := List.exists_cons_of_ne_nil (Nat.toDigits_ne_nil (n := n) (b := 10))
  have hdigit : c.isDigit = true :=
    Nat.isDigit_of_mem_toDigits (by decide) (by decide) (hdigits ▸ List.mem_cons_self)
  refine ⟨c, cs, hdigits, ?_, ?_⟩
  · rintro rfl
    exact absurd hdigit (by decide)
  · rintro rfl
    exact absurd hdigit (by decide)

/-- **A number that was written in digits is read.** -/
lemma integerOf?_toString (minus : Bool) (n : Nat) :
    integerOf? minus (toString n).toList = some (n : Int) := by
  obtain ⟨c, cs, hdigits, hplus, hminus⟩ := exists_toDigits_eq_cons n
  have hall : (Nat.toDigits 10 n).all Char.isDigit = true := by
    rw [List.all_eq_true]
    exact fun c hc => Nat.isDigit_of_mem_toDigits (by decide) (by decide) hc
  have hlist : (toString n).toList = Nat.toDigits 10 n := by simp
  have hne : (Nat.toDigits 10 n).isEmpty = false := by simp [Nat.toDigits_ne_nil]
  -- the text begins with neither sign, so it is read as digits alone
  rw [hlist, integerOf?]
  · simp [hne, hall, Nat.ofDigitChars_ten_toDigits]
  · exact fun ds h => hplus (List.cons.inj (hdigits.symm.trans h)).1
  · exact fun ds h => hminus (List.cons.inj (hdigits.symm.trans h)).1

namespace Arguments

/-- The number behind `--max-levels` is taken if it fits 16 bits. -/
lemma collect_maxLevels {n : Nat} (hn : n ≤ 65535) :
    collect ["--max-levels", toString n] = .ok [(.maxLevels, toString n)] := by
  obtain ⟨c, cs, hdigits, -, hminus⟩ := exists_toDigits_eq_cons n
  have hlist : (toString n).toList = c :: cs := by
    rw [← hdigits]
    simp
  have hoption : take {} "--max-levels" = .ok { open? := some (.maxLevels, none) } := rfl
  have hvalue : take { open? := some (.maxLevels, none) } (toString n) =
      .ok { open? := some (.maxLevels, some (toString n)) } := by
    rw [take, if_neg (by simp), hlist]
    split
    · next h => exact absurd (List.cons.inj h).1 hminus
    · next h => exact absurd (List.cons.inj h).1 hminus
    · next h => exact absurd (List.cons.inj h).1 hminus
    · rfl
  have hcheck : OptionName.maxLevels.kind.check (toString n) = .ok () := by
    have hbounds : (0 : Int) ≤ n ∧ (n : Int) ≤ 65535 := by omega
    rw [OptionName.kind, ValueKind.check, integerOf?_toString]
    exact if_pos hbounds
  have hsettle : settle { open? := some (.maxLevels, some (toString n)) } =
      .ok { given := [(.maxLevels, toString n)] } := by
    have haccept : accept {} .maxLevels (toString n) =
        .ok { given := [(.maxLevels, toString n)] } := by
      rw [accept, if_neg (by simp), hcheck]
      rfl
    exact haccept
  rw [collect, List.foldlM_cons, hoption]
  show (List.foldlM take _ [toString n] >>= _) = _
  rw [List.foldlM_cons, hvalue]
  show (settle _ >>= _) = _
  rw [hsettle]
  rfl

end Arguments

namespace Settings

/-- **Every number of levels but zero can be asked for.** -/
lemma ofArguments_maxLevels {maxLevels : UInt16} (h : 0 < maxLevels) :
    ∃ settings, ofArguments ["--max-levels", toString maxLevels.toNat] = .ok settings ∧
      settings.maxLevels = maxLevels := by
  have hfits : maxLevels.toNat ≤ 65535 := Nat.le_of_lt_succ maxLevels.toNat_lt
  have hnumber : numberOf [(.maxLevels, toString maxLevels.toNat)] .maxLevels 10 =
      maxLevels.toNat := by
    have hgiven : [(OptionName.maxLevels, toString maxLevels.toNat)].lookup .maxLevels =
        some (toString maxLevels.toNat) := rfl
    rw [numberOf, numberOf?, hgiven, Option.bind_eq_bind, Option.bind_some, integerOf?_toString]
    rfl
  have hpos : maxLevels.toNat ≠ 0 := Nat.pos_iff_ne_zero.mp (UInt16.lt_iff_toNat_lt.mp h)
  have htime : numberOf [(.maxLevels, toString maxLevels.toNat)] .depthTimeout 2000 = 2000 := rfl
  rw [ofArguments, Arguments.collect_maxLevels hfits]
  dsimp only
  rw [ofOptions, hnumber, htime, if_neg hpos, if_neg (by decide)]
  exact ⟨_, rfl, UInt16.ofNat_toNat⟩

end Settings

end MarketBoard

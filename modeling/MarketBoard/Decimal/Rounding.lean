import MarketBoard.Decimal.Basic

/-!
Rounding to a number of places.

* `roundHalfEven`: the nearest integer of a quotient, a tie going to the even neighbour.
* `roundHalfEven_mul`: a multiple of the divisor is not changed.
* `Decimal.round`: a number that has few enough places stays as it is; a number that rounds to zero
  loses its sign, a zero keeps it.
-/

namespace MarketBoard

/-- The integer nearest to `num / den`; halfway between two, the even one. -/
def roundHalfEven (num den : Nat) : Nat :=
  let floor := num / den
  match Ord.compare (2 * (num % den)) den with
  | .lt => floor
  | .gt => floor + 1
  | .eq => if floor % 2 = 0 then floor else floor + 1

/-- Nothing is to be rounded in a multiple of the divisor. -/
theorem roundHalfEven_mul (q : Nat) {den : Nat} (h : 0 < den) : roundHalfEven (q * den) den = q := by
  have hlt : Ord.compare 0 den = .lt := Nat.compare_eq_lt.2 h
  simp [roundHalfEven, hlt, Nat.mul_div_cancel _ h]

namespace Decimal

/-- The number rounded half to even at `places` places. -/
def round (d : Decimal) (places : Nat) : Decimal :=
  if d.scale ≤ places then d
  else if d.isZero then { d with scale := places }
  else
    let m := roundHalfEven d.mantissa (tenTo (d.scale - places))
    if m = 0 then zero else { d with mantissa := m, scale := places }

/-- A rounded number has at most the wanted places. -/
theorem scale_round_le (d : Decimal) (places : Nat) : (d.round places).scale ≤ places := by
  unfold round
  split
  · assumption
  · split
    · exact Nat.le_refl _
    · dsimp only
      split
      · exact Nat.zero_le _
      · exact Nat.le_refl _

end Decimal

end MarketBoard

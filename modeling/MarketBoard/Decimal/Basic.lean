/-!
Signed decimal numbers with an explicit number of places, and the wire's fixed-point units.

* `Decimal`: sign, mantissa and scale; a zero may carry a minus sign, as it may in print.
* `Decimal.signed`: the mantissa with its sign, the view in which numbers are compared and added.
* `Decimal.tenTo`: the powers of ten, by which numbers of different scales are brought together.
* `Decimal.compare`: the order of values, whatever their scales.
* `Decimal.ofUnits`, `Decimal.toUnits?`: a wire integer holds a value times `10 ^ 8`; the way back
  exists exactly for the values that such an integer holds.
-/

namespace MarketBoard

/-- The number `± mantissa / 10 ^ scale`; a zero keeps its sign. -/
structure Decimal where
  negative : Bool
  mantissa : Nat
  scale : Nat
deriving DecidableEq, Repr

namespace Decimal

/-- Zero, without places and without a minus sign. -/
def zero : Decimal := ⟨false, 0, 0⟩

instance : Inhabited Decimal := ⟨zero⟩

/-- Zero of any scale and either sign. -/
def isZero (d : Decimal) : Bool := d.mantissa == 0

/-- The mantissa with its sign. -/
def signed (d : Decimal) : Int := if d.negative then -(d.mantissa : Int) else d.mantissa

/-- Ten to the power of a number of places. -/
def tenTo (places : Nat) : Nat := Nat.pow 10 places

@[simp] theorem tenTo_zero : tenTo 0 = 1 := rfl

/-- The mantissa that the number has once it is written with `places` places; exact from its own
scale on. -/
def signedAt (d : Decimal) (places : Nat) : Int := d.signed * tenTo (places - d.scale)

/-- Comparison of the values, at a scale that holds both. -/
def compare (a b : Decimal) : Ordering :=
  Ord.compare (a.signedAt (max a.scale b.scale)) (b.signedAt (max a.scale b.scale))

/-- The number of a signed mantissa; zero has no minus sign. -/
def ofSigned (n : Int) (scale : Nat) : Decimal := ⟨decide (n < 0), n.natAbs, scale⟩

/-- The same value with the other sign. -/
def neg (d : Decimal) : Decimal := { d with negative := !d.negative }

/-- Exact difference. A zero on one side leaves the other as it is, up to the sign; the difference of
equal numbers has no minus sign. -/
def sub (a b : Decimal) : Decimal :=
  if a.isZero then (if b.isZero then b else b.neg)
  else if b.isZero then a
  else
    let places := max a.scale b.scale
    ofSigned (a.signedAt places - b.signedAt places) places

/-- Exact sum; a zero on one side leaves the other as it is. -/
def add (a b : Decimal) : Decimal :=
  if a.isZero then b
  else if b.isZero then a
  else
    let places := max a.scale b.scale
    ofSigned (a.signedAt places + b.signedAt places) places

/-! ### Wire units -/

/-- Places of a wire integer. -/
def unitPlaces : Nat := 8

/-- The value that a wire integer stands for. -/
def ofUnits (units : UInt64) : Decimal := ⟨false, units.toNat, unitPlaces⟩

/-- The wire integer that holds a value: none for a negative value, for one with a part below the
last wire place, and for one that does not fit 64 bits. -/
def toUnits? (d : Decimal) : Option UInt64 :=
  if d.negative ∧ ¬ d.isZero then none
  else
    let product := d.mantissa * tenTo unitPlaces
    if product % tenTo d.scale ≠ 0 then none
    else
      let units := product / tenTo d.scale
      if units < UInt64.size then some (UInt64.ofNat units) else none

end Decimal

end MarketBoard

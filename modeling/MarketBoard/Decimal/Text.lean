import MarketBoard.Decimal.Rounding

/-!
Decimal numbers in print.

* `padLeft`: text moved to the right end of a field; longer text is not cut.
* `Decimal.fixedText`: a rounded number with exactly the wanted places.
* `Decimal.columnText`: that text in a field, as the table shows it.
* `Decimal.plainText`: the shortest text of the value, without trailing zeros.
-/

namespace MarketBoard

/-- The text at the right end of a field of the given width, blanks before it. -/
def padLeft (width : Nat) (text : List Char) : List Char :=
  List.replicate (width - text.length) ' ' ++ text

/-- A field is never shorter than its text. -/
theorem length_padLeft (width : Nat) (text : List Char) :
    (padLeft width text).length = max width text.length := by
  simp only [padLeft, List.length_append, List.length_replicate]
  omega

/-- The decimal digits of a number, most significant first. -/
def digits (n : Nat) : List Char := Nat.toDigits 10 n

/-- The digits behind the point: `places` of them, with zeros in front. -/
def placeDigits (places n : Nat) : List Char :=
  List.replicate (places - (digits n).length) '0' ++ digits n

namespace Decimal

/-- The minus sign, if the number has one. -/
def signText (d : Decimal) : List Char := if d.negative then ['-'] else []

/-- The digits of a magnitude given in units of its last place, with a point before the last `places`
of them. -/
def pointed (places units : Nat) : List Char :=
  let whole := digits (units / tenTo places)
  if places = 0 then whole else whole ++ '.' :: placeDigits places (units % tenTo places)

/-- The number rounded to `places` places and written with all of them. -/
def fixedText (d : Decimal) (places : Nat) : List Char :=
  let r := d.round places
  r.signText ++ pointed places (r.mantissa * tenTo (places - r.scale))

/-- The rounded number at the right end of a field. -/
def columnText (d : Decimal) (places width : Nat) : List Char :=
  padLeft width (d.fixedText places)

/-- The same value with a zero at the end of the places taken off, as often as there is one. -/
def trimmed (negative : Bool) (mantissa : Nat) : Nat → Decimal
  | 0 => ⟨negative, mantissa, 0⟩
  | scale + 1 =>
    if mantissa % 10 = 0 then trimmed negative (mantissa / 10) scale
    else ⟨negative, mantissa, scale + 1⟩

/-- The text of the value without trailing zeros; zero is written without a sign. -/
def plainText (d : Decimal) : List Char :=
  if d.isZero then ['0']
  else
    let t := trimmed d.negative d.mantissa d.scale
    t.signText ++ pointed t.scale t.mantissa

/-- The text of the number with the places that it has. -/
def text (d : Decimal) : List Char := d.signText ++ pointed d.scale d.mantissa

end Decimal

end MarketBoard

/-!
The identity of an instrument and the label under which it is shown.

* `Key`: a symbol together with the number of the venue that publishes it.
* `Key.label`: the symbol with its first hyphen turned into a slash, a point, and the source.
* `Key.compare`: the order of the table: by the bytes of the label, then of the symbol, then by source.
-/

namespace MarketBoard

/-- A symbol as one source publishes it. -/
structure Key where
  symbol : String
  source : UInt32
deriving DecidableEq, Repr, Inhabited

/-- The characters with the first hyphen, if there is one, turned into a slash. -/
def slashed (cs : List Char) : List Char :=
  match cs.dropWhile (· ≠ '-') with
  | [] => cs
  | _ :: rest => cs.takeWhile (· ≠ '-') ++ '/' :: rest

namespace Key

/-- The characters of the label. -/
def labelChars (k : Key) : List Char :=
  slashed k.symbol.toList ++ '.' :: Nat.toDigits 10 k.source.toNat

/-- The label of the instrument in the table, on the depth box and in messages. -/
def label (k : Key) : String := String.ofList k.labelChars

/-- The bytes by which texts are ordered. -/
def textBytes (s : String) : List UInt8 := s.toUTF8.data.toList

/-- The order of the table; only equal keys are equal in it. -/
def compare (a b : Key) : Ordering :=
  (Ord.compare (textBytes a.label) (textBytes b.label)).then
    ((Ord.compare (textBytes a.symbol) (textBytes b.symbol)).then (Ord.compare a.source b.source))

end Key

end MarketBoard

import MarketBoard.Decimal.Text

/-!
Spans of time and their text: in the largest of seconds, milliseconds, microseconds and nanoseconds
that is not more than the span, without trailing zeros.
-/

namespace MarketBoard

/-- A span of time in nanoseconds. -/
structure Duration where
  nanoseconds : Nat
deriving DecidableEq, Repr, Inhabited

namespace Duration

/-- A span of so many milliseconds. -/
def ofMilliseconds (n : Nat) : Duration := ⟨n * 1000000⟩

/-- The unit in which a span is written: its size in decimal places of a nanosecond, and its name. -/
def unitOf (nanoseconds : Nat) : Nat × String :=
  if 1000000000 ≤ nanoseconds then (9, "s")
  else if 1000000 ≤ nanoseconds then (6, "ms")
  else if 1000 ≤ nanoseconds then (3, "µs")
  else (0, "ns")

/-- The text of a span. -/
def text (d : Duration) : String :=
  let (places, name) := unitOf d.nanoseconds
  String.ofList (Decimal.plainText ⟨false, d.nanoseconds, places⟩) ++ name

end Duration

end MarketBoard

import MarketBoard.Message
import MarketBoard.Wire.BigEndian
import MarketBoard.Wire.Error

/-!
The parts of a payload as bytes. Texts and lists stand behind a count of 16 bits; what does not fit
is refused and never cut.
-/

namespace MarketBoard.Writer

/-- A text in UTF-8 behind its length in bytes. -/
def text (field : Field) (s : String) : Except EncodeError (List UInt8) :=
  let bytes := s.toUTF8.data.toList
  if bytes.length < UInt16.size then pure (BigEndian.toBytes 2 bytes.length ++ bytes)
  else throw (.textTooLong field bytes.length)

/-- A number of 16 bits. -/
def word16 (n : UInt16) : List UInt8 := BigEndian.toBytes 2 n.toNat

/-- A number of 32 bits. -/
def word32 (n : UInt32) : List UInt8 := BigEndian.toBytes 4 n.toNat

/-- A number of 64 bits. -/
def word64 (n : UInt64) : List UInt8 := BigEndian.toBytes 8 n.toNat

/-- The instrument of a payload. -/
def key (k : Key) : Except EncodeError (List UInt8) := do
  let symbol ← text .key k.symbol
  pure (symbol ++ word32 k.source)

/-- A price with its quantity. -/
def level (l : Level) : List UInt8 := word64 l.price ++ word64 l.quantity

/-- Levels behind their count. -/
def levels (field : Field) (ls : List Level) : Except EncodeError (List UInt8) :=
  if ls.length < UInt16.size then pure (BigEndian.toBytes 2 ls.length ++ ls.flatMap level)
  else throw (.tooManyLevels field ls.length)

end MarketBoard.Writer

import MarketBoard.Message
import MarketBoard.Wire.BigEndian
import MarketBoard.Wire.Error

/-!
Reading the parts of a payload one after another.

* `Reader`: a reading step consumes bytes from the front or fails with a cause.
* `Reader.take`: the only step that consumes; it names the part, what it needs and what is left.
* `Reader.run`: a payload is read when every byte is used.
-/

namespace MarketBoard

/-- A step that reads from the front of the bytes that are left. -/
abbrev Reader := StateT (List UInt8) (Except DecodeError)

namespace Reader

/-- The next `count` bytes. -/
def take (field : Field) (count : Nat) : Reader (List UInt8) := fun bytes =>
  let taken := bytes.take count
  if taken.length < count then .error (.truncated field count taken.length)
  else .ok (taken, bytes.drop count)

/-- The next `count` bytes as a number. -/
def number (field : Field) (count : Nat) : Reader Nat :=
  BigEndian.ofBytes <$> take field count

/-- One byte. -/
def word8 (field : Field) : Reader UInt8 := UInt8.ofNat <$> number field 1

/-- Two bytes. -/
def word16 (field : Field) : Reader UInt16 := UInt16.ofNat <$> number field 2

/-- Four bytes. -/
def word32 (field : Field) : Reader UInt32 := UInt32.ofNat <$> number field 4

/-- Eight bytes. -/
def word64 (field : Field) : Reader UInt64 := UInt64.ofNat <$> number field 8

/-- A text in UTF-8 behind its length in bytes. -/
def text (field : Field) : Reader String := do
  let length ← number field 2
  let bytes ← take field length
  match String.fromUTF8? ⟨bytes.toArray⟩ with
  | some s => pure s
  | none => throw (.invalidText field)

/-- Fails unless `count` bytes are left; consumes nothing. -/
def require (field : Field) (count : Nat) : Reader Unit := fun bytes =>
  let present := (bytes.take count).length
  if present < count then .error (.truncated field count present) else .ok ((), bytes)

/-- `count` levels, behind those that were read before, last first. -/
def levelsOnto (field : Field) : Nat → List Level → Reader (List Level)
  | 0, before => pure before.reverse
  | count + 1, before => do
    let price ← word64 field
    let quantity ← word64 field
    levelsOnto field count (⟨price, quantity⟩ :: before)

/-- Levels behind their count. All bytes that the count promises have to be there before the first
level is read. -/
def levels (field : Field) : Reader (List Level) := do
  let count ← number field 2
  require field (count * 16)
  levelsOnto field count []

/-- The instrument of a payload. -/
def key : Reader Key := do
  let symbol ← text .key
  let source ← word32 .source
  pure ⟨symbol, source⟩

/-- Reads a whole payload: no byte may be left. -/
def run {α : Type} (reader : Reader α) (bytes : List UInt8) : Except DecodeError α := do
  let (value, rest) ← StateT.run reader bytes
  if rest.isEmpty then pure value else throw (.trailing rest.length)

end Reader

end MarketBoard

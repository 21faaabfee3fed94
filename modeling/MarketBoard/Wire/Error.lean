/-!
What can be wrong with a payload or a frame, and the words for it.

* `Field`: the parts of a payload that errors name.
* `DecodeError`, `EncodeError`, `FrameError`: the causes, each with its `message`.
-/

namespace MarketBoard

/-- A named part of a payload. -/
inductive Field where
  | tag | key | source | bidPrice | askPrice | bidSize | askSize | lastPrice | lastSize | maxLevels
  | bids | asks
deriving DecidableEq, Repr

/-- The name of a part in messages. -/
def Field.name : Field → String
  | tag => "tag"
  | key => "key"
  | source => "source"
  | bidPrice => "bid_px"
  | askPrice => "ask_px"
  | bidSize => "bid_qty"
  | askSize => "ask_qty"
  | lastPrice => "last_px"
  | lastSize => "last_size"
  | maxLevels => "max_levels"
  | bids => "bids"
  | asks => "asks"

/-- Why bytes are not a payload. -/
inductive DecodeError where
  /-- There are no bytes at all. -/
  | empty
  /-- No message begins with this tag. -/
  | unknownTag (tag : UInt8)
  /-- A part needs more bytes than are left. -/
  | truncated (field : Field) (need got : Nat)
  /-- Bytes are left behind a whole payload. -/
  | trailing (count : Nat)
  /-- A text is not UTF-8. -/
  | invalidText (field : Field)
  /-- The payload is of another kind. -/
  | unexpectedTag (expected got : UInt8)
deriving DecidableEq, Repr

/-- A tag in messages: two hexadecimal digits. -/
def tagText (tag : UInt8) : String :=
  String.ofList ['0', 'x', Nat.digitChar (tag.toNat / 16), Nat.digitChar (tag.toNat % 16)]

/-- The words for a cause. -/
def DecodeError.message : DecodeError → String
  | empty => "empty payload"
  | unknownTag tag => s!"unknown message tag {tagText tag}"
  | truncated field need got => s!"truncated {field.name}: need {need} bytes, got {got}"
  | trailing count => s!"{count} trailing bytes after message end"
  | invalidText field => s!"invalid utf-8 in {field.name}"
  | unexpectedTag expected got => s!"expected tag {tagText expected}, got {tagText got}"

/-- Why a value has no payload: a count does not fit its 16 bits. -/
inductive EncodeError where
  | textTooLong (field : Field) (length : Nat)
  | tooManyLevels (field : Field) (count : Nat)
deriving DecidableEq, Repr

/-- The words for a cause. -/
def EncodeError.message : EncodeError → String
  | textTooLong field length => s!"{field.name} is {length} bytes, limit is 65535"
  | tooManyLevels field count => s!"{field.name} has {count} levels, limit is 65535"

/-- Why a frame could not be read or written. -/
inductive FrameError where
  /-- The data ended inside a frame. -/
  | shortRead (expected got : Nat)
  /-- The payload is longer than a frame may be. -/
  | oversized (length limit : Nat)
  /-- The channel failed, with the system's words. -/
  | failed (reason : String)
deriving DecidableEq, Repr

/-- The words for a cause. -/
def FrameError.message : FrameError → String
  | shortRead expected got => s!"peer closed after {got} of {expected} bytes"
  | oversized length limit => s!"declared frame length {length} exceeds limit {limit}"
  | failed reason => s!"frame i/o: {reason}"

end MarketBoard

import MarketBoard.Wire.BigEndian
import MarketBoard.Wire.Error

/-!
Frames of the depth channel: a length of four bytes, then the payload. A channel may take and hand out
bytes in pieces of any size.

* `Sink`, `Source`: the two ends of a channel; how much each call moves is theirs to say.
* `Frame.write`: the frame of a payload, offered until all of it is taken.
* `Frame.read`: the next payload, or how the data fell short of one.
* `Frame.readAll`: all payloads up to the first failure.
-/

namespace MarketBoard

/-- The end of a channel that takes bytes. -/
structure Sink where
  /-- The bytes that were taken, oldest first. -/
  taken : List UInt8 := []
  /-- The number of writes so far. -/
  writes : Nat := 0
  /-- What a write does, by the number of writes before it, of bytes taken before it and of bytes
  offered: it takes some of them, or it fails. -/
  answer : Nat → Nat → Nat → Except String Nat
  /-- The words with which flushing fails, if it does. -/
  flushFault : Option String := none

/-- Where an offer of bytes ended: the bytes not taken, the writes so far, and the failure if there
was one. -/
structure Sink.Offer where
  left : Nat
  writes : Nat
  fault : Option String

namespace Sink

/-- Offers bytes again and again until none is left. A write that takes nothing is a failure. -/
def offer (answer : Nat → Nat → Nat → Except String Nat) (writes taken left : Nat) : Offer :=
  if left = 0 then ⟨0, writes, none⟩
  else
    match answer writes taken left with
    | .error fault => ⟨left, writes + 1, some fault⟩
    | .ok count =>
      let moved := min count left
      if moved = 0 then ⟨left, writes + 1, some "write zero"⟩
      else offer answer (writes + 1) (taken + moved) (left - moved)
termination_by left
decreasing_by omega

/-- Writes all of the bytes, or as many as are taken before a failure. -/
def writeAll (sink : Sink) (bytes : List UInt8) : Except String Unit × Sink :=
  let o := offer sink.answer sink.writes sink.taken.length bytes.length
  let sink :=
    { sink with taken := sink.taken ++ bytes.take (bytes.length - o.left), writes := o.writes }
  match o.fault with
  | some fault => (.error fault, sink)
  | none => (.ok (), sink)

/-- Hands on what was taken. -/
def flush (sink : Sink) : Except String Unit × Sink :=
  match sink.flushFault with
  | some fault => (.error fault, sink)
  | none => (.ok (), sink)

end Sink

/-- The end of a channel that hands out bytes. -/
structure Source where
  /-- The bytes that were not handed out yet. -/
  rest : List UInt8
  /-- The number of reads so far. -/
  reads : Nat := 0
  /-- How many bytes a read hands out at most, by the number of reads before it and the room for
  them. -/
  grant : Nat → Nat → Nat
  /-- The words with which a read at the end of the data fails, if it does. -/
  endFault : Option String := none

namespace Source

/-- The number of bytes that the next read hands out into a given room. -/
def step (source : Source) (room : Nat) : Nat :=
  (source.rest.take (min (source.grant source.reads room) room)).length

/-- The source after a read of `count` bytes. -/
def advance (source : Source) (count : Nat) : Source :=
  { source with rest := source.rest.drop count, reads := source.reads + 1 }

/-- Reads until `expected` bytes have come, `got` of which are there already. -/
def fill (expected got : Nat) (source : Source) : Except FrameError Unit × Source :=
  if expected ≤ got then (.ok (), source)
  else
    match source.step (expected - got) with
    | 0 =>
      match source.rest, source.endFault with
      | [], some fault => (.error (.failed fault), source.advance 0)
      | _, _ => (.error (.shortRead expected got), source.advance 0)
    | more + 1 => fill expected (got + (more + 1)) (source.advance (more + 1))
termination_by expected - got

/-- Reading never brings bytes back. -/
theorem length_rest_advance_le (source : Source) (count : Nat) :
    (source.advance count).rest.length ≤ source.rest.length := by
  simp [advance]

/-- Reading never brings bytes back, however often. -/
theorem length_rest_fill_le (expected got : Nat) (source : Source) :
    (fill expected got source).2.rest.length ≤ source.rest.length := by
  fun_induction fill expected got source with
  | case1 => exact Nat.le_refl _
  | case2 => exact length_rest_advance_le _ _
  | case3 => exact length_rest_advance_le _ _
  | case4 _ _ _ _ _ ih => exact Nat.le_trans ih (length_rest_advance_le _ _)

/-- A read that wanted bytes and succeeded has used some. -/
theorem length_rest_fill_lt {expected got : Nat} {source : Source} (h : got < expected)
    (ok : (fill expected got source).1 = .ok ()) :
    (fill expected got source).2.rest.length < source.rest.length := by
  rw [fill, if_neg (Nat.not_le.2 h)] at ok ⊢
  cases hs : source.step (expected - got) with
  | zero =>
    rw [hs] at ok
    dsimp only at ok
    split at ok <;> cases ok
  | succ more =>
    refine Nat.lt_of_le_of_lt (length_rest_fill_le _ _ _) ?_
    simp only [step, advance, List.length_take, List.length_drop] at hs ⊢
    omega

end Source

namespace Frame

/-- The longest payload of a frame. -/
def maxLength : Nat := 1024 * 1024

/-- The frame of a payload. -/
def encode (payload : List UInt8) : List UInt8 :=
  BigEndian.toBytes 4 payload.length ++ payload

/-- Writes the frame of a payload. Nothing is written of a payload that is too long. -/
def write (payload : List UInt8) (sink : Sink) : Except FrameError Unit × Sink :=
  if maxLength < payload.length then
    (.error (.oversized (min payload.length (UInt32.size - 1)) maxLength), sink)
  else
    match sink.writeAll (BigEndian.toBytes 4 payload.length) with
    | (.error fault, sink) => (.error (.failed fault), sink)
    | (.ok _, sink) =>
      match sink.writeAll payload with
      | (.error fault, sink) => (.error (.failed fault), sink)
      | (.ok _, sink) =>
        match sink.flush with
        | (.error fault, sink) => (.error (.failed fault), sink)
        | (.ok _, sink) => (.ok (), sink)

/-- Reads the payload of the next frame. -/
def read (source : Source) : Except FrameError (List UInt8) × Source :=
  match source.fill 4 0 with
  | (.error e, after) => (.error e, after)
  | (.ok _, after) =>
    let length := BigEndian.ofBytes (source.rest.take 4)
    if maxLength < length then (.error (.oversized length maxLength), after)
    else
      match after.fill length 0 with
      | (.error e, last) => (.error e, last)
      | (.ok _, last) => (.ok (after.rest.take length), last)

/-- Every frame uses up bytes. -/
theorem length_rest_read_lt {source : Source} {payload : List UInt8}
    (ok : (read source).1 = .ok payload) :
    (read source).2.rest.length < source.rest.length := by
  unfold read at ok ⊢
  split
  · rename_i h
    simp [h] at ok
  · rename_i after h
    have hlt : after.rest.length < source.rest.length := by
      have := @Source.length_rest_fill_lt 4 0 source (by decide) (by rw [h])
      rwa [h] at this
    simp only [h] at ok
    dsimp only at ok ⊢
    split at ok
    · simp at ok
    · rename_i hlen
      rw [if_neg hlen]
      have hle := Source.length_rest_fill_le (BigEndian.ofBytes (source.rest.take 4)) 0 after
      split
      · rename_i h₂
        rw [h₂] at hle
        exact Nat.lt_of_le_of_lt hle hlt
      · rename_i h₂
        rw [h₂] at hle
        exact Nat.lt_of_le_of_lt hle hlt

/-- Reads frames up to the first failure, of which there always is one. -/
def readAll (source : Source) : List (List UInt8) × FrameError × Source :=
  match _h : read source with
  | (.error e, after) => ([], e, after)
  | (.ok payload, after) =>
    let (payloads, e, last) := readAll after
    (payload :: payloads, e, last)
termination_by source.rest.length
decreasing_by
  have := @length_rest_read_lt source payload (by rw [_h])
  rwa [_h] at this

end Frame

end MarketBoard

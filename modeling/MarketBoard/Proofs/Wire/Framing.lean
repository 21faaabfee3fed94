import MarketBoard.Wire.Frame
import Mathlib.Algebra.Group.Nat.Defs
import Mathlib.Tactic.Lemma

/-!
Frames come through whatever way a channel moves their bytes.

* `Sink.Flows`, `Source.Flows`: the channel moves at least one byte at a time and does not fail; how
  many bytes it moves each time is left to it.
* `Frame.write_eq`, `Frame.writeEach_eq`: what has been taken are the frames, one behind the other.
* `Frame.Stops`: bytes that do not begin with a whole frame, the failure that they give, and the bytes
  that are left unread.
* `Frame.read_frame`, `Frame.read_of_stops`: the next frame, or the failure.
* `Frame.frames_lossless`: frames are read back as they were written, and all bytes are read in one way.
-/

namespace MarketBoard

/-! ### Writing -/

namespace Sink

/-- **A sink that flows**: every write takes at least one of the bytes that it is offered, and what was
taken can be handed on. -/
structure Flows (sink : Sink) : Prop where
  takes : ∀ writes taken left, 0 < left →
    ∃ count, 0 < count ∧ sink.answer writes taken left = .ok count
  flushes : sink.flushFault = none

variable {sink : Sink}

/-- What was taken, and in how many writes, does not matter for what comes. -/
lemma Flows.grown (h : sink.Flows) (taken : List UInt8) (writes : Nat) :
    ({ sink with taken, writes } : Sink).Flows :=
  ⟨h.takes, h.flushes⟩

/-- Bytes that are offered again and again are taken in the end. -/
lemma Flows.offer_eq (h : sink.Flows) (writes taken left : Nat) :
    ∃ writes', offer sink.answer writes taken left = ⟨0, writes', none⟩ := by
  fun_induction offer sink.answer writes taken left with
  | case1 writes taken => exact ⟨writes, rfl⟩
  | case2 writes taken left hleft fault hfault =>
      obtain ⟨count, -, hcount⟩ := h.takes writes taken left (Nat.pos_of_ne_zero hleft)
      exact absurd (hcount.symm.trans hfault) (by simp)
  | case3 writes taken left hleft count hcount moved hmoved =>
      -- a write that takes nothing
      obtain ⟨count', hpos, hcount'⟩ := h.takes writes taken left (Nat.pos_of_ne_zero hleft)
      obtain rfl := Except.ok.inj (hcount.symm.trans hcount')
      have hmin : min count left = 0 := hmoved
      omega
  | case4 writes taken left hleft count hcount moved hmoved ih => exact ih

/-- All of the bytes are taken. -/
lemma Flows.writeAll_eq (h : sink.Flows) (bytes : List UInt8) :
    ∃ writes, sink.writeAll bytes =
      (.ok (), { sink with taken := sink.taken ++ bytes, writes }) := by
  obtain ⟨writes, hoffer⟩ := h.offer_eq sink.writes sink.taken.length bytes.length
  refine ⟨writes, ?_⟩
  simp [writeAll, hoffer]

end Sink

namespace Frame

/-- **A frame is taken whole.** -/
lemma write_eq {sink : Sink} (h : sink.Flows) {payload : List UInt8}
    (hlength : payload.length ≤ maxLength) :
    ∃ writes, write payload sink =
      (.ok (), { sink with taken := sink.taken ++ encode payload, writes }) := by
  obtain ⟨first, hprefix⟩ := h.writeAll_eq (BigEndian.toBytes 4 payload.length)
  obtain ⟨second, hpayload⟩ := (h.grown _ first).writeAll_eq payload
  refine ⟨second, ?_⟩
  rw [write, if_neg (Nat.not_lt.mpr hlength), hprefix]
  dsimp only
  rw [hpayload]
  simp [Sink.flush, h.flushes, encode]

/-- A payload that is too long is refused before anything is written. -/
lemma write_of_maxLength_lt (sink : Sink) {payload : List UInt8}
    (hlength : maxLength < payload.length) :
    write payload sink =
      (.error (.oversized (min payload.length (UInt32.size - 1)) maxLength), sink) := by
  rw [write, if_pos hlength]

/-- Writes the frames of several payloads, up to the first failure. -/
def writeEach : List (List UInt8) → Sink → Except FrameError Unit × Sink
  | [], sink => (.ok (), sink)
  | payload :: rest, sink =>
    match write payload sink with
    | (.error e, sink) => (.error e, sink)
    | (.ok _, sink) => writeEach rest sink

/-- **Frames are taken one behind the other.** -/
lemma writeEach_eq {sink : Sink} (h : sink.Flows) {payloads : List (List UInt8)}
    (hlength : ∀ payload ∈ payloads, payload.length ≤ maxLength) :
    ∃ writes, writeEach payloads sink =
      (.ok (), { sink with taken := sink.taken ++ payloads.flatMap encode, writes }) := by
  induction payloads generalizing sink with
  | nil => exact ⟨sink.writes, by simp [writeEach]⟩
  | cons payload rest ih =>
      obtain ⟨first, hwrite⟩ := write_eq h (hlength payload List.mem_cons_self)
      obtain ⟨writes, hrest⟩ := ih (h.grown (sink.taken ++ encode payload) first)
        fun p hp => hlength p (List.mem_cons_of_mem payload hp)
      refine ⟨writes, ?_⟩
      rw [writeEach, hwrite]
      dsimp only
      rw [hrest, List.flatMap_cons, ← List.append_assoc]

end Frame

/-! ### Filling -/

namespace Source

/-- **A source that flows**: every read hands out at least one byte as long as there is one, and the
data ends without a failure. -/
structure Flows (source : Source) : Prop where
  grants : ∀ reads room, 0 < room → 0 < source.grant reads room
  ends : source.endFault = none

variable {source : Source}

/-- What is left, and after how many reads, does not matter for what comes. -/
lemma Flows.drained (h : source.Flows) (rest : List UInt8) (reads : Nat) :
    ({ source with rest, reads } : Source).Flows :=
  ⟨h.grants, h.ends⟩

/-- A read hands out nothing only at the end of the data. -/
lemma Flows.rest_eq_nil (h : source.Flows) {room : Nat} (hroom : 0 < room)
    (hstep : source.step room = 0) : source.rest = [] := by
  have hgrant := h.grants source.reads room hroom
  rw [step, List.length_take] at hstep
  exact List.length_eq_zero_iff.mp (by omega)

/-- **Filling does not depend on how bytes are handed out**: it takes what it needs if there is as
much, and else it takes what there is and fails with the count. -/
lemma Flows.fill_eq (h : source.Flows) (expected got : Nat) :
    ∃ reads, fill expected got source =
      (if expected - got ≤ source.rest.length then .ok ()
        else .error (.shortRead expected (got + source.rest.length)),
        { source with rest := source.rest.drop (expected - got), reads }) := by
  fun_induction fill expected got source with
  | case1 got source hfull =>
      refine ⟨source.reads, ?_⟩
      rw [Nat.sub_eq_zero_of_le hfull, if_pos (Nat.zero_le _), List.drop_zero]
  | case2 got source hless hstep fault hfault hrest =>
      exact absurd (hfault.symm.trans h.ends) (by simp)
  | case3 got source hless hstep =>
      have hnil := h.rest_eq_nil (by omega) hstep
      have hnone : ¬ expected - got ≤ source.rest.length := by
        rw [hnil, List.length_nil]
        omega
      refine ⟨source.reads + 1, ?_⟩
      rw [if_neg hnone]
      simp [advance, hnil]
  | case4 got source hless more hstep ih =>
      rw [step, List.length_take] at hstep
      obtain ⟨reads, hfill⟩ := ih (h.drained _ _)
      refine ⟨reads, hfill.trans ?_⟩
      -- what is there and what is left add up to the same before and after the read
      have hrest : (source.advance (more + 1)).rest = source.rest.drop (more + 1) := rfl
      have hgot : got + (more + 1) + (source.rest.length - (more + 1)) =
          got + source.rest.length := by omega
      have hdrop : more + 1 + (expected - (got + (more + 1))) = expected - got := by omega
      have henough : expected - (got + (more + 1)) ≤ source.rest.length - (more + 1) ↔
          expected - got ≤ source.rest.length := by omega
      simp only [hrest, List.length_drop, List.drop_drop, hgot, hdrop, henough]
      rfl

end Source

/-! ### Reading one frame -/

namespace Frame

/-- The length that a prefix of four bytes declares. -/
def declared (bytes : List UInt8) : Nat := BigEndian.ofBytes (bytes.take 4)

/-- **Reading stops** in front of bytes that do not begin with a whole frame: the failure that they
give, and the bytes that are left unread. -/
inductive Stops : List UInt8 → FrameError → List UInt8 → Prop
  /-- The data ends inside the prefix. -/
  | short {rest : List UInt8} (short : rest.length < 4) : Stops rest (.shortRead 4 rest.length) []
  /-- The prefix declares more than a frame may hold; nothing behind it is read. -/
  | oversized {rest : List UInt8} (whole : 4 ≤ rest.length) (long : maxLength < declared rest) :
      Stops rest (.oversized (declared rest) maxLength) (rest.drop 4)
  /-- The data ends inside the payload. -/
  | cut {rest : List UInt8} (whole : 4 ≤ rest.length) (fits : declared rest ≤ maxLength)
      (short : rest.length - 4 < declared rest) :
      Stops rest (.shortRead (declared rest) (rest.length - 4)) []

variable {source : Source}

/-- A frame declares the length of its payload. -/
lemma declared_encode_append {payload : List UInt8} (hlength : payload.length ≤ maxLength)
    (rest : List UInt8) : declared (encode payload ++ rest) = payload.length := by
  have hfits : payload.length < BigEndian.limit 4 := Nat.lt_of_le_of_lt hlength (by decide)
  rw [declared, encode, List.append_assoc, List.take_left' (BigEndian.length_toBytes 4 _),
    BigEndian.ofBytes_toBytes, Nat.mod_eq_of_lt hfits]

/-- **The next frame is read whole**, and nothing behind it. -/
lemma read_frame (h : source.Flows) {payload rest : List UInt8}
    (hlength : payload.length ≤ maxLength) (hrest : source.rest = encode payload ++ rest) :
    ∃ reads, read source = (.ok payload, { source with rest, reads }) := by
  have hprefix : (BigEndian.toBytes 4 payload.length).length = 4 := BigEndian.length_toBytes 4 _
  have hdeclared : BigEndian.ofBytes (source.rest.take 4) = payload.length := by
    rw [hrest]
    exact declared_encode_append hlength rest
  have hdrop : source.rest.drop 4 = payload ++ rest := by
    rw [hrest, encode, List.append_assoc, List.drop_left' hprefix]
  have hwhole : 4 - 0 ≤ source.rest.length := by
    rw [hrest, encode, List.append_assoc, List.length_append, hprefix]
    omega
  obtain ⟨first, hfirst⟩ := h.fill_eq 4 0
  rw [if_pos hwhole, Nat.sub_zero, hdrop] at hfirst
  obtain ⟨reads, hsecond⟩ := (h.drained (payload ++ rest) first).fill_eq payload.length 0
  rw [if_pos (by simp), Nat.sub_zero, List.drop_left' rfl] at hsecond
  refine ⟨reads, ?_⟩
  rw [read, hfirst]
  dsimp only
  rw [hdeclared, if_neg (Nat.not_lt.mpr hlength), hsecond]
  simp

/-- **Where no whole frame stands, reading stops** as it should. -/
lemma read_of_stops (h : source.Flows) {e : FrameError} {left : List UInt8}
    (hstops : Stops source.rest e left) :
    ∃ reads, read source = (.error e, { source with rest := left, reads }) := by
  obtain ⟨first, hfirst⟩ := h.fill_eq 4 0
  generalize hbytes : source.rest = bytes at hstops
  cases hstops with
  | short short =>
      refine ⟨first, ?_⟩
      rw [if_neg (by rw [hbytes]; omega), Nat.zero_add, hbytes, List.drop_eq_nil_of_le (by omega)]
        at hfirst
      rw [read, hfirst]
  | oversized whole long =>
      refine ⟨first, ?_⟩
      rw [if_pos (by rw [hbytes]; omega), hbytes] at hfirst
      rw [read, hfirst]
      dsimp only
      rw [hbytes]
      exact if_pos long
  | cut whole fits short =>
      have hleft : (bytes.drop 4).length = bytes.length - 4 := List.length_drop
      have hnothing : (bytes.drop 4).drop (declared bytes) = [] :=
        List.drop_eq_nil_of_le (by omega)
      rw [if_pos (by rw [hbytes]; omega), hbytes] at hfirst
      obtain ⟨reads, hsecond⟩ := (h.drained (bytes.drop 4) first).fill_eq (declared bytes) 0
      dsimp only at hsecond
      rw [Nat.sub_zero, hleft, if_neg (Nat.not_le.mpr short), Nat.zero_add, hnothing] at hsecond
      refine ⟨reads, ?_⟩
      rw [read, hfirst]
      dsimp only
      rw [hbytes]
      refine (if_neg (Nat.not_lt.mpr fits)).trans ?_
      rw [← declared, hsecond]

/-- Bytes that are as many as their prefix declares, or more, begin with a frame. -/
lemma eq_encode_append {bytes : List UInt8} (hwhole : 4 ≤ bytes.length)
    (henough : declared bytes ≤ bytes.length - 4) :
    bytes = encode ((bytes.drop 4).take (declared bytes)) ++ (bytes.drop 4).drop (declared bytes) := by
  have hpayload : ((bytes.drop 4).take (declared bytes)).length = declared bytes := by
    rw [List.length_take, List.length_drop]
    omega
  have hfour : (bytes.take 4).length = 4 := by
    rw [List.length_take]
    omega
  have hprefix : BigEndian.toBytes 4 (declared bytes) = bytes.take 4 := by
    have hsame := BigEndian.toBytes_ofBytes (bytes.take 4)
    rwa [hfour] at hsame
  rw [encode, hpayload, hprefix, List.append_assoc, List.take_append_drop, List.take_append_drop]

/-- Bytes begin with a whole frame, or reading stops in front of them. -/
lemma frame_or_stops (bytes : List UInt8) :
    (∃ payload rest, payload.length ≤ maxLength ∧ bytes = encode payload ++ rest) ∨
      ∃ e left, Stops bytes e left := by
  by_cases hwhole : 4 ≤ bytes.length
  · by_cases hfits : declared bytes ≤ maxLength
    · by_cases hcut : bytes.length - 4 < declared bytes
      · exact .inr ⟨_, _, .cut hwhole hfits hcut⟩
      · refine .inl ⟨_, _, ?_, eq_encode_append hwhole (Nat.le_of_not_lt hcut)⟩
        exact Nat.le_trans (List.length_take_le _ _) hfits
    · exact .inr ⟨_, _, .oversized hwhole (Nat.not_le.mp hfits)⟩
  · exact .inr ⟨_, _, .short (Nat.not_le.mp hwhole)⟩

/-! ### Reading all frames -/

/-- A failure is the last that is read. -/
lemma readAll_of_error {e : FrameError} {after : Source} (h : read source = (.error e, after)) :
    readAll source = ([], e, after) := by
  rw [readAll]
  split
  · next e' after' h' =>
    obtain ⟨he, rfl⟩ := Prod.mk.inj (h'.symm.trans h)
    obtain rfl := Except.error.inj he
    rfl
  · next payload after' h' => exact absurd (h'.symm.trans h) (by simp)

/-- Behind a payload, reading goes on. -/
lemma readAll_of_ok {payload : List UInt8} {after : Source} (h : read source = (.ok payload, after)) :
    readAll source = (payload :: (readAll after).1, (readAll after).2) := by
  rw [readAll]
  split
  · next e after' h' => exact absurd (h'.symm.trans h) (by simp)
  · next payload' after' h' =>
    obtain ⟨hpayload, rfl⟩ := Prod.mk.inj (h'.symm.trans h)
    obtain rfl := Except.ok.inj hpayload
    rfl

/-- **Frames behind each other are read one after the other**, up to where reading stops. -/
lemma readAll_eq (h : source.Flows) {payloads : List (List UInt8)}
    (hlength : ∀ payload ∈ payloads, payload.length ≤ maxLength) {rest left : List UInt8}
    {e : FrameError} (hstops : Stops rest e left)
    (hrest : source.rest = payloads.flatMap encode ++ rest) :
    ∃ reads, readAll source = (payloads, e, { source with rest := left, reads }) := by
  induction payloads generalizing source with
  | nil =>
      have hsame : source.rest = rest := hrest
      obtain ⟨reads, hread⟩ := read_of_stops h (hsame ▸ hstops)
      exact ⟨reads, readAll_of_error hread⟩
  | cons payload more ih =>
      rw [List.flatMap_cons, List.append_assoc] at hrest
      obtain ⟨first, hread⟩ := read_frame h (hlength payload List.mem_cons_self) hrest
      obtain ⟨reads, hmore⟩ := ih (h.drained (more.flatMap encode ++ rest) first)
        (fun p hp => hlength p (List.mem_cons_of_mem payload hp)) rfl
      refine ⟨reads, ?_⟩
      rw [readAll_of_ok hread, hmore]

/-- All bytes are frames behind each other, and then bytes in front of which reading stops. -/
lemma exists_frames (bytes : List UInt8) :
    ∃ (payloads : List (List UInt8)) (rest : List UInt8) (e : FrameError) (left : List UInt8),
      (∀ payload ∈ payloads, payload.length ≤ maxLength) ∧
      bytes = payloads.flatMap encode ++ rest ∧ Stops rest e left := by
  induction hn : bytes.length using Nat.strongRecOn generalizing bytes with
  | ind n ih =>
    obtain ⟨payload, more, hlength, hbytes⟩ | ⟨e, left, hstops⟩ := frame_or_stops bytes
    · -- the prefix alone makes what stands behind a frame shorter
      have hless : more.length < n := by
        rw [← hn, hbytes, encode, List.append_assoc, List.length_append, BigEndian.length_toBytes,
          List.length_append]
        omega
      obtain ⟨payloads, rest, e, left, hall, hmore, hstops⟩ := ih more.length hless more rfl
      refine ⟨payload :: payloads, rest, e, left, ?_, ?_, hstops⟩
      · intro p hp
        obtain rfl | hp := List.mem_cons.mp hp
        · exact hlength
        · exact hall p hp
      · rw [hbytes, hmore, List.flatMap_cons, List.append_assoc]
    · exact ⟨[], bytes, e, left, by simp, rfl, hstops⟩

/-- **Frames come through unharmed, and all bytes are read in one way.**
Payloads of a length that a frame may have are written one behind the other and read back in order,
and then the data has ended, whatever pieces the two ends of the channel move. Whatever bytes arrive,
the payloads that are read, framed again, are the first of these bytes, and reading stops in front of
the rest as it should; the pieces do not matter. A payload that is too long is refused, and nothing is
written. -/
theorem frames_lossless :
    (∀ (payloads : List (List UInt8)) (sink : Sink) (source : Source), sink.Flows → source.Flows →
        (∀ payload ∈ payloads, payload.length ≤ maxLength) → sink.taken = [] →
        source.rest = (writeEach payloads sink).2.taken →
          (writeEach payloads sink).1 = .ok () ∧
            (writeEach payloads sink).2.taken = payloads.flatMap encode ∧
            (readAll source).1 = payloads ∧ (readAll source).2.1 = .shortRead 4 0) ∧
      (∀ source : Source, source.Flows → ∃ rest,
        source.rest = (readAll source).1.flatMap encode ++ rest ∧
          Stops rest (readAll source).2.1 (readAll source).2.2.rest) ∧
      (∀ source source' : Source, source.Flows → source'.Flows → source'.rest = source.rest →
        (readAll source').1 = (readAll source).1 ∧ (readAll source').2.1 = (readAll source).2.1 ∧
          (readAll source').2.2.rest = (readAll source).2.2.rest) ∧
      ∀ (payload : List UInt8) (sink : Sink), maxLength < payload.length →
        write payload sink =
          (.error (.oversized (min payload.length (2 ^ 32 - 1)) maxLength), sink) := by
  refine ⟨?_, ?_, ?_, fun payload sink => write_of_maxLength_lt sink⟩
  · intro payloads sink source hsink hsource hlength hnew hsent
    obtain ⟨writes, hwrite⟩ := writeEach_eq hsink hlength
    have htaken : (writeEach payloads sink).2.taken = payloads.flatMap encode := by
      rw [hwrite, hnew]
      rfl
    have hrest : source.rest = payloads.flatMap encode ++ [] := by
      rw [hsent, htaken, List.append_nil]
    obtain ⟨reads, hread⟩ := readAll_eq hsource hlength (.short (by decide)) hrest
    exact ⟨by rw [hwrite], htaken, by rw [hread], by rw [hread]; rfl⟩
  · intro source hsource
    obtain ⟨payloads, rest, e, left, hlength, hbytes, hstops⟩ := exists_frames source.rest
    obtain ⟨reads, hread⟩ := readAll_eq hsource hlength hstops hbytes
    rw [hread]
    exact ⟨rest, hbytes, hstops⟩
  · intro source source' hsource hsource' hsame
    obtain ⟨payloads, rest, e, left, hlength, hbytes, hstops⟩ := exists_frames source.rest
    obtain ⟨reads, hread⟩ := readAll_eq hsource hlength hstops hbytes
    obtain ⟨reads', hread'⟩ := readAll_eq hsource' hlength hstops (hsame.trans hbytes)
    rw [hread, hread']
    exact ⟨rfl, rfl, rfl⟩

/-- Two payloads, one of them empty, written two bytes at a time and read three at a time; bytes with
an oversized prefix, read one at a time and all at once; and a payload that is one byte too long. -/
theorem frames_lossless_pieces :
    let payloads : List (List UInt8) := [[7, 8], []]
    let sink : Sink := { answer := fun _ _ _ => .ok 2 }
    let source : Source := { rest := [0, 0, 0, 2, 7, 8, 0, 0, 0, 0], grant := fun _ _ => 3 }
    let slow : Source := { rest := [0, 0, 0, 0, 0, 16, 0, 1, 9], grant := fun _ _ => 1 }
    let fast : Source := { rest := [0, 0, 0, 0, 0, 16, 0, 1, 9], grant := fun _ room => room }
    (writeEach payloads sink).2.taken = source.rest ∧ (readAll source).1 = payloads ∧
      (readAll source).2.1 = .shortRead 4 0 ∧
      (∃ rest, slow.rest = (readAll slow).1.flatMap encode ++ rest ∧
        Stops rest (readAll slow).2.1 (readAll slow).2.2.rest) ∧
      (readAll fast).1 = (readAll slow).1 ∧
      (write (List.replicate (maxLength + 1) 0) sink).2.taken = [] := by
  intro payloads sink source slow fast
  have hsink : sink.Flows := ⟨fun _ _ _ _ => ⟨2, by decide, rfl⟩, rfl⟩
  have hsource : source.Flows := ⟨fun _ _ _ => (by decide : 0 < 3), rfl⟩
  have hslow : slow.Flows := ⟨fun _ _ _ => Nat.one_pos, rfl⟩
  have hfast : fast.Flows := ⟨fun _ _ hroom => hroom, rfl⟩
  have hsmall : ∀ payload ∈ payloads, payload.length ≤ maxLength := by decide
  have htaken : (writeEach payloads sink).2.taken = source.rest := by
    obtain ⟨writes, hwrite⟩ := writeEach_eq hsink hsmall
    rw [hwrite]
    change payloads.flatMap encode = source.rest
    decide
  obtain ⟨hback, hsplit, hsame, hlong⟩ := frames_lossless
  obtain ⟨-, -, hpayloads, hend⟩ := hback payloads sink source hsink hsource hsmall rfl htaken.symm
  obtain ⟨hagree, -, -⟩ := hsame slow fast hslow hfast rfl
  have hrefused := hlong (List.replicate (maxLength + 1) 0) sink
    (by rw [List.length_replicate]; exact Nat.lt_succ_self maxLength)
  exact ⟨htaken, hpayloads, hend, hsplit slow hslow, hagree, by rw [hrefused]⟩

end Frame

end MarketBoard

import MarketBoard.Proofs.Wire.Payload

/-!
Payloads that are cut off or go on too long.

* `DecodeError.IsShort`: a part needs bytes that are not there.
* `Reader.NoticesCuts`: a reader fails so if some of the bytes are cut off that it would take.
  `noticesCuts_bind`, `noticesCuts_map` and `noticesCuts_pure` follow this through readers that are put
  together, from `noticesCuts_take` and `noticesCuts_levels` on.
* `IsSelfDelimiting`: what is read of the beginnings and of the continuations of a payload.
* `payloads_selfDelimiting`: so are messages, requests and books.
-/

namespace MarketBoard

/-- **Bytes are missing**: a part needs more bytes than it has. Those that it has are present, and
those that it lacks were cut off. -/
def DecodeError.IsShort (e : DecodeError) (present missing : Nat) : Prop :=
  ∃ field need got, e = .truncated field need got ∧ got < need ∧ got ≤ present ∧
    need - got ≤ missing

/-- More may be present and more missing than a part can see. -/
lemma DecodeError.IsShort.mono {e : DecodeError} {present present' missing missing' : Nat}
    (h : e.IsShort present missing) (hpresent : present ≤ present') (hmissing : missing ≤ missing') :
    e.IsShort present' missing' := by
  obtain ⟨field, need, got, he, hlt, hgot, hneed⟩ := h
  exact ⟨field, need, got, he, hlt, Nat.le_trans hgot hpresent, Nat.le_trans hneed hmissing⟩

namespace Reader

variable {α β : Type} {bytes : List UInt8}

/-! ### Readers that are put together -/

/-- The reader fails on the bytes. -/
def Fails (reader : Reader α) (bytes : List UInt8) (e : DecodeError) : Prop :=
  StateT.run reader bytes = .error e

lemma fails_bind {reader : Reader α} {next : α → Reader β} {e : DecodeError} :
    (reader >>= next).Fails bytes e ↔
      reader.Fails bytes e ∨ ∃ a mid, reader.Takes bytes a mid ∧ (next a).Fails mid e := by
  simp only [Fails, Takes, StateT.run_bind]
  cases StateT.run reader bytes with
  | error e' => simp [bind, Except.bind]
  | ok found =>
      obtain ⟨a, mid⟩ := found
      simp only [Except.ok.injEq, Prod.mk.injEq, reduceCtorEq, false_or]
      constructor
      · exact fun h => ⟨a, mid, ⟨rfl, rfl⟩, h⟩
      · rintro ⟨_, _, ⟨rfl, rfl⟩, h⟩
        exact h

/-- **The reader notices cuts.** What it takes off the front does not hang on what stands behind it, and
if some of that is cut off, it fails for want of these bytes. -/
def NoticesCuts (reader : Reader α) : Prop :=
  ∀ ⦃bytes a rest⦄, reader.Takes bytes a rest → ∃ taken, bytes = taken ++ rest ∧
    (∀ more, reader.Takes (taken ++ more) a more) ∧
    ∀ front back, taken = front ++ back → back ≠ [] →
      ∃ e, reader.Fails front e ∧ e.IsShort front.length back.length

lemma noticesCuts_pure (a : α) : (pure a : Reader α).NoticesCuts := by
  intro bytes b rest h
  obtain ⟨rfl, rfl⟩ := takes_pure.mp h
  refine ⟨[], rfl, fun more => takes_pure.mpr ⟨rfl, rfl⟩, fun front back hcut hback => ?_⟩
  exact absurd (List.append_eq_nil_iff.mp hcut.symm).2 hback

lemma noticesCuts_throw (e : DecodeError) : (throw e : Reader α).NoticesCuts :=
  fun _ _ _ h => absurd h not_takes_throw

/-- A cut falls into the part of the first reader or into that of the second. -/
lemma noticesCuts_bind {reader : Reader α} {next : α → Reader β} (h : reader.NoticesCuts)
    (hnext : ∀ a, (next a).NoticesCuts) : (reader >>= next).NoticesCuts := by
  intro bytes b rest htakes
  obtain ⟨a, mid, hfirst, hsecond⟩ := takes_bind.mp htakes
  obtain ⟨taken, rfl, hlocal, hcut⟩ := h hfirst
  obtain ⟨taken', rfl, hlocal', hcut'⟩ := hnext a hsecond
  refine ⟨taken ++ taken', (List.append_assoc _ _ _).symm, fun more => ?_,
    fun front back hsplit hback => ?_⟩
  · rw [List.append_assoc]
    exact takes_bind.mpr ⟨a, _, hlocal _, hlocal' more⟩
  · rcases List.append_eq_append_iff.mp hsplit with ⟨front', rfl, rfl⟩ | ⟨back', rfl, rfl⟩
    · obtain ⟨e, hfails, hshort⟩ := hcut' front' back rfl hback
      exact ⟨e, fails_bind.mpr (.inr ⟨a, front', hlocal front', hfails⟩),
        hshort.mono (by simp) (Nat.le_refl _)⟩
    · by_cases hback' : back' = []
      · -- the first reader has all of its bytes, and the second one has none
        subst hback'
        obtain ⟨e, hfails, hshort⟩ := hcut' [] taken' rfl (by simpa using hback)
        refine ⟨e, fails_bind.mpr (.inr ⟨a, [], ?_, hfails⟩), hshort.mono (Nat.zero_le _) (by simp)⟩
        simpa using hlocal []
      · obtain ⟨e, hfails, hshort⟩ := hcut front back' rfl hback'
        exact ⟨e, fails_bind.mpr (.inl hfails), hshort.mono (Nat.le_refl _) (by simp)⟩

lemma noticesCuts_map {reader : Reader α} (f : α → β) (h : reader.NoticesCuts) :
    (f <$> reader).NoticesCuts := by
  rw [map_eq_pure_bind]
  exact noticesCuts_bind h fun a => noticesCuts_pure (f a)

/-! ### Parts of a payload -/

lemma noticesCuts_take (field : Field) (count : Nat) : (take field count).NoticesCuts := by
  intro bytes w rest h
  obtain ⟨rfl, rfl⟩ := takes_take.mp h
  refine ⟨w, rfl, fun more => takes_take.mpr ⟨rfl, rfl⟩, fun front back hcut hback => ?_⟩
  have hlength : w.length = front.length + back.length := by rw [hcut, List.length_append]
  have hpos : 0 < back.length := List.length_pos_iff.mpr hback
  have hall : front.take w.length = front := List.take_of_length_le (by omega)
  refine ⟨.truncated field w.length front.length, ?_, field, _, _, rfl, by omega, Nat.le_refl _,
    by omega⟩
  rw [Fails, StateT.run, take, hall, if_pos (by omega)]

lemma noticesCuts_number (field : Field) (count : Nat) : (number field count).NoticesCuts :=
  noticesCuts_map _ (noticesCuts_take field count)

lemma noticesCuts_word8 (field : Field) : (word8 field).NoticesCuts :=
  noticesCuts_map _ (noticesCuts_number field 1)

lemma noticesCuts_word16 (field : Field) : (word16 field).NoticesCuts :=
  noticesCuts_map _ (noticesCuts_number field 2)

lemma noticesCuts_word32 (field : Field) : (word32 field).NoticesCuts :=
  noticesCuts_map _ (noticesCuts_number field 4)

lemma noticesCuts_word64 (field : Field) : (word64 field).NoticesCuts :=
  noticesCuts_map _ (noticesCuts_number field 8)

lemma noticesCuts_expect (tag : UInt8) : (expect tag).NoticesCuts := by
  refine noticesCuts_bind (noticesCuts_word8 .tag) fun got => ?_
  split
  · exact noticesCuts_pure ()
  · exact noticesCuts_throw _

/-- Bytes of a text are looked at only when all of them are there: no cut is taken for a text that is
not UTF-8. -/
lemma noticesCuts_text (field : Field) : (text field).NoticesCuts := by
  refine noticesCuts_bind (noticesCuts_number field 2) fun length => ?_
  refine noticesCuts_bind (noticesCuts_take field length) fun bytes => ?_
  split
  · exact noticesCuts_pure _
  · exact noticesCuts_throw _

lemma noticesCuts_key : key.NoticesCuts :=
  noticesCuts_bind (noticesCuts_text .key) fun _ =>
    noticesCuts_bind (noticesCuts_word32 .source) fun _ => noticesCuts_pure _

/-- The check before the first level asks for the bytes of all of them, so the loop never meets a
cut. -/
lemma noticesCuts_promised (field : Field) (count : Nat) :
    (do require field (count * 16); levelsOnto field count [] : Reader (List Level)).NoticesCuts := by
  have htakes : ∀ {bytes ls rest},
      (do require field (count * 16); levelsOnto field count [] : Reader (List Level)).Takes bytes ls
        rest ↔ ls.length = count ∧ bytes = ls.flatMap Writer.level ++ rest := by
    intro bytes ls rest
    simp only [takes_bind, takes_require, takes_levelsOnto]
    constructor
    · rintro ⟨-, -, ⟨-, rfl⟩, more, rfl, rfl, rfl⟩
      exact ⟨rfl, rfl⟩
    · rintro ⟨rfl, rfl⟩
      refine ⟨(), _, ⟨?_, rfl⟩, ls, rfl, rfl, rfl⟩
      rw [List.length_append, Writer.length_flatMap_level]
      exact Nat.le_add_right _ _
  intro bytes ls rest h
  obtain ⟨hcount, rfl⟩ := htakes.mp h
  refine ⟨_, rfl, fun more => htakes.mpr ⟨hcount, rfl⟩, fun front back hcut hback => ?_⟩
  have hlength : count * 16 = front.length + back.length := by
    rw [← List.length_append, ← hcut, Writer.length_flatMap_level, hcount]
  have hpos : 0 < back.length := List.length_pos_iff.mpr hback
  have hall : front.take (count * 16) = front := List.take_of_length_le (by omega)
  refine ⟨.truncated field (count * 16) front.length, fails_bind.mpr (.inl ?_), field, _, _, rfl,
    by omega, Nat.le_refl _, by omega⟩
  rw [Fails, StateT.run, require, hall, if_pos (by omega)]

lemma noticesCuts_levels (field : Field) : (levels field).NoticesCuts :=
  noticesCuts_bind (noticesCuts_number field 2) (noticesCuts_promised field)

lemma noticesCuts_message : message.NoticesCuts := by
  refine noticesCuts_bind (noticesCuts_word8 .tag) fun tag => ?_
  split
  · refine noticesCuts_map _ (noticesCuts_bind noticesCuts_key fun _ => ?_)
    refine noticesCuts_bind (noticesCuts_word64 .bidPrice) fun _ => ?_
    refine noticesCuts_bind (noticesCuts_word64 .askPrice) fun _ => ?_
    refine noticesCuts_bind (noticesCuts_word64 .bidSize) fun _ => ?_
    exact noticesCuts_bind (noticesCuts_word64 .askSize) fun _ => noticesCuts_pure _
  · split
    · refine noticesCuts_map _ (noticesCuts_bind noticesCuts_key fun _ => ?_)
      refine noticesCuts_bind (noticesCuts_word64 .lastPrice) fun _ => ?_
      exact noticesCuts_bind (noticesCuts_word64 .lastSize) fun _ => noticesCuts_pure _
    · exact noticesCuts_throw _

lemma noticesCuts_depthRequest : depthRequest.NoticesCuts :=
  noticesCuts_bind (noticesCuts_expect requestTag) fun _ =>
    noticesCuts_bind noticesCuts_key fun _ =>
      noticesCuts_bind (noticesCuts_word16 .maxLevels) fun _ => noticesCuts_pure _

lemma noticesCuts_book : book.NoticesCuts :=
  noticesCuts_bind (noticesCuts_expect bookTag) fun _ =>
    noticesCuts_bind (noticesCuts_levels .bids) fun _ =>
      noticesCuts_bind (noticesCuts_levels .asks) fun _ => noticesCuts_pure _

end Reader

/-! ### Whole payloads -/

/-- **A payload shows where it ends.** Of its beginnings, that without bytes is empty, and every other
that is not the whole makes the reader ask for bytes, fewer of which are there than it needs, and no
more of which are missing than were cut off. With bytes behind it, their number is reported. -/
structure IsSelfDelimiting {α : Type} (decode : List UInt8 → Except DecodeError α)
    (payload : List UInt8) : Prop where
  empty : decode [] = .error .empty
  cut : ∀ front, front <+: payload → front ≠ [] → front ≠ payload →
    ∃ field need got, decode front = .error (.truncated field need got) ∧
      got < need ∧ got ≤ front.length ∧ need - got ≤ payload.length - front.length
  trailing : ∀ extra, extra ≠ [] → decode (payload ++ extra) = .error (.trailing extra.length)

namespace Reader

variable {α : Type} {reader : Reader α} {bytes : List UInt8}

lemma payload_of_fails {e : DecodeError} (hbytes : bytes ≠ []) (h : reader.Fails bytes e) :
    reader.payload bytes = .error e := by
  rw [Fails] at h
  rw [payload, List.isEmpty_eq_false_iff.mpr hbytes, if_neg Bool.false_ne_true, run, h]
  rfl

lemma payload_of_rest {a : α} {rest : List UInt8} (hrest : rest ≠ []) (h : reader.Takes bytes a rest)
    (hbytes : bytes ≠ []) : reader.payload bytes = .error (.trailing rest.length) := by
  rw [Takes] at h
  rw [payload, List.isEmpty_eq_false_iff.mpr hbytes, if_neg Bool.false_ne_true, run, h]
  show (if rest.isEmpty = true then _ else _) = _
  rw [List.isEmpty_eq_false_iff.mpr hrest, if_neg Bool.false_ne_true]
  rfl

/-- **A reader that notices cuts reads self-delimiting payloads.** -/
lemma isSelfDelimiting_payload {payload : List UInt8} {a : α} (hcuts : reader.NoticesCuts)
    (h : reader.payload payload = .ok a) : IsSelfDelimiting reader.payload payload := by
  obtain ⟨hne, htakes⟩ := payload_eq_ok_iff.mp h
  obtain ⟨taken, htaken, hlocal, hcut⟩ := hcuts htakes
  rw [List.append_nil] at htaken
  subst htaken
  refine ⟨rfl, ?_, fun extra hextra => ?_⟩
  · rintro front ⟨back, rfl⟩ hfront hproper
    have hback : back ≠ [] := by
      rintro rfl
      exact hproper (List.append_nil _).symm
    obtain ⟨e, hfails, field, need, got, rfl, hlt, hgot, hneed⟩ := hcut front back rfl hback
    refine ⟨field, need, got, payload_of_fails hfront hfails, hlt, hgot, ?_⟩
    rwa [List.length_append, Nat.add_sub_cancel_left]
  · exact payload_of_rest hextra (hlocal extra) (List.append_ne_nil_of_left_ne_nil hne extra)

end Reader

/-- **All payloads are self-delimiting**: what is written of a message, of a request or of a book, each
for the reader of its own kind. -/
theorem payloads_selfDelimiting :
    (∀ (m : Message) (w : List UInt8), m.encode = .ok w → IsSelfDelimiting Message.decode w) ∧
      (∀ (r : DepthRequest) (w : List UInt8), r.encode = .ok w →
        IsSelfDelimiting DepthRequest.decode w) ∧
      ∀ (b : Book) (w : List UInt8), b.encode = .ok w → IsSelfDelimiting Book.decode w :=
  ⟨fun _ _ h => Reader.isSelfDelimiting_payload Reader.noticesCuts_message
      (Message.decode_eq_ok_iff.mpr h),
    fun _ _ h => Reader.isSelfDelimiting_payload Reader.noticesCuts_depthRequest
      (DepthRequest.decode_eq_ok_iff.mpr h),
    fun _ _ h => Reader.isSelfDelimiting_payload Reader.noticesCuts_book
      (Book.decode_eq_ok_iff.mpr h)⟩

/-- A trade is cut within a character of its symbol, a request within its number, and a book within its
last level. -/
theorem payloads_selfDelimiting_cut :
    (∃ w, (Message.trade ⟨⟨"é", 1⟩, 5, 7⟩).encode = .ok w ∧ IsSelfDelimiting Message.decode w ∧
        Message.decode (w.take 4) = .error (.truncated .key 2 1)) ∧
      (∃ w, (DepthRequest.mk ⟨"A", 1⟩ 10).encode = .ok w ∧ IsSelfDelimiting DepthRequest.decode w ∧
        DepthRequest.decode (w.take 9) = .error (.truncated .maxLevels 2 1)) ∧
      ∃ w, (Book.mk [] [⟨5, 7⟩]).encode = .ok w ∧ IsSelfDelimiting Book.decode w ∧
        Book.decode (w.take 20) = .error (.truncated .asks 16 15) := by
  obtain ⟨hmessages, hrequests, hbooks⟩ := payloads_selfDelimiting
  have htrade : (Message.trade ⟨⟨"é", 1⟩, 5, 7⟩).encode =
      .ok [2, 0, 2, 0xC3, 0xA9, 0, 0, 0, 1, 0, 0, 0, 0, 0, 0, 0, 5, 0, 0, 0, 0, 0, 0, 0, 7] := rfl
  have hrequest : (DepthRequest.mk ⟨"A", 1⟩ 10).encode =
      .ok [16, 0, 1, 65, 0, 0, 0, 1, 0, 10] := rfl
  have hbook : (Book.mk [] [⟨5, 7⟩]).encode =
      .ok [17, 0, 0, 0, 1, 0, 0, 0, 0, 0, 0, 0, 5, 0, 0, 0, 0, 0, 0, 0, 7] := rfl
  exact ⟨⟨_, htrade, hmessages _ _ htrade, rfl⟩, ⟨_, hrequest, hrequests _ _ hrequest, rfl⟩,
    ⟨_, hbook, hbooks _ _ hbook, rfl⟩⟩

end MarketBoard

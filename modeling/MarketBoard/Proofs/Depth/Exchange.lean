import MarketBoard.DepthClient
import MarketBoard.Proofs.Wire.Framing
import MarketBoard.Proofs.Wire.Payload

/-!
Asking for a book on a connection that does not fail.

* `Frame.BeginsWith`: bytes begin with the frame of a payload. `Frame.read_eq_ok_iff`,
  `Frame.read_eq_error_iff`: what reading gives; `Frame.exists_stops_iff`: reading stops exactly where
  no frame stands.
* `Key.Fits`: the symbol can be written; every key that was read from a message is of this kind.
* `DepthClient.Reaches`: somebody takes the request, replies, and closes.
* `DepthClient.Reply`: the results that the bytes of a reply give.
* `Reaches.fetch_eq`, `Reaches.result_iff`: what is written, and what comes of it.
-/

namespace MarketBoard

/-! ### The first frame of a reply -/

namespace Frame

/-- **Bytes begin with the frame of a payload**, which is not too long. -/
def BeginsWith (bytes payload : List UInt8) : Prop :=
  payload.length ≤ maxLength ∧ encode payload <+: bytes

variable {source : Source}

/-- A payload is read exactly where its frame stands, whatever stands behind it. -/
lemma read_eq_ok_iff (h : source.Flows) {payload : List UInt8} :
    (read source).1 = .ok payload ↔ BeginsWith source.rest payload := by
  constructor
  · intro hread
    obtain ⟨first, rest, hlength, hbytes⟩ | ⟨e, left, hstops⟩ := frame_or_stops source.rest
    · obtain ⟨reads, hfirst⟩ := read_frame h hlength hbytes
      rw [hfirst] at hread
      obtain rfl := Except.ok.inj hread
      exact ⟨hlength, rest, hbytes.symm⟩
    · obtain ⟨reads, hfails⟩ := read_of_stops h hstops
      rw [hfails] at hread
      exact absurd hread (by simp)
  · rintro ⟨hlength, rest, hrest⟩
    obtain ⟨reads, hread⟩ := read_frame h hlength hrest.symm
    rw [hread]

/-- Reading fails exactly where it has to stop. -/
lemma read_eq_error_iff (h : source.Flows) {e : FrameError} :
    (read source).1 = .error e ↔ ∃ left, Stops source.rest e left := by
  constructor
  · intro hread
    obtain ⟨first, rest, hlength, hbytes⟩ | ⟨e', left, hstops⟩ := frame_or_stops source.rest
    · obtain ⟨reads, hfirst⟩ := read_frame h hlength hbytes
      rw [hfirst] at hread
      exact absurd hread (by simp)
    · obtain ⟨reads, hfails⟩ := read_of_stops h hstops
      rw [hfails] at hread
      obtain rfl := Except.error.inj hread
      exact ⟨left, hstops⟩
  · rintro ⟨left, hstops⟩
    obtain ⟨reads, hread⟩ := read_of_stops h hstops
    rw [hread]

/-- **Reading stops exactly where no frame stands.** -/
lemma exists_stops_iff (bytes : List UInt8) :
    (∃ e left, Stops bytes e left) ↔ ¬ ∃ payload, BeginsWith bytes payload := by
  let source : Source := { rest := bytes, grant := fun _ room => room }
  have h : source.Flows := ⟨fun _ _ hroom => hroom, rfl⟩
  constructor
  · rintro ⟨e, left, hstops⟩ ⟨payload, hbegins⟩
    have hfails := (read_eq_error_iff h).mpr ⟨left, hstops⟩
    have hreads := (read_eq_ok_iff h).mpr hbegins
    exact absurd (hfails.symm.trans hreads) (by simp)
  · intro hnone
    obtain ⟨payload, rest, hlength, hbytes⟩ | hstops := frame_or_stops bytes
    · exact absurd ⟨payload, hlength, rest, hbytes.symm⟩ hnone
    · exact hstops

end Frame

/-! ### Keys that can be written -/

/-- The symbol fits the 16 bits of its length. -/
def Key.Fits (k : Key) : Prop := k.symbol.utf8ByteSize ≤ 65535

instance (k : Key) : Decidable k.Fits := inferInstanceAs (Decidable (_ ≤ _))

/-- **A key that was read from a message can be written.** -/
lemma Key.fits_of_decode {bytes : List UInt8} {m : Message} (h : Message.decode bytes = .ok m) :
    m.key.Fits := by
  refine Nat.not_lt.mp fun hlong => ?_
  have hfails := Message.encode_eq_error_iff.mpr ⟨hlong, rfl⟩
  exact absurd (hfails.symm.trans (Message.decode_eq_ok_iff.mp h)) (by simp)

/-- A request for such a key is written, and it fits a frame. -/
lemma DepthRequest.exists_encode {r : DepthRequest} (h : r.key.Fits) :
    ∃ payload, r.encode = .ok payload ∧ payload.length ≤ Frame.maxLength := by
  obtain ⟨payload, hpayload⟩ : ∃ payload, r.encode = .ok payload := by
    cases hencode : r.encode with
    | ok payload => exact ⟨payload, rfl⟩
    | error e => exact absurd h (Nat.not_le.mpr (DepthRequest.encode_eq_error_iff.mp hencode).1)
  obtain ⟨key, hkey, rfl⟩ := DepthRequest.encode_eq_ok_iff.mp hpayload
  obtain ⟨symbol, hsymbol, rfl⟩ := Writer.key_eq_ok_iff.mp hkey
  obtain ⟨hfits, rfl⟩ := Writer.text_eq_ok_iff.mp hsymbol
  refine ⟨_, hpayload, ?_⟩
  simp only [List.length_cons, List.length_append, BigEndian.length_toBytes, Writer.length_toUTF8,
    Writer.word32, Writer.word16]
  exact Nat.le_trans (by omega : _ ≤ 65535 + 9) (by decide)

/-! ### Asking -/

namespace DepthClient

/-- **The client gets through**: its endpoint is known, somebody there takes the request, replies and
closes, and the connection does not fail, whatever pieces it moves. -/
structure Reaches (c : DepthClient) (net : Network) (sink : Sink) (source : Source) : Prop where
  connects : ∃ endpoint address, Endpoint.parse? c.endpoint = some endpoint ∧
    net.resolve endpoint = some address ∧ net.connect address = .opened sink source false
  fresh : sink.taken = []
  takes : sink.Flows
  replies : source.Flows

/-- **What the bytes of a reply give.** -/
inductive Reply (bytes : List UInt8) : Except DepthError Book → Prop where
  /-- They begin with the frame of a book; what stands behind it does not matter. -/
  | book {payload : List UInt8} {book : Book} (framed : Frame.BeginsWith bytes payload)
      (written : book.encode = .ok payload) : Reply bytes (.ok book)
  /-- They begin with a frame, but its payload is no book. -/
  | unreadable {payload : List UInt8} {e : DecodeError} (framed : Frame.BeginsWith bytes payload)
      (unreadable : Book.decode payload = .error e) : Reply bytes (.error (.undecodable e))
  /-- They do not begin with a frame. -/
  | unframed {e : FrameError} {left : List UInt8} (stops : Frame.Stops bytes e left) :
      Reply bytes (.error (.unframed e))

/-- An answer is what its bytes give. -/
lemma answer_eq_iff {source : Source} (h : source.Flows) {result : Except DepthError Book} :
    answer source = result ↔ Reply source.rest result := by
  constructor
  · rintro rfl
    rw [answer]
    cases hread : (Frame.read source).1 with
    | error e =>
        obtain ⟨left, hstops⟩ := (Frame.read_eq_error_iff h).mp hread
        exact .unframed hstops
    | ok payload =>
        have hframed := (Frame.read_eq_ok_iff h).mp hread
        dsimp only
        cases hdecode : Book.decode payload with
        | error e => exact .unreadable hframed hdecode
        | ok book => exact .book hframed (Book.decode_eq_ok_iff.mp hdecode)
  · intro hreply
    cases hreply with
    | book framed written =>
        simp only [answer, (Frame.read_eq_ok_iff h).mpr framed, Book.decode_eq_ok_iff.mpr written]
    | unreadable framed unreadable =>
        simp only [answer, (Frame.read_eq_ok_iff h).mpr framed, unreadable]
    | unframed stops => simp only [answer, (Frame.read_eq_error_iff h).mpr ⟨_, stops⟩]

namespace Reaches

variable {c : DepthClient} {net : Network} {sink : Sink} {source : Source} {r : DepthRequest}

/-- **The request goes out as one frame**, and the result is the answer. -/
lemma fetch_eq (h : c.Reaches net sink source) (hr : r.key.Fits) :
    ∃ payload, r.encode = .ok payload ∧ payload.length ≤ Frame.maxLength ∧
      c.fetch net r = { result := answer source, written := Frame.encode payload } := by
  obtain ⟨endpoint, address, hparse, hresolve, hconnect⟩ := h.connects
  obtain ⟨payload, hpayload, hlength⟩ := DepthRequest.exists_encode hr
  obtain ⟨writes, hwrite⟩ := Frame.write_eq h.takes hlength
  have hexchange : exchange r sink source =
      { result := answer source, written := Frame.encode payload } := by
    simp only [exchange, hpayload, hwrite, h.fresh, List.nil_append]
  refine ⟨payload, hpayload, hlength, ?_⟩
  rw [fetch, hparse, Option.bind_eq_bind, Option.bind_some, hresolve]
  simp [hconnect, hexchange]

/-- **What comes of a request is what the bytes of the reply give.** -/
lemma result_iff (h : c.Reaches net sink source) (hr : r.key.Fits)
    {result : Except DepthError Book} :
    (c.fetch net r).result = result ↔ Reply source.rest result := by
  obtain ⟨payload, -, -, hfetch⟩ := h.fetch_eq hr
  rw [hfetch]
  exact answer_eq_iff h.replies

end Reaches

end DepthClient

end MarketBoard

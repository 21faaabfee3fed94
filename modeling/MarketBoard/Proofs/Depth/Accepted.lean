import MarketBoard.Proofs.Depth.Exchange

/-!
Which books a client accepts.

* `Book.Honours`: a book is what a request asked for: no side is longer than that, and both begin with
  their best level.
* `Book.length_of_encode`, `Book.exists_encode_iff`: the books that fit a frame.
* `DepthClient.accepted_iff`: a client accepts exactly these, whatever it asked for.
  `DepthClient.accepts_unasked`: so it may accept one that does not honour the request.
-/

namespace MarketBoard

namespace Book

/-- **The book is what was asked for**: no side has more levels than that, and each side runs strictly
from its best level on. -/
def Honours (b : Book) (r : DepthRequest) : Prop :=
  b.bids.length ≤ r.maxLevels.toNat ∧ b.asks.length ≤ r.maxLevels.toNat ∧ b.isOrdered = true

instance (b : Book) (r : DepthRequest) : Decidable (b.Honours r) :=
  inferInstanceAs (Decidable (_ ∧ _ ∧ _))

variable {b : Book}

/-- A book has five bytes besides the sixteen of each level. -/
lemma length_of_encode {w : List UInt8} (h : b.encode = .ok w) :
    w.length = 5 + 16 * (b.bids.length + b.asks.length) := by
  obtain ⟨bids, asks, hbids, hasks, rfl⟩ := encode_eq_ok_iff.mp h
  obtain ⟨-, rfl⟩ := Writer.levels_eq_ok_iff.mp hbids
  obtain ⟨-, rfl⟩ := Writer.levels_eq_ok_iff.mp hasks
  simp only [List.length_cons, List.length_append, BigEndian.length_toBytes,
    Writer.length_flatMap_level]
  omega

/-- **The books that fit a frame** are those of at most 65535 levels altogether. -/
lemma exists_encode_iff :
    (∃ payload, b.encode = .ok payload ∧ payload.length ≤ Frame.maxLength) ↔
      b.bids.length + b.asks.length ≤ 65535 := by
  have hlimit : Frame.maxLength = 1048576 := by decide
  constructor
  · rintro ⟨payload, hpayload, hlength⟩
    rw [length_of_encode hpayload, hlimit] at hlength
    omega
  · intro hlevels
    cases hencode : b.encode with
    | ok payload =>
        refine ⟨payload, rfl, ?_⟩
        rw [length_of_encode hencode, hlimit]
        omega
    | error e =>
        obtain ⟨hlong, -⟩ | ⟨-, hlong, -⟩ := encode_eq_error_iff.mp hencode
        · omega
        · omega

end Book

namespace DepthClient

variable {c : DepthClient} {r : DepthRequest}

/-- Nothing is accepted for a key that cannot be written. -/
lemma Reaches.fits_of_accepted {net : Network} {sink : Sink} {source : Source}
    (h : c.Reaches net sink source) {book : Book} (haccepted : (c.fetch net r).result = .ok book) :
    r.key.Fits := by
  refine Nat.not_lt.mp fun hlong => ?_
  have hencode := DepthRequest.encode_eq_error_iff.mpr ⟨hlong, rfl⟩
  obtain ⟨endpoint, address, hparse, hresolve, hconnect⟩ := h.connects
  rw [fetch, hparse, Option.bind_eq_bind, Option.bind_some, hresolve] at haccepted
  simp [hconnect, exchange, hencode] at haccepted

/-- **A client accepts every book that fits a frame**, whatever it asked for: neither the number of the
levels nor their order is looked at. -/
theorem accepted_iff (c : DepthClient) (r : DepthRequest) (book : Book) :
    (∃ net sink source, c.Reaches net sink source ∧ (c.fetch net r).result = .ok book) ↔
      (Endpoint.parse? c.endpoint).isSome ∧ r.key.Fits ∧
        book.bids.length + book.asks.length ≤ 65535 := by
  constructor
  · rintro ⟨net, sink, source, hreaches, haccepted⟩
    obtain ⟨endpoint, address, hparse, -, -⟩ := hreaches.connects
    have hfits := hreaches.fits_of_accepted haccepted
    refine ⟨by rw [hparse]; rfl, hfits, Book.exists_encode_iff.mp ?_⟩
    cases (hreaches.result_iff hfits).mp haccepted with
    | book framed written => exact ⟨_, written, framed.1⟩
  · rintro ⟨hendpoint, hfits, hlevels⟩
    obtain ⟨endpoint, hparse⟩ := Option.isSome_iff_exists.mp hendpoint
    obtain ⟨payload, hencode, hlength⟩ := Book.exists_encode_iff.mpr hlevels
    -- somebody who takes everything at once and replies with this book
    let sink : Sink := { answer := fun _ _ left => .ok left }
    let source : Source := { rest := Frame.encode payload, grant := fun _ room => room }
    have hreaches : c.Reaches ⟨fun _ => some "", fun _ => .opened sink source false⟩ sink source :=
      ⟨⟨endpoint, "", hparse, rfl, rfl⟩, rfl, ⟨fun _ _ left hleft => ⟨left, hleft, rfl⟩, rfl⟩,
        ⟨fun _ _ hroom => hroom, rfl⟩⟩
    have hframed : Frame.BeginsWith source.rest payload := ⟨hlength, List.prefix_refl _⟩
    exact ⟨_, sink, source, hreaches, (hreaches.result_iff hfits).mpr (.book hframed hencode)⟩

/-- **What is accepted need not honour the request**: one level was asked for, and two bids come, the
worse one first. -/
theorem accepts_unasked :
    let client : DepthClient := ⟨"h:1", .ofMilliseconds 10⟩
    let request : DepthRequest := ⟨⟨"A", 1⟩, 1⟩
    let book : Book := ⟨[⟨1, 1⟩, ⟨2, 1⟩], []⟩
    let sink : Sink := { answer := fun _ _ left => .ok left }
    let source : Source :=
      { rest := [0, 0, 0, 37, 17, 0, 2, 0, 0, 0, 0, 0, 0, 0, 1, 0, 0, 0, 0, 0, 0, 0, 1,
          0, 0, 0, 0, 0, 0, 0, 2, 0, 0, 0, 0, 0, 0, 0, 1, 0, 0]
        grant := fun _ room => room }
    let net : Network := ⟨fun _ => some "h", fun _ => .opened sink source false⟩
    1 ≤ request.maxLevels ∧ client.Reaches net sink source ∧
      (client.fetch net request).result = .ok book ∧ ¬ book.Honours request := by
  intro client request book sink source net
  have hreaches : client.Reaches net sink source :=
    ⟨⟨⟨"h", 1⟩, "h", by decide +kernel, rfl, rfl⟩, rfl,
      ⟨fun _ _ left hleft => ⟨left, hleft, rfl⟩, rfl⟩, ⟨fun _ _ hroom => hroom, rfl⟩⟩
  have hfits : request.key.Fits := by decide +kernel
  have hframed : Frame.BeginsWith source.rest (source.rest.drop 4) := ⟨by decide, by decide⟩
  have hencode : book.encode = .ok (source.rest.drop 4) :=
    Book.encode_eq_ok_iff.mpr ⟨_, _, Writer.levels_eq_ok_iff.mpr ⟨by decide, rfl⟩,
      Writer.levels_eq_ok_iff.mpr ⟨by decide, rfl⟩, by decide⟩
  exact ⟨by decide, hreaches, (hreaches.result_iff hfits).mpr (.book hframed hencode), by decide⟩

end DepthClient

end MarketBoard

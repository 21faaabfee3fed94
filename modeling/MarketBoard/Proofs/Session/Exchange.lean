import MarketBoard.Proofs.Depth.Exchange
import MarketBoard.Proofs.Session.Keys

/-!
Books that are asked for in a session.

* `Session.exchange_of_run`: for every instrument that a session knows, the request goes out whole, and
  the result is what the bytes of the reply give.
-/

namespace MarketBoard.Session

/-- A message that arrived has a key that can be written into a request. -/
lemma fits_of_message? {a : Arrival} {m : Message} (h : a.message? = some m) : m.key.Fits := by
  obtain ⟨bytes, -, hdecode⟩ | ⟨s, -, hdecode⟩ := Arrival.message?_eq_some_iff.mp h
  · exact Key.fits_of_decode hdecode
  · exact Key.fits_of_decode hdecode

/-- **The exchange is right from the feed to the book.**
In every run of a session books are asked for instruments of the store alone, and each of these came
with a message that arrived. Whoever asks for such an instrument on a connection that does not fail
writes one frame, whose payload is read as this request and no other; asking never fails because the
request cannot be written. What comes of it is what the bytes of the reply give: the book with whose
frame they begin, the failure of reading this payload, or the failure of a frame that is cut short or
too long. The last happens exactly if the reply does not begin with a frame. A request of the session
that is running can come to its end in this way, unless the program has ended in a draw: then this frame
stands behind the requests that went out before, and this result behind those that wait to be
delivered. -/
theorem exchange_of_run (c : Canvas) (policy : Recoloring) (steps : List Step) {s : Session}
    (hs : (start (.ofCanvas c policy)).run? steps = some s) :
    (∀ f ∈ s.fetches, (s.board.store.get? f.key).isSome) ∧
      (∀ k, (s.board.store.get? k).isSome →
        (∃ a ∈ arrivals steps, ∃ m, a.message? = some m ∧ m.key = k) ∧
        ∀ (maxLevels : UInt16) (client : DepthClient) (net : Network) (sink : Sink)
          (source : Source), client.Reaches net sink source →
            let outcome := client.fetch net ⟨k, maxLevels⟩
            (∃ payload, outcome.written = Frame.encode payload ∧
              payload.length ≤ Frame.maxLength ∧
              DepthRequest.decode payload = .ok ⟨k, maxLevels⟩) ∧
            (∀ e, outcome.result ≠ .error (.unencodable e)) ∧
            (∀ result, outcome.result = result ↔ DepthClient.Reply source.rest result) ∧
            ((∃ e, outcome.result = .error (.unframed e)) ↔
              ¬ ∃ payload, Frame.BeginsWith source.rest payload)) ∧
      ∀ n f, s.fetches[n]? = some f → f.state = .running → s.board.canvas.stopped = false →
        ∀ (maxLevels : UInt16) (client : DepthClient) (net : Network) (sink : Sink)
          (source : Source), client.Reaches net sink source →
            ∃ s' payload result,
              s.step? (.finish n (client.ask maxLevels net f.key)) = some s' ∧
              s'.requests = s.requests ++ [Frame.encode payload] ∧
              DepthRequest.decode payload = .ok ⟨f.key, maxLevels⟩ ∧
              s'.deliveries = s.deliveries ++ [⟨n, f.key, result⟩] ∧
              ∀ result', result = result' ↔ DepthClient.Reply source.rest result' := by
  have hkeyed := keyed_of_run hs
  have hheard : ∀ k, (s.board.store.get? k).isSome →
      ∃ a ∈ arrivals steps, ∃ m, a.message? = some m ∧ m.key = k := fun k hk => by
    obtain ⟨m, hm, hkey⟩ := hkeyed.board.keys k hk
    obtain ⟨a, ha, hmessage⟩ := List.mem_filterMap.mp hm
    exact ⟨a, ha, m, hmessage, hkey⟩
  have hfits : ∀ k, (s.board.store.get? k).isSome → k.Fits := fun k hk => by
    obtain ⟨a, -, m, hmessage, rfl⟩ := hheard k hk
    exact fits_of_message? hmessage
  refine ⟨hkeyed.fetches, fun k hk => ⟨hheard k hk, fun maxLevels client net sink source hreaches => ?_⟩,
    fun n f hf hrunning hgoes maxLevels client net sink source hreaches => ?_⟩
  · obtain ⟨payload, hencode, hlength, hfetch⟩ := hreaches.fetch_eq (r := ⟨k, maxLevels⟩) (hfits k hk)
    have hresult : ∀ result, (client.fetch net ⟨k, maxLevels⟩).result = result ↔
        DepthClient.Reply source.rest result := fun _ => hreaches.result_iff (hfits k hk)
    refine ⟨⟨payload, by rw [hfetch], hlength, DepthRequest.decode_eq_ok_iff.mpr hencode⟩,
      fun e he => ?_, hresult, ?_⟩
    · cases (hresult _).mp he
    · rw [← Frame.exists_stops_iff]
      constructor
      · rintro ⟨e, he⟩
        obtain ⟨left, hstops⟩ : ∃ left, Frame.Stops source.rest e left := by
          cases (hresult _).mp he with
          | unframed stops => exact ⟨_, stops⟩
        exact ⟨e, left, hstops⟩
      · rintro ⟨e, left, hstops⟩
        exact ⟨e, (hresult _).mpr (.unframed hstops)⟩
  · have hkey : f.key.Fits := hfits _ (hkeyed.fetches f (List.mem_of_getElem? hf))
    obtain ⟨payload, hencode, -, hfetch⟩ := hreaches.fetch_eq (r := ⟨f.key, maxLevels⟩) hkey
    have hresult : ∀ result, (client.ask maxLevels net f.key).result = result ↔
        DepthClient.Reply source.rest result := fun _ => hreaches.result_iff hkey
    have hwritten : (client.ask maxLevels net f.key).written = Frame.encode payload := by
      rw [DepthClient.ask, hfetch]
    refine ⟨_, payload, _, step?_eq_some_iff.mpr ⟨hgoes, _, .finish hf hrunning, rfl⟩, ?_,
      DepthRequest.decode_eq_ok_iff.mpr hencode, rfl, hresult⟩
    have hnonempty : (Frame.encode payload).isEmpty = false := rfl
    simp [collect, hwritten, hnonempty]

/-- A trade makes an instrument known. Asking for its book on a connection that moves a few bytes at a
time, and whose reply goes on behind the frame of a book, gives this book; so does the request that the
session starts when the box is opened. -/
theorem exchange_of_run_trade :
    let key : Key := ⟨"A", 1⟩
    let trade : Arrival :=
      .binary [2, 0, 1, 65, 0, 0, 0, 1, 0, 0, 0, 0, 0, 0, 0, 1, 0, 0, 0, 0, 0, 0, 0, 2]
    let steps : List Step :=
      [.arrive trade, .takeMessage, .press (.key { code := .char 'b' }), .takeKey]
    let first := start (.ofCanvas (.ofTerminal (.ofDevice (.blank 20 5)) 3) .trades)
    let client : DepthClient := ⟨"h:1", .ofMilliseconds 10⟩
    let sink : Sink := { answer := fun _ _ _ => .ok 2 }
    let source : Source :=
      { rest := [0, 0, 0, 21, 17, 0, 1, 0, 0, 0, 0, 0, 0, 0, 5, 0, 0, 0, 0, 0, 0, 0, 7, 0, 0, 99]
        grant := fun _ _ => 3 }
    let net : Network := ⟨fun _ => some "h", fun _ => .opened sink source false⟩
    let request : DepthRequest := ⟨key, 10⟩
    ∃ s, first.run? steps = some s ∧
      (s.board.store.get? key).isSome ∧ client.Reaches net sink source ∧
      (∃ payload, (client.fetch net request).written = Frame.encode payload ∧
        DepthRequest.decode payload = .ok request) ∧
      (client.fetch net request).result = .ok ⟨[⟨5, 7⟩], []⟩ ∧
      s.fetches[0]? = some ⟨key, .running⟩ ∧ s.board.canvas.stopped = false ∧
      ∃ s', s.step? (.finish 0 (client.ask 10 net key)) = some s' ∧
        s'.deliveries = s.deliveries ++ [⟨0, key, .ok ⟨[⟨5, 7⟩], []⟩⟩] := by
  intro key trade steps first client sink source net request
  obtain ⟨s, hs⟩ : ∃ s, first.run? steps = some s :=
    Option.isSome_iff_exists.mp (by decide +kernel)
  have hend : ((first.run? steps).any fun s => (s.board.store.get? key).isSome &&
      s.fetches[0]? = some ⟨key, .running⟩ && !s.board.canvas.stopped) = true := by decide +kernel
  simp only [hs, Option.any_some, Bool.and_eq_true, decide_eq_true_eq, Bool.not_eq_true'] at hend
  obtain ⟨⟨hknown, hfetch⟩, hgoes⟩ := hend
  have hreaches : client.Reaches net sink source :=
    ⟨⟨⟨"h", 1⟩, "h", by decide +kernel, rfl, rfl⟩, rfl, ⟨fun _ _ _ _ => ⟨2, by decide, rfl⟩, rfl⟩,
      ⟨fun _ _ _ => (by decide : 0 < 3), rfl⟩⟩
  obtain ⟨-, hall, hfinish⟩ := exchange_of_run (.ofTerminal (.ofDevice (.blank 20 5)) 3) .trades _ hs
  obtain ⟨⟨payload, hwritten, -, hread⟩, -, hresult, -⟩ :=
    (hall key hknown).2 10 client net sink source hreaches
  have hframed : Frame.BeginsWith source.rest
      [17, 0, 1, 0, 0, 0, 0, 0, 0, 0, 5, 0, 0, 0, 0, 0, 0, 0, 7, 0, 0] :=
    ⟨by decide, [99], by decide⟩
  have hreply : DepthClient.Reply source.rest (.ok ⟨[⟨5, 7⟩], []⟩) := .book hframed (by decide)
  obtain ⟨s', _, result, hstep, -, -, hdeliveries, hdelivered⟩ :=
    hfinish 0 _ hfetch rfl hgoes 10 client net sink source hreaches
  obtain rfl := (hdelivered _).mpr hreply
  exact ⟨s, hs, hknown, hreaches, ⟨payload, hwritten, hread⟩, (hresult _).mpr hreply, hfetch, hgoes, s',
    hstep, hdeliveries⟩

end MarketBoard.Session

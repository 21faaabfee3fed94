import MarketBoard.Proofs.Wire.Reading

/-!
The payloads of both channels have one form each.

* `Message.encode_quote_eq_ok_iff`, `Message.encode_trade_eq_ok_iff`, `DepthRequest.encode_eq_ok_iff`,
  `Book.encode_eq_ok_iff`: the bytes of a payload, part by part.
* `Reader.takes_message`, `Reader.takes_depthRequest`, `Reader.takes_book`: a reader takes exactly
  these bytes off the front, whatever stands behind them.
* `Message.decode_iff_encode`: reading accepts what writing produces and nothing else, for messages.
* `depth_decode_iff_encode`: the same for the payloads of the depth channel, which are told apart from
  each other and from messages by their first byte.
-/

namespace MarketBoard

/-! ### Failures of writing -/

section Failures

variable {α β : Type} {x : Except EncodeError α} {f : α → β}

/-- What is put together from parts is written if they are. -/
lemma bind_pure_eq_ok_iff {b : β} : (do let a ← x; pure (f a)) = .ok b ↔ ∃ a, x = .ok a ∧ f a = b := by
  cases x <;> simp [bind, Except.bind, pure, Except.pure]

/-- What is put together from parts fails as they do. -/
lemma bind_pure_eq_error_iff {e : EncodeError} :
    (do let a ← x; pure (f a)) = .error e ↔ x = .error e := by
  cases x <;> simp [bind, Except.bind, pure, Except.pure]

end Failures

/-! ### Messages -/

namespace Message

lemma encode_quote_eq_ok_iff {q : Quote} {w : List UInt8} :
    (quote q).encode = .ok w ↔ ∃ key, Writer.key q.key = .ok key ∧
      w = quoteTag :: (key ++ (Writer.word64 q.bid ++ (Writer.word64 q.ask ++
        (Writer.word64 q.bidSize ++ Writer.word64 q.askSize)))) := by
  rw [encode, bind_pure_eq_ok_iff]
  simp only [List.cons_append, List.append_assoc, eq_comm]

lemma encode_trade_eq_ok_iff {t : Trade} {w : List UInt8} :
    (trade t).encode = .ok w ↔ ∃ key, Writer.key t.key = .ok key ∧
      w = tradeTag :: (key ++ (Writer.word64 t.price ++ Writer.word64 t.size)) := by
  rw [encode, bind_pure_eq_ok_iff]
  simp only [List.cons_append, List.append_assoc, eq_comm]

/-- Only the symbol of a message can fail to be written. -/
lemma encode_eq_error_iff {m : Message} {e : EncodeError} :
    m.encode = .error e ↔ 65535 < m.key.symbol.utf8ByteSize ∧
      e = .textTooLong .key m.key.symbol.utf8ByteSize := by
  rw [← Writer.text_eq_error_iff, ← Writer.key_eq_error_iff]
  cases m with
  | quote q => exact bind_pure_eq_error_iff
  | trade t => exact bind_pure_eq_error_iff

/-- A message begins with the tag of a quote or of a trade. -/
lemma tag_of_encode {m : Message} {w : List UInt8} (h : m.encode = .ok w) :
    ∃ tag ∈ [quoteTag, tradeTag], w.head? = some tag := by
  cases m with
  | quote q =>
      obtain ⟨key, -, rfl⟩ := encode_quote_eq_ok_iff.mp h
      exact ⟨quoteTag, by simp, rfl⟩
  | trade t =>
      obtain ⟨key, -, rfl⟩ := encode_trade_eq_ok_iff.mp h
      exact ⟨tradeTag, by simp, rfl⟩

end Message

/-! ### Requests and books -/

namespace DepthRequest

lemma encode_eq_ok_iff {r : DepthRequest} {w : List UInt8} :
    r.encode = .ok w ↔ ∃ key, Writer.key r.key = .ok key ∧
      w = requestTag :: (key ++ Writer.word16 r.maxLevels) := by
  rw [encode, bind_pure_eq_ok_iff]
  simp only [List.cons_append, eq_comm]

/-- Only the symbol of a request can fail to be written. -/
lemma encode_eq_error_iff {r : DepthRequest} {e : EncodeError} :
    r.encode = .error e ↔ 65535 < r.key.symbol.utf8ByteSize ∧
      e = .textTooLong .key r.key.symbol.utf8ByteSize := by
  rw [← Writer.text_eq_error_iff, ← Writer.key_eq_error_iff]
  exact bind_pure_eq_error_iff

/-- A request begins with its tag. -/
lemma tag_of_encode {r : DepthRequest} {w : List UInt8} (h : r.encode = .ok w) :
    ∃ tag ∈ [requestTag], w.head? = some tag := by
  obtain ⟨key, -, rfl⟩ := encode_eq_ok_iff.mp h
  exact ⟨requestTag, by simp, rfl⟩

end DepthRequest

namespace Book

lemma encode_eq_ok_iff {b : Book} {w : List UInt8} :
    b.encode = .ok w ↔ ∃ bids asks, Writer.levels .bids b.bids = .ok bids ∧
      Writer.levels .asks b.asks = .ok asks ∧ w = bookTag :: (bids ++ asks) := by
  rw [encode]
  cases Writer.levels .bids b.bids with
  | error e => simp [bind, Except.bind]
  | ok bids =>
      refine bind_pure_eq_ok_iff.trans ?_
      simp [eq_comm]

/-- A book fails to be written if a side has too many levels, and the bids are looked at first. -/
lemma encode_eq_error_iff {b : Book} {e : EncodeError} :
    b.encode = .error e ↔
      65535 < b.bids.length ∧ e = .tooManyLevels .bids b.bids.length ∨
        b.bids.length ≤ 65535 ∧ 65535 < b.asks.length ∧
          e = .tooManyLevels .asks b.asks.length := by
  rw [encode, ← Writer.levels_eq_error_iff, ← Writer.levels_eq_error_iff]
  cases hbids : Writer.levels .bids b.bids with
  | error e' =>
      obtain ⟨hlong, -⟩ := Writer.levels_eq_error_iff.mp hbids
      simp [bind, Except.bind, Nat.not_le.mpr hlong]
  | ok bids =>
      obtain ⟨hshort, -⟩ := Writer.levels_eq_ok_iff.mp hbids
      refine bind_pure_eq_error_iff.trans ?_
      simp [hshort]

/-- A book begins with its tag. -/
lemma tag_of_encode {b : Book} {w : List UInt8} (h : b.encode = .ok w) :
    ∃ tag ∈ [bookTag], w.head? = some tag := by
  obtain ⟨bids, asks, -, -, rfl⟩ := encode_eq_ok_iff.mp h
  exact ⟨bookTag, by simp, rfl⟩

end Book

/-! ### Readers -/

namespace Reader

variable {bytes rest : List UInt8}

/-- Behind its tag, a quote is read as it is written. -/
lemma takes_quote {q : Quote} :
    quote.Takes bytes q rest ↔
      ∃ w, (Message.quote q).encode = .ok w ∧ quoteTag :: bytes = w ++ rest := by
  rw [quote]
  simp only [takes_bind, takes_key, takes_word64, takes_pure, Message.encode_quote_eq_ok_iff]
  constructor
  · rintro ⟨k, _, ⟨key, hkey, rfl⟩, bid, _, rfl, ask, _, rfl, bidSize, _, rfl, askSize, _, rfl, rfl,
      rfl⟩
    exact ⟨_, ⟨key, hkey, rfl⟩, by simp⟩
  · rintro ⟨_, ⟨key, hkey, rfl⟩, hbytes⟩
    obtain ⟨-, rfl⟩ := List.cons.inj hbytes
    refine ⟨q.key, _, ⟨key, hkey, List.append_assoc _ _ _⟩, q.bid, _, List.append_assoc _ _ _,
      q.ask, _, List.append_assoc _ _ _, q.bidSize, _, List.append_assoc _ _ _, q.askSize, _, rfl,
      rfl, rfl⟩

/-- Behind its tag, a trade is read as it is written. -/
lemma takes_trade {t : Trade} :
    trade.Takes bytes t rest ↔
      ∃ w, (Message.trade t).encode = .ok w ∧ tradeTag :: bytes = w ++ rest := by
  rw [trade]
  simp only [takes_bind, takes_key, takes_word64, takes_pure, Message.encode_trade_eq_ok_iff]
  constructor
  · rintro ⟨k, _, ⟨key, hkey, rfl⟩, price, _, rfl, size, _, rfl, rfl, rfl⟩
    exact ⟨_, ⟨key, hkey, rfl⟩, by simp⟩
  · rintro ⟨_, ⟨key, hkey, rfl⟩, hbytes⟩
    obtain ⟨-, rfl⟩ := List.cons.inj hbytes
    exact ⟨t.key, _, ⟨key, hkey, List.append_assoc _ _ _⟩, t.price, _, List.append_assoc _ _ _,
      t.size, _, rfl, rfl, rfl⟩

/-- **A message is read exactly as it is written**, whatever stands behind it. -/
lemma takes_message {m : Message} :
    message.Takes bytes m rest ↔ ∃ w, m.encode = .ok w ∧ bytes = w ++ rest := by
  rw [message, takes_bind]
  simp only [takes_word8]
  constructor
  · rintro ⟨tag, mid, rfl, h⟩
    split at h
    · next htag =>
      obtain ⟨q, hq, rfl⟩ := takes_map.mp h
      rw [htag]
      exact takes_quote.mp hq
    · split at h
      · next htag =>
        obtain ⟨t, ht, rfl⟩ := takes_map.mp h
        rw [htag]
        exact takes_trade.mp ht
      · exact absurd h not_takes_throw
  · rintro ⟨w, hw, rfl⟩
    cases m with
    | quote q =>
        obtain ⟨key, -, hform⟩ := Message.encode_quote_eq_ok_iff.mp hw
        refine ⟨quoteTag, _, by rw [hform, List.cons_append], ?_⟩
        rw [if_pos rfl]
        exact takes_map.mpr ⟨q, takes_quote.mpr ⟨w, hw, by rw [hform, List.cons_append]⟩, rfl⟩
    | trade t =>
        obtain ⟨key, -, hform⟩ := Message.encode_trade_eq_ok_iff.mp hw
        refine ⟨tradeTag, _, by rw [hform, List.cons_append], ?_⟩
        rw [if_neg (by decide), if_pos rfl]
        exact takes_map.mpr ⟨t, takes_trade.mpr ⟨w, hw, by rw [hform, List.cons_append]⟩, rfl⟩

/-- **A request is read exactly as it is written**, whatever stands behind it. -/
lemma takes_depthRequest {r : DepthRequest} :
    depthRequest.Takes bytes r rest ↔ ∃ w, r.encode = .ok w ∧ bytes = w ++ rest := by
  rw [depthRequest]
  simp only [takes_bind, takes_expect, takes_key, takes_word16, takes_pure,
    DepthRequest.encode_eq_ok_iff]
  constructor
  · rintro ⟨-, _, rfl, k, _, ⟨key, hkey, rfl⟩, maxLevels, _, rfl, rfl, rfl⟩
    exact ⟨_, ⟨key, hkey, rfl⟩, by simp⟩
  · rintro ⟨_, ⟨key, hkey, rfl⟩, rfl⟩
    exact ⟨(), _, List.cons_append, r.key, _, ⟨key, hkey, List.append_assoc _ _ _⟩, r.maxLevels, _,
      rfl, rfl, rfl⟩

/-- **A book is read exactly as it is written**, whatever stands behind it. -/
lemma takes_book {b : Book} :
    book.Takes bytes b rest ↔ ∃ w, b.encode = .ok w ∧ bytes = w ++ rest := by
  rw [book]
  simp only [takes_bind, takes_expect, takes_levels, takes_pure, Book.encode_eq_ok_iff]
  constructor
  · rintro ⟨-, _, rfl, _, _, ⟨bids, hbids, rfl⟩, _, _, ⟨asks, hasks, rfl⟩, rfl, rfl⟩
    exact ⟨_, ⟨bids, asks, hbids, hasks, rfl⟩, by simp⟩
  · rintro ⟨_, ⟨bids, asks, hbids, hasks, rfl⟩, rfl⟩
    exact ⟨(), _, List.cons_append, b.bids, _, ⟨bids, hbids, List.append_assoc _ _ _⟩, b.asks, _,
      ⟨asks, hasks, rfl⟩, rfl, rfl⟩

/-- A reader that takes what is written reads whole payloads exactly as they are written. -/
lemma payload_eq_ok_iff_of_takes {α : Type} {reader : Reader α} {a : α} {tags : List UInt8}
    {written : Except EncodeError (List UInt8)}
    (htag : ∀ w, written = .ok w → ∃ tag ∈ tags, w.head? = some tag)
    (htakes : ∀ rest, reader.Takes bytes a rest ↔ ∃ w, written = .ok w ∧ bytes = w ++ rest) :
    reader.payload bytes = .ok a ↔ written = .ok bytes := by
  rw [payload_eq_ok_iff, htakes]
  constructor
  · rintro ⟨-, w, hw, rfl⟩
    rwa [List.append_nil]
  · intro hw
    refine ⟨?_, bytes, hw, (List.append_nil _).symm⟩
    rintro rfl
    obtain ⟨tag, -, hhead⟩ := htag [] hw
    exact absurd hhead (by simp)

end Reader

/-! ### Whole payloads -/

namespace Message

lemma decode_eq_ok_iff {bytes : List UInt8} {m : Message} :
    decode bytes = .ok m ↔ m.encode = .ok bytes :=
  Reader.payload_eq_ok_iff_of_takes (fun _ => tag_of_encode) fun _ => Reader.takes_message

/-- **Messages have one form each**: bytes are read as a message exactly if the message is written as
these bytes. A message fails to be written exactly if its symbol has more than 65535 bytes, and the
failure names this length. -/
theorem decode_iff_encode :
    (∀ (bytes : List UInt8) (m : Message), decode bytes = .ok m ↔ m.encode = .ok bytes) ∧
      ∀ (m : Message) (e : EncodeError), m.encode = .error e ↔
        65535 < m.key.symbol.utf8ByteSize ∧ e = .textTooLong .key m.key.symbol.utf8ByteSize :=
  ⟨fun _ _ => decode_eq_ok_iff, fun _ _ => encode_eq_error_iff⟩

end Message

namespace DepthRequest

lemma decode_eq_ok_iff {bytes : List UInt8} {r : DepthRequest} :
    decode bytes = .ok r ↔ r.encode = .ok bytes :=
  Reader.payload_eq_ok_iff_of_takes (fun _ => tag_of_encode) fun _ => Reader.takes_depthRequest

end DepthRequest

namespace Book

lemma decode_eq_ok_iff {bytes : List UInt8} {b : Book} :
    decode bytes = .ok b ↔ b.encode = .ok bytes :=
  Reader.payload_eq_ok_iff_of_takes (fun _ => tag_of_encode) fun _ => Reader.takes_book

end Book

/-! ### Kinds of payloads -/

/-- Readers of payloads with different tags never read the same bytes. -/
lemma isOk_and_isOk_eq_false {α β : Type} {x : Except DecodeError α} {y : Except DecodeError β}
    {bytes tags tags' : List UInt8} (hx : ∀ a, x = .ok a → ∃ tag ∈ tags, bytes.head? = some tag)
    (hy : ∀ b, y = .ok b → ∃ tag ∈ tags', bytes.head? = some tag)
    (hdisjoint : ∀ tag ∈ tags, tag ∉ tags') : (x.isOk && y.isOk) = false := by
  cases x with
  | error e => rfl
  | ok a =>
      cases y with
      | error e => rfl
      | ok b =>
          obtain ⟨tag, htag, hhead⟩ := hx a rfl
          obtain ⟨tag', htag', hhead'⟩ := hy b rfl
          obtain rfl := Option.some.inj (hhead.symm.trans hhead')
          exact absurd htag' (hdisjoint tag htag)

/-- **Requests and books have one form each**: bytes are read as a request or as a book exactly if it
is written as these bytes. A request fails to be written exactly if its symbol has more than 65535
bytes, a book exactly if a side has more than 65535 levels; the bids are named if there are too many
of them, and else the asks. No bytes are read as payloads of two kinds. -/
theorem depth_decode_iff_encode :
    (∀ (bytes : List UInt8) (r : DepthRequest),
        DepthRequest.decode bytes = .ok r ↔ r.encode = .ok bytes) ∧
      (∀ (bytes : List UInt8) (b : Book), Book.decode bytes = .ok b ↔ b.encode = .ok bytes) ∧
      (∀ (r : DepthRequest) (e : EncodeError), r.encode = .error e ↔
        65535 < r.key.symbol.utf8ByteSize ∧ e = .textTooLong .key r.key.symbol.utf8ByteSize) ∧
      (∀ (b : Book) (e : EncodeError), b.encode = .error e ↔
        65535 < b.bids.length ∧ e = .tooManyLevels .bids b.bids.length ∨
          b.bids.length ≤ 65535 ∧ 65535 < b.asks.length ∧
            e = .tooManyLevels .asks b.asks.length) ∧
      ∀ bytes : List UInt8,
        ((DepthRequest.decode bytes).isOk && (Book.decode bytes).isOk) = false ∧
          ((DepthRequest.decode bytes).isOk && (Message.decode bytes).isOk) = false ∧
          ((Book.decode bytes).isOk && (Message.decode bytes).isOk) = false := by
  refine ⟨fun _ _ => DepthRequest.decode_eq_ok_iff, fun _ _ => Book.decode_eq_ok_iff,
    fun _ _ => DepthRequest.encode_eq_error_iff, fun _ _ => Book.encode_eq_error_iff,
    fun bytes => ?_⟩
  have hrequest : ∀ r, DepthRequest.decode bytes = .ok r →
      ∃ tag ∈ [requestTag], bytes.head? = some tag :=
    fun r hr => DepthRequest.tag_of_encode (DepthRequest.decode_eq_ok_iff.mp hr)
  have hbook : ∀ b, Book.decode bytes = .ok b → ∃ tag ∈ [bookTag], bytes.head? = some tag :=
    fun b hb => Book.tag_of_encode (Book.decode_eq_ok_iff.mp hb)
  have hmessage : ∀ m, Message.decode bytes = .ok m →
      ∃ tag ∈ [quoteTag, tradeTag], bytes.head? = some tag :=
    fun m hm => Message.tag_of_encode (Message.decode_eq_ok_iff.mp hm)
  exact ⟨isOk_and_isOk_eq_false hrequest hbook (by simp [requestTag, bookTag]),
    isOk_and_isOk_eq_false hrequest hmessage (by simp [requestTag, quoteTag, tradeTag]),
    isOk_and_isOk_eq_false hbook hmessage (by simp [bookTag, quoteTag, tradeTag])⟩

end MarketBoard

import MarketBoard.Wire.Reader
import MarketBoard.Wire.Writer

/-!
The payloads of both channels. Each begins with a tag that tells its kind.

* `Message.encode`, `Message.decode`: messages of the feed.
* `DepthRequest.encode`, `DepthRequest.decode`: requests of the depth channel.
* `Book.encode`, `Book.decode`: its answers.
-/

namespace MarketBoard

/-- The tag of a quote. -/
def quoteTag : UInt8 := 0x01

/-- The tag of a trade. -/
def tradeTag : UInt8 := 0x02

/-- The tag of a request for depth. -/
def requestTag : UInt8 := 0x10

/-- The tag of a book. -/
def bookTag : UInt8 := 0x11

namespace Reader

/-- The rest of a quote. -/
def quote : Reader Quote := do
  let key ← key
  let bid ← word64 .bidPrice
  let ask ← word64 .askPrice
  let bidSize ← word64 .bidSize
  let askSize ← word64 .askSize
  pure ⟨key, bid, ask, bidSize, askSize⟩

/-- The rest of a trade. -/
def trade : Reader Trade := do
  let key ← key
  let price ← word64 .lastPrice
  let size ← word64 .lastSize
  pure ⟨key, price, size⟩

/-- A message of the feed, chosen by its tag. -/
def message : Reader Message := do
  let tag ← word8 .tag
  if tag = quoteTag then Message.quote <$> quote
  else if tag = tradeTag then Message.trade <$> trade
  else throw (.unknownTag tag)

/-- The tag of the one kind of payload that may stand here. -/
def expect (tag : UInt8) : Reader Unit := do
  let got ← word8 .tag
  if got = tag then pure () else throw (.unexpectedTag tag got)

/-- A request for depth. -/
def depthRequest : Reader DepthRequest := do
  expect requestTag
  let key ← key
  let maxLevels ← word16 .maxLevels
  pure ⟨key, maxLevels⟩

/-- A book. -/
def book : Reader Book := do
  expect bookTag
  let bids ← levels .bids
  let asks ← levels .asks
  pure ⟨bids, asks⟩

/-- Reads a whole payload of at least one byte. -/
def payload {α : Type} (reader : Reader α) (bytes : List UInt8) : Except DecodeError α :=
  if bytes.isEmpty then throw .empty else reader.run bytes

end Reader

/-- The message that the bytes of one feed frame hold. -/
def Message.decode (bytes : List UInt8) : Except DecodeError Message :=
  Reader.message.payload bytes

/-- The bytes of a message. -/
def Message.encode : Message → Except EncodeError (List UInt8)
  | quote q => do
    let key ← Writer.key q.key
    pure (quoteTag :: key ++ Writer.word64 q.bid ++ Writer.word64 q.ask ++
      Writer.word64 q.bidSize ++ Writer.word64 q.askSize)
  | trade t => do
    let key ← Writer.key t.key
    pure (tradeTag :: key ++ Writer.word64 t.price ++ Writer.word64 t.size)

/-- The request that a payload holds. -/
def DepthRequest.decode (bytes : List UInt8) : Except DecodeError DepthRequest :=
  Reader.depthRequest.payload bytes

/-- The bytes of a request. -/
def DepthRequest.encode (r : DepthRequest) : Except EncodeError (List UInt8) := do
  let key ← Writer.key r.key
  pure (requestTag :: key ++ Writer.word16 r.maxLevels)

/-- The book that a payload holds. -/
def Book.decode (bytes : List UInt8) : Except DecodeError Book :=
  Reader.book.payload bytes

/-- The bytes of a book. -/
def Book.encode (b : Book) : Except EncodeError (List UInt8) := do
  let bids ← Writer.levels .bids b.bids
  let asks ← Writer.levels .asks b.asks
  pure (bookTag :: bids ++ asks)

end MarketBoard

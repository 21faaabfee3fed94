import MarketBoard.Instrument.Key

/-!
What travels on the two channels: quotes and trades on the feed, requests for depth and books on the
depth channel. Prices and quantities are wire integers.

* `Message`: a quote or a trade, each of one instrument.
* `DepthRequest`, `Book`: the two payloads of the depth channel.
* `Book.isOrdered`: each side runs strictly from its best level on.
-/

namespace MarketBoard

/-- Best bid and best ask of an instrument. -/
structure Quote where
  key : Key
  bid : UInt64
  ask : UInt64
  bidSize : UInt64
  askSize : UInt64
deriving DecidableEq, Repr

/-- One executed trade. -/
structure Trade where
  key : Key
  price : UInt64
  size : UInt64
deriving DecidableEq, Repr

/-- One message of the feed. -/
inductive Message where
  | quote (q : Quote)
  | trade (t : Trade)
deriving DecidableEq, Repr

/-- The instrument that a message is about. -/
def Message.key : Message → Key
  | quote q => q.key
  | trade t => t.key

/-! ### Depth -/

/-- Asks for the best levels of one instrument's book. -/
structure DepthRequest where
  key : Key
  maxLevels : UInt16
deriving DecidableEq, Repr

/-- A price with the quantity that rests at it. -/
structure Level where
  price : UInt64
  quantity : UInt64
deriving DecidableEq, Repr, Inhabited

/-- The two sides of a book. -/
inductive Side where
  | bid
  | ask
deriving DecidableEq, Repr

/-- The levels of an instrument at one moment, each side in the order in which it was sent. -/
structure Book where
  bids : List Level := []
  asks : List Level := []
deriving DecidableEq, Repr, Inhabited

namespace Book

/-- The levels of one side. -/
def side (b : Book) : Side → List Level
  | .bid => b.bids
  | .ask => b.asks

/-- Every two neighbours stand in the given relation. -/
def neighbours (rel : UInt64 → UInt64 → Bool) (levels : List Level) : Bool :=
  (levels.zip levels.tail).all fun pair => rel pair.1.price pair.2.price

/-- Bids fall and asks rise strictly. -/
def isOrdered (b : Book) : Bool :=
  neighbours (fun p q => p > q) b.bids && neighbours (fun p q => p < q) b.asks

end Book

end MarketBoard

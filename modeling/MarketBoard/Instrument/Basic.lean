import MarketBoard.Decimal.Basic
import MarketBoard.Message

/-!
The state of one instrument and what a message does to it.

* `Trend`: the direction of the last trade against the one before.
* `Recoloring`: which messages settle the trend.
* `Instrument`: market data, counters and the mark of one instrument, with the row at which it stands.
* `Instrument.after`: the instrument after one more message of its own.
-/

namespace MarketBoard

/-- The direction of the last trade. -/
inductive Trend where
  | up | down | neutral
deriving DecidableEq, Repr, Inhabited

/-- The direction from one price to the next. -/
def Trend.between (previous last : Decimal) : Trend :=
  match last.compare previous with
  | .lt => .down
  | .gt => .up
  | .eq => .neutral

/-- Which messages settle the trend. -/
inductive Recoloring where
  /-- Trades alone. -/
  | trades
  /-- Quotes as well: a quote settles the trend of the last two trades and forgets the earlier one. -/
  | quotesAndTrades
deriving DecidableEq, Repr, Inhabited

/-- The first row of the table; the row above it is the header's. -/
def firstRow : Nat := 1

/-- The state of one instrument. -/
structure Instrument where
  key : Key
  /-- The label of the key, kept for display. -/
  label : String
  row : Nat
  bid : Decimal := .zero
  ask : Decimal := .zero
  bidSize : Decimal := .zero
  askSize : Decimal := .zero
  last : Decimal := .zero
  /-- The price before the last one. -/
  previous : Decimal := .zero
  /-- The size of the last trade. -/
  lastSize : Decimal := .zero
  /-- The sizes of all trades together. -/
  total : Decimal := .zero
  /-- The number of messages. Counters of 64 bits hold it below `2 ^ 64`; here it has no bound. -/
  updates : Nat := 0
  marked : Bool := false
  trend : Trend := .neutral
deriving DecidableEq, Repr, Inhabited

namespace Instrument

/-- An instrument of which nothing is known yet. -/
def fresh (key : Key) (row : Nat) : Instrument := { key, label := key.label, row }

/-- Ask less bid. -/
def spread (i : Instrument) : Decimal := i.ask.sub i.bid

/-- The bid is above the ask. -/
def isCrossed (i : Instrument) : Bool := i.bid.compare i.ask == .gt

/-- The trend settled by the last two prices, which then count as one. -/
def settled (i : Instrument) : Instrument :=
  { i with
    trend :=
      if i.last.compare i.previous == .eq then i.trend else Trend.between i.previous i.last
    previous := i.last }

/-- The instrument after a quote. -/
def afterQuote (i : Instrument) (policy : Recoloring) (q : Quote) : Instrument :=
  let i := match policy with
    | .trades => i
    | .quotesAndTrades => i.settled
  { i with
    bid := .ofUnits q.bid
    ask := .ofUnits q.ask
    bidSize := .ofUnits q.bidSize
    askSize := .ofUnits q.askSize
    updates := i.updates + 1 }

/-- The instrument after a trade. -/
def afterTrade (i : Instrument) (t : Trade) : Instrument :=
  { i with
    previous := i.last
    last := .ofUnits t.price
    trend := Trend.between i.last (.ofUnits t.price)
    lastSize := .ofUnits t.size
    total := i.total.add (.ofUnits t.size)
    updates := i.updates + 1 }

/-- The instrument after a message. -/
def after (i : Instrument) (policy : Recoloring) : Message → Instrument
  | .quote q => i.afterQuote policy q
  | .trade t => i.afterTrade t

/-! ### What a message leaves alone -/

/-- A message does not change whose instrument it is. -/
@[simp] theorem key_after (i : Instrument) (policy : Recoloring) (m : Message) :
    (i.after policy m).key = i.key := by
  cases m <;> cases policy <;> rfl

/-- A message does not change the label. -/
@[simp] theorem label_after (i : Instrument) (policy : Recoloring) (m : Message) :
    (i.after policy m).label = i.label := by
  cases m <;> cases policy <;> rfl

/-- A message does not move the instrument. -/
@[simp] theorem row_after (i : Instrument) (policy : Recoloring) (m : Message) :
    (i.after policy m).row = i.row := by
  cases m <;> cases policy <;> rfl

/-- A message does not change the mark. -/
@[simp] theorem marked_after (i : Instrument) (policy : Recoloring) (m : Message) :
    (i.after policy m).marked = i.marked := by
  cases m <;> cases policy <;> rfl

end Instrument

end MarketBoard

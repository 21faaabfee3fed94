import MarketBoard.Instrument.Basic
import Mathlib.Algebra.GroupWithZero.Nat
import Mathlib.Tactic.Lemma

/-!
The market data of an instrument, read off its history: the messages about it, oldest first.

* `Market`: what an instrument shows of the market, apart from its key, its row and its mark.
* `Market.ofHistory`: this data as the history alone determines it, each entry by a rule of its own.
* `Decimal.add_units`: sizes in wire units are summed exactly.
* `Instrument.market_after`: one more message takes the data of a history to the data of the longer
  one, under both policies.
-/

namespace MarketBoard

/-! ### Histories -/

namespace Message

/-- The quote that a message carries. -/
def quote? : Message → Option Quote
  | quote q => some q
  | trade _ => none

/-- The trade that a message carries. -/
def trade? : Message → Option Trade
  | quote _ => none
  | trade t => some t

end Message

/-- The quotes of a history. -/
def quotesOf (history : List Message) : List Quote := history.filterMap Message.quote?

/-- The trades of a history. -/
def tradesOf (history : List Message) : List Trade := history.filterMap Message.trade?

/-- The last message is a quote, so that a quote follows the last trade if there is one. -/
def endsWithQuote (history : List Message) : Bool := history.getLast?.any fun m => m.quote?.isSome

/-- The value of one entry in the last element of a list; zero if there is none. -/
def lastUnits {α : Type} (entry : α → UInt64) (l : List α) : Decimal :=
  (l.getLast?.map fun a => .ofUnits (entry a)).getD .zero

/-- The sizes of trades together. The mantissa is the sum itself, so it needs 96 bits as long as the
sum in wire units stays below `2 ^ 96`. -/
def totalSize (trades : List Trade) : Decimal :=
  if trades = [] then .zero
  else ⟨false, (trades.map fun t => t.size.toNat).sum, Decimal.unitPlaces⟩

@[simp] lemma quotesOf_concat (history : List Message) (m : Message) :
    quotesOf (history ++ [m]) = quotesOf history ++ m.quote?.toList := by
  rw [quotesOf, List.filterMap_append, quotesOf]
  cases m <;> rfl

@[simp] lemma tradesOf_concat (history : List Message) (m : Message) :
    tradesOf (history ++ [m]) = tradesOf history ++ m.trade?.toList := by
  rw [tradesOf, List.filterMap_append, tradesOf]
  cases m <;> rfl

@[simp] lemma endsWithQuote_concat (history : List Message) (m : Message) :
    endsWithQuote (history ++ [m]) = m.quote?.isSome := by
  rw [endsWithQuote, List.getLast?_concat, Option.any_some]

@[simp] lemma lastUnits_concat {α : Type} (entry : α → UInt64) (l : List α) (a : α) :
    lastUnits entry (l ++ [a]) = .ofUnits (entry a) := by
  rw [lastUnits, List.getLast?_concat, Option.map_some, Option.getD_some]

/-! ### Exact sums -/

namespace Decimal

/-- **Wire units are summed exactly**, zeros included. -/
lemma add_units (m n : Nat) :
    add ⟨false, m, unitPlaces⟩ ⟨false, n, unitPlaces⟩ = ⟨false, m + n, unitPlaces⟩ := by
  have hsum : ¬ (m : Int) + n < 0 := by omega
  have habs : ((m : Int) + n).natAbs = m + n := by omega
  rw [add]
  split
  · next hm =>
    obtain rfl : m = 0 := eq_of_beq hm
    rw [Nat.zero_add]
  · split
    · next hn =>
      obtain rfl : n = 0 := eq_of_beq hn
      rfl
    · simp [ofSigned, signedAt, signed, hsum, habs]

/-- Every number compares as equal with itself. -/
lemma compare_self (d : Decimal) : d.compare d = .eq := by
  rw [compare, Std.ReflOrd.compare_self]

end Decimal

/-- One more trade adds its size to the total. -/
lemma totalSize_concat (trades : List Trade) (t : Trade) :
    totalSize (trades ++ [t]) = (totalSize trades).add (.ofUnits t.size) := by
  have hne : trades ++ [t] ≠ [] := by simp
  rw [totalSize, if_neg hne, totalSize, List.map_append, List.sum_append]
  split
  · next h =>
    subst h
    simp [Decimal.add, Decimal.zero, Decimal.isZero, Decimal.ofUnits]
  · rw [Decimal.ofUnits, Decimal.add_units]
    simp

/-! ### Market data -/

/-- What an instrument shows of the market. -/
structure Market where
  bid : Decimal
  ask : Decimal
  bidSize : Decimal
  askSize : Decimal
  last : Decimal
  previous : Decimal
  lastSize : Decimal
  total : Decimal
  updates : Nat
  trend : Trend
deriving DecidableEq, Repr

/-- The market data of an instrument. -/
def Instrument.market (i : Instrument) : Market where
  bid := i.bid
  ask := i.ask
  bidSize := i.bidSize
  askSize := i.askSize
  last := i.last
  previous := i.previous
  lastSize := i.lastSize
  total := i.total
  updates := i.updates
  trend := i.trend

/-- **The market data that a history determines.** The quote is the last one; price and size are those
of the last trade; the total is the sum of all sizes; and every message is counted. The trend leads
from the price of the trade before the last one, zero if there is none, to the last price. The earlier
price is this price before, unless a quote that settles the trend has come after the last trade. -/
def Market.ofHistory (policy : Recoloring) (history : List Message) : Market :=
  let quotes := quotesOf history
  let trades := tradesOf history
  let last := lastUnits Trade.price trades
  let before := lastUnits Trade.price trades.dropLast
  { bid := lastUnits Quote.bid quotes
    ask := lastUnits Quote.ask quotes
    bidSize := lastUnits Quote.bidSize quotes
    askSize := lastUnits Quote.askSize quotes
    last
    previous := if policy = .quotesAndTrades ∧ endsWithQuote history then last else before
    lastSize := lastUnits Trade.size trades
    total := totalSize trades
    updates := history.length
    trend := if trades = [] then .neutral else Trend.between before last }

namespace Instrument

variable {policy : Recoloring} {history : List Message} {i : Instrument}

/-- A new instrument has the data of the empty history. -/
lemma market_fresh (key : Key) (row : Nat) (policy : Recoloring) :
    (fresh key row).market = .ofHistory policy [] := by
  cases policy <;> rfl

/-- **Settling leaves the trend alone**: wherever the last two prices still differ, the trade that
brought the last one has compared them already. -/
lemma trend_settled (h : i.market = .ofHistory policy history) : i.settled.trend = i.trend := by
  obtain ⟨-, -, -, -, hlast, hprevious, -, -, -, htrend⟩ := Market.mk.inj h
  rw [settled]
  dsimp only
  split
  · rfl
  · next hne =>
    -- the prices differ, so there is a trade and no quote has settled it since
    have hdiffer : i.previous ≠ i.last := by
      intro heq
      rw [heq, Decimal.compare_self] at hne
      exact hne rfl
    have hbefore : i.previous = lastUnits Trade.price (tradesOf history).dropLast := by
      split at hprevious
      · exact absurd (hprevious.trans hlast.symm) hdiffer
      · exact hprevious
    have htrades : tradesOf history ≠ [] := by
      intro hnone
      rw [hbefore, hlast, hnone] at hdiffer
      exact hdiffer rfl
    rw [htrend, if_neg htrades, hbefore, hlast]

/-- A quote replaces the quote and is counted. -/
lemma market_afterQuote (h : i.market = .ofHistory policy history) (q : Quote) :
    (i.afterQuote policy q).market = .ofHistory policy (history ++ [.quote q]) := by
  obtain ⟨-, -, -, -, hlast, hprevious, hlastSize, htotal, hupdates, htrend⟩ := Market.mk.inj h
  cases policy with
  | trades =>
      simp [afterQuote, market, Market.ofHistory, Message.quote?, Message.trade?, hlast, hprevious,
        hlastSize, htotal, hupdates, htrend]
  | quotesAndTrades =>
      have hsettled : i.settled = { i with previous := i.last } := by
        rw [← trend_settled h]
        rfl
      simp [afterQuote, hsettled, market, Market.ofHistory, Message.quote?, Message.trade?, hlast,
        hlastSize, htotal, hupdates, htrend]

/-- A trade becomes the last one and is compared with the one before. -/
lemma market_afterTrade (h : i.market = .ofHistory policy history) (t : Trade) :
    (i.afterTrade t).market = .ofHistory policy (history ++ [.trade t]) := by
  obtain ⟨hbid, hask, hbidSize, haskSize, hlast, -, -, htotal, hupdates, -⟩ := Market.mk.inj h
  simp [afterTrade, market, Market.ofHistory, Message.quote?, Message.trade?, totalSize_concat,
    hbid, hask, hbidSize, haskSize, hlast, htotal, hupdates]

/-- **One more message** takes the data of a history to the data of the longer one. -/
lemma market_after (h : i.market = .ofHistory policy history) (m : Message) :
    (i.after policy m).market = .ofHistory policy (history ++ [m]) := by
  cases m with
  | quote q => exact market_afterQuote h q
  | trade t => exact market_afterTrade h t

end Instrument

end MarketBoard

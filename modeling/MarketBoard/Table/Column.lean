import MarketBoard.Decimal.Text
import MarketBoard.Instrument.Basic
import MarketBoard.Screen.Style

/-!
The columns of the table and what an instrument shows in each.

* `Column`: nine columns at fixed places, none of which touch (`Column.disjoint`).
* `saturate`, `ellipsize`: what becomes of a number and of a label that do not fit.
* `Instrument.cellText`, `Instrument.cellStyle`: the text of an instrument in a column and its look.
-/

namespace MarketBoard

/-- The columns, from left to right. -/
inductive Column where
  | ticker | bidSize | bid | ask | askSize | spread | last | updates | total
deriving DecidableEq, Repr, Inhabited

/-- The width of a line of the table. -/
def lineWidth : Nat := 150

namespace Column

/-- All columns, from left to right. -/
def all : List Column :=
  [ticker, bidSize, bid, ask, askSize, spread, last, updates, total]

/-- The number of columns. -/
def count : Nat := all.length

/-- The title in the header. -/
def title : Column → String
  | ticker => "TICKER"
  | bidSize => "BID QTY"
  | bid => "BID"
  | ask => "ASK"
  | askSize => "ASK QTY"
  | spread => "SPREAD"
  | last => "LAST"
  | updates => "UPD"
  | total => "TOTAL QTY"

/-- The first cell. -/
def x : Column → Nat
  | ticker => 0
  | bidSize => 21
  | bid => 36
  | ask => 53
  | askSize => 72
  | spread => 87
  | last => 106
  | updates => 123
  | total => 134

/-- The number of cells. -/
def width : Column → Nat
  | ticker => 20
  | bidSize => 14
  | bid => 16
  | ask => 18
  | askSize => 14
  | spread => 18
  | last => 16
  | updates => 10
  | total => 16

/-- The place from the left, counted from zero. -/
def index (c : Column) : Nat := all.idxOf c

/-- Every column lies within the line. -/
theorem x_add_width_le (c : Column) : c.x + c.width ≤ lineWidth := by
  cases c <;> decide

/-- Of two columns one ends before the other begins. -/
theorem disjoint {c d : Column} (h : c ≠ d) : c.x + c.width < d.x ∨ d.x + d.width < c.x := by
  cases c <;> cases d <;> first | exact absurd rfl h | decide

/-- The place of a column finds the column again. -/
theorem all_getElem?_index (c : Column) : all[c.index]? = some c := by
  cases c <;> rfl

end Column

/-! ### Texts that do not fit -/

/-- A number that has more characters than its column has cells is shown as hash signs. -/
def saturate (text : List Char) (width : Nat) : List Char :=
  if text.length ≤ width then text else List.replicate width '#'

/-- A label that has more characters than its column has cells keeps its head and ends in a tilde. -/
def ellipsize (text : List Char) (width : Nat) : List Char :=
  if text.length ≤ width then text else text.take (width - 1) ++ ['~']

/-- A saturated text never has more characters than there are cells. -/
theorem length_saturate_le (text : List Char) (width : Nat) :
    (saturate text width).length ≤ width := by
  unfold saturate
  split
  · assumption
  · simp

/-- A shortened label never has more characters than there are cells. -/
theorem length_ellipsize_le (text : List Char) {width : Nat} (h : 0 < width) :
    (ellipsize text width).length ≤ width := by
  unfold ellipsize
  split
  · assumption
  · simp only [List.length_append, List.length_take, List.length_singleton]
    omega

/-! ### The cells of an instrument -/

/-- Places of a quantity. -/
def quantityPlaces : Nat := 4

/-- Places of a price. -/
def pricePlaces : Nat := 7

/-- The colour of the last price. -/
def Trend.style : Trend → Style
  | .up => { fg := some .green }
  | .down => { fg := some .red }
  | .neutral => { fg := some .white }

namespace Instrument

/-- The text of an instrument in a column, before it is fitted into the column. -/
def fullText (i : Instrument) : Column → List Char
  | .ticker => if i.marked then '*' :: i.label.toList else i.label.toList
  | .bidSize => i.bidSize.columnText quantityPlaces 14
  | .bid => i.bid.columnText pricePlaces 16
  | .ask => 'x' :: ' ' :: i.ask.columnText pricePlaces 16
  | .askSize => i.askSize.columnText quantityPlaces 14
  | .spread => '(' :: i.spread.columnText pricePlaces 16 ++ [')']
  | .last => i.last.columnText pricePlaces 16
  | .updates => padLeft 10 (digits i.updates)
  | .total => i.total.columnText quantityPlaces 16

/-- The text of an instrument in a column. -/
def cellText (i : Instrument) : Column → List Char
  | .ticker => ellipsize (i.fullText .ticker) Column.ticker.width
  | c => saturate (i.fullText c) c.width

/-- The look of an instrument in a column. -/
def cellStyle (i : Instrument) : Column → Style
  | .ticker => if i.marked then { fg := some .yellow } else .plain
  | .last => i.trend.style
  | _ => .plain

end Instrument

end MarketBoard

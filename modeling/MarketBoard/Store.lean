import MarketBoard.Instrument.Basic

/-!
The table of instruments: what is known of each, and in which order they stand.

* `Store`: the instruments in the order of their first message, and their keys in the order of rows.
* `Store.apply`: a message changes its own instrument, which is taken in at the end if it is new.
* `Store.sort`: rows in the order of `Key.compare`, or in the opposite order.
* `Store.toggleMark`: the mark of the instrument at a row.
* `Store.receive`, `Store.rearrange`, `Store.turnMark`: the same with their answers: the row that was
  touched, the keys in their new order, the new mark.
* `Store.get?`, `Store.keyAt?`, `Store.atRow?`: look-ups, by key and by row.
-/

namespace MarketBoard

/-- The instruments and the order of their rows. -/
structure Store where
  policy : Recoloring := .trades
  /-- The instruments, in the order of their first message. -/
  table : List Instrument := []
  /-- The keys, in the order of the rows. -/
  order : List Key := []
deriving DecidableEq, Repr, Inhabited

namespace Store

/-- A store without instruments. -/
def empty (policy : Recoloring) : Store := { policy }

/-! ### Look-up -/

/-- The number of instruments. -/
def size (s : Store) : Nat := s.table.length

/-- There is no instrument. -/
def isEmpty (s : Store) : Bool := s.table.isEmpty

/-- The instrument of a key. -/
def get? (s : Store) (key : Key) : Option Instrument := s.table.find? (·.key = key)

/-- The key at a row; there is none above the first row. -/
def keyAt? (s : Store) (row : Nat) : Option Key :=
  if row < firstRow then none else s.order[row - firstRow]?

/-- The instrument at a row. -/
def atRow? (s : Store) (row : Nat) : Option Instrument := s.keyAt? row >>= s.get?

/-- The instruments in the order of the rows. -/
def rows (s : Store) : List Instrument := s.order.filterMap s.get?

/-- The last row that is in use. -/
def lastRow? (s : Store) : Option Nat :=
  if s.order.isEmpty then none else some (s.order.length - 1 + firstRow)

/-! ### Change -/

/-- The store in which a key has an instrument: a new one takes the next free row. -/
def ensure (s : Store) (key : Key) : Store :=
  match s.get? key with
  | some _ => s
  | none =>
    { s with
      table := s.table ++ [.fresh key (s.order.length + firstRow)]
      order := s.order ++ [key] }

/-- Changes the instrument of a key. -/
def modify (s : Store) (key : Key) (f : Instrument → Instrument) : Store :=
  { s with table := s.table.map fun i => if i.key = key then f i else i }

/-- Applies a message to its instrument. -/
def apply (s : Store) (m : Message) : Store :=
  (s.ensure m.key).modify m.key (·.after s.policy m)

/-- The instrument that a message for a key changes: the one that is there, or a new one for the next
free row. -/
def entry (s : Store) (key : Key) : Instrument :=
  (s.get? key).getD (.fresh key (s.order.length + firstRow))

/-- Applies a message, and tells the row that it touched. -/
def receive (s : Store) (m : Message) : Nat × Store := ((s.entry m.key).row, s.apply m)

/-- The row of the instrument of a key, once there is one. -/
def rowOf? (s : Store) (key : Key) : Option Nat := (s.get? key).map Instrument.row

/-- The rows in a new order of keys; each instrument takes the row of its key. -/
def arrange (s : Store) (order : List Key) : Store :=
  { s with
    order
    table := s.table.map fun i => { i with row := order.idxOf i.key + firstRow } }

/-- The keys in ascending or descending order. -/
def sortedKeys (s : Store) (descending : Bool) : List Key :=
  let ascending := s.order.mergeSort fun a b => (Key.compare a b).isLE
  if descending then ascending.reverse else ascending

/-- Gives every instrument the row that it has in ascending or descending order of keys. -/
def sort (s : Store) (descending : Bool) : Store := s.arrange (s.sortedKeys descending)

/-- Sorts the rows, and tells the keys in their new order. -/
def rearrange (s : Store) (descending : Bool) : List Key × Store :=
  let s := s.sort descending
  (s.order, s)

/-- Turns the mark of the instrument at a row, if there is one. -/
def toggleMark (s : Store) (row : Nat) : Store :=
  match s.keyAt? row with
  | some key => s.modify key fun i => { i with marked := !i.marked }
  | none => s

/-- Turns the mark of the instrument at a row, and tells the new one; there is none without an
instrument. -/
def turnMark (s : Store) (row : Nat) : Option Bool × Store :=
  match s.atRow? row with
  | some i => (some !i.marked, s.toggleMark row)
  | none => (none, s)

/-- The name of a policy in summaries. -/
def policyName : Recoloring → String
  | .trades => "TradeOnly"
  | .quotesAndTrades => "TickAndTrade"

/-- The store in a few words. -/
def summary (s : Store) : String :=
  "InstrumentStore \x7b instruments: " ++ toString s.size ++ ", policy: " ++ policyName s.policy ++
    " \x7d"

end Store

end MarketBoard

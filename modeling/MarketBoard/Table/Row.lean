import MarketBoard.Screen.Line
import MarketBoard.Table.Column
import MarketBoard.View

/-!
The lines of the table.

* `headerLine`: the titles of the columns.
* `Instrument.line`: an instrument, highlighted as a whole where the cursor is, and with its bid and
  ask in alarm colours as long as they are crossed.
* `statusText`: the words on the last line of the screen.
-/

namespace MarketBoard

/-- Titles are bold. -/
def headerStyle : Style := { adds := { bold := true } }

/-- The column of the cursor is bold and underlined. -/
def columnHighlight : Style := { adds := { bold := true, underlined := true } }

/-- The row of the cursor is red on white and reversed. -/
def rowHighlight : Style :=
  { fg := some .red, bg := some .white, adds := { reversed := true } }

/-- What is wrong is red on white and not reversed. -/
def alert : Style :=
  { fg := some .red, bg := some .white, removes := { reversed := true } }

/-- Text at the left end of a field, blanks behind it. -/
def padRight (width : Nat) (text : List Char) : List Char :=
  text ++ List.replicate (width - text.length) ' '

/-- The title of a column in the width of the column: at the left end of the first one, at the right
end of the others. -/
def Column.titleText (c : Column) : List Char :=
  if c = .ticker then padRight c.width c.title.toList else padLeft c.width c.title.toList

/-- A style in the column of the cursor. -/
def inColumn (selected : Bool) (s : Style) : Style := if selected then s.patch columnHighlight else s

/-- The line above the instruments, with the cursor in the given column. -/
def headerLine (cursor : Nat) : Line :=
  Column.all.foldl (fun line c =>
    line.write c.x c.width c.titleText (inColumn (c.index = cursor) headerStyle))
    (Line.blank lineWidth)

namespace Instrument

/-- The texts of an instrument in a blank line. -/
def textLine (i : Instrument) (selected : Bool) (cursor : Nat) : Line :=
  Column.all.foldl (fun line c =>
    line.write c.x c.width (i.cellText c) (inColumn (selected && c.index = cursor) (i.cellStyle c)))
    (Line.blank lineWidth)

/-- The line of an instrument. -/
def line (i : Instrument) (selected : Bool) (cursor : Nat) : Line :=
  let texts := i.textLine selected cursor
  let row := if selected then texts.restyle 0 lineWidth rowHighlight else texts
  if i.isCrossed then
    (row.restyle Column.bid.x Column.bid.width alert).restyle Column.ask.x Column.ask.width alert
  else row

end Instrument

/-! ### Lengths -/

/-- Writing column after column keeps the length of the line. -/
theorem length_foldl_write (cs : List Column) (text : Column → List Char) (style : Column → Style)
    (line : Line) :
    (cs.foldl (fun line c => line.write c.x c.width (text c) (style c)) line).length =
      line.length := by
  induction cs generalizing line with
  | nil => rfl
  | cons c cs ih => rw [List.foldl_cons, ih, Line.length_write]

/-- The header fills a line of the table. -/
theorem length_headerLine (cursor : Nat) : (headerLine cursor).length = lineWidth := by
  rw [headerLine, length_foldl_write, Line.length_blank]

/-- An instrument fills a line of the table. -/
theorem Instrument.length_line (i : Instrument) (selected : Bool) (cursor : Nat) :
    (i.line selected cursor).length = lineWidth := by
  have h : (i.textLine selected cursor).length = lineWidth := by
    rw [textLine, length_foldl_write, Line.length_blank]
  unfold line
  cases selected <;> cases i.isCrossed <;> simp [h]

/-! ### The status -/

/-- The order of the table in the status. -/
def SortOrder.word : SortOrder → String
  | arrival => "-"
  | ascending => "asc"
  | descending => "desc"

/-- The title of the column of the cursor in the status. -/
def columnWord (cursor : Nat) : String :=
  match Column.all[cursor]? with
  | some c => c.title
  | none => "?"

/-- The words on the last line: how much was applied, how the table stands, and what failed last. -/
def statusText (v : View) (instruments : Nat) : String :=
  let line :=
    s!"{v.messages} | {instruments} instruments | sort {v.sort.word} | row {v.row} | col " ++
      columnWord v.column
  match v.lastError with
  | some error => line ++ " | last error: " ++ error
  | none => line

end MarketBoard

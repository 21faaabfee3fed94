import MarketBoard.Proofs.Board.Run
import MarketBoard.Proofs.Screen.Writing
import MarketBoard.Proofs.Table.Frame

/-!
What of the table is in sight.

* `Window.tableCell`: the cell of the pad that a frame shows, plain blank where the pad has none.
* `Window.cell?_composePlain`, `Window.cell?_lastLine`: a frame that is put together over a blank one,
  cell by cell.
* `View.topRow_cases`: the first row in sight.
* `Canvas.cursor_in_sight`: header, body and row of the cursor in a frame of at least three lines.
* `Canvas.lastLine_of_hidden`: the status is alone on the last line of such a frame; with two lines a
  row of the table lies under it (`Canvas.row_under_status`).
-/

namespace MarketBoard

/-- A plain text over blanks has the background of the terminal. -/
lemma bg_written_plain (ks : List Cluster) (x : Nat) : (written .plain ks x .blank).bg = .reset := by
  rw [written]
  split
  · rfl
  · split <;> rfl

namespace Window

variable (w : Window)

/-- The cell of the pad that a frame shows at a place; a plain blank where the pad has none. -/
def tableCell (height x y : Nat) : Cell :=
  (w.padRow? height y >>= fun row => w.pad[row]? >>= (·[x]?)).getD .blank

lemma getElem?_tableLine {width x : Nat} (hx : x < width) (height y : Nat) :
    (w.tableLine height y (Line.blank width))[x]? = some (w.tableCell height x y) := by
  have hblank : (Line.blank width)[x]? = some Cell.blank := Line.getElem?_blank hx
  rw [tableLine, tableCell]
  cases hrow : w.padRow? height y with
  | none => exact hblank
  | some row =>
      simp only [Option.bind_eq_bind, Option.bind_some]
      cases hline : w.pad[row]? with
      | none => exact hblank
      | some cells =>
          rw [Line.getElem?_cover _ _ (by rwa [Line.length_blank]), hblank, Option.bind_some]
          cases cells[x]? <;> rfl

lemma cell?_composePlain_eq {width height y : Nat} (hy : y < height) (x : Nat) :
    (w.composePlain (.blank width height)).cell? x y =
      (w.plainLine height y (Line.blank width))[x]? := by
  have hline : (Grid.blank width height).lines[y]? = some (Line.blank width) := by
    rw [Grid.blank, List.getElem?_replicate, if_pos hy]
  have hheight : (Grid.blank width height).height = height := Grid.height_blank _ _
  rw [composePlain, Grid.cell?_mapLines, hline, hheight]
  rfl

/-- **Above the last line** a frame shows the table. -/
lemma cell?_composePlain {width height x y : Nat} (hx : x < width) (hy : y + 1 < height) :
    (w.composePlain (.blank width height)).cell? x y = some (w.tableCell height x y) := by
  rw [cell?_composePlain_eq w (by omega), plainLine, statusLine, if_neg (by omega),
    getElem?_tableLine w hx]

/-- **On the last line** the status is put over what the table has there. -/
lemma cell?_lastLine {width height x y : Nat} (hx : x < width) (hheight : 2 ≤ height)
    (hy : y + 1 = height) :
    (w.composePlain (.blank width height)).cell? x y =
      some (written .plain (fitting width (clusters w.status)) x (w.tableCell height x y)) := by
  have hlength : (w.tableLine height y (Line.blank width)).length = width := by
    rw [tableLine]
    split <;> simp
  rw [cell?_composePlain_eq w (by omega), plainLine, statusLine, if_pos ⟨hheight, hy⟩, hlength,
    Line.getElem?_write (by omega), if_neg (Nat.not_lt_zero x), getElem?_tableLine w hx]
  rfl

end Window

/-! ### The cursor -/

namespace View

variable {v : View}

/-- The first row in sight, with the rule for it spelled out. -/
lemma topRow_cases (v : View) :
    v.row ≤ v.bodyHeight ∧ v.topRow = 1 ∨
      v.bodyHeight < v.row ∧ v.topRow + v.bodyHeight = v.row + 1 ∧ 2 ≤ v.topRow := by
  have hbody : 1 ≤ v.bodyHeight := Nat.le_max_right _ _
  rw [topRow, firstRow]
  split
  · exact .inr (by omega)
  · exact .inl (by omega)

end View

namespace Canvas

variable (c : Canvas) (s : Store) (v : View)

/-- The row of the cursor in a frame as high as the view has it: **header, body and cursor**.
The first line shows the header and each line of the body a row of the pad, one row below the other,
cut to the width of the screen and blank where the pad has no such row or column. The row of the
cursor is on one of them: as far down as its number says while the table is shown from its first row
on, and on the last of them otherwise. -/
theorem cursor_in_sight (width : Nat) (hheight : 3 ≤ v.height) (hrow : 1 ≤ v.row) :
    let top := v.topRow
    let frame := (c.window v s).composePlain (.blank width v.height)
    1 ≤ top ∧ top ≤ v.row ∧ v.row + 3 ≤ top + v.height ∧
      (∀ x < width, frame.cell? x 0 = some ((c.cell? x 0).getD .blank)) ∧
      (∀ y, 1 ≤ y → y + 2 ≤ v.height → ∀ x < width,
        frame.cell? x y = some ((c.cell? x (top + y - 1)).getD .blank)) ∧
      (∀ x < width, frame.cell? x (1 + v.row - top) = some ((c.cell? x v.row).getD .blank)) ∧
      1 ≤ 1 + v.row - top ∧ 1 + v.row - top ≤ v.height - 2 ∧
      (top = 1 ↔ v.row ≤ v.height - 2) ∧
      (v.height - 2 < v.row → 1 + v.row - top = v.height - 2) := by
  intro top frame
  have hbody : v.bodyHeight = v.height - 2 := by
    simp only [View.bodyHeight]
    omega
  have hcases : v.row ≤ v.height - 2 ∧ top = 1 ∨
      v.height - 2 < v.row ∧ top + (v.height - 2) = v.row + 1 ∧ 2 ≤ top := hbody ▸ v.topRow_cases
  have hheader : ∀ x < width, frame.cell? x 0 = some ((c.cell? x 0).getD .blank) := by
    intro x hx
    exact (c.window v s).cell?_composePlain hx (by omega)
  have hlines : ∀ y, 1 ≤ y → y + 2 ≤ v.height → ∀ x < width,
      frame.cell? x y = some ((c.cell? x (top + y - 1)).getD .blank) := by
    intro y hy hyh x hx
    have hpad : (c.window v s).padRow? v.height y = some (top + y - 1) := by
      rw [Window.padRow?, if_neg (by omega), if_pos (by simp only [Window.bodyLines]; omega)]
      exact congrArg some (by simp only [window]; omega)
    rw [Window.cell?_composePlain _ hx (by omega), Window.tableCell, hpad]
    rfl
  have hcursor : ∀ x < width,
      frame.cell? x (1 + v.row - top) = some ((c.cell? x v.row).getD .blank) := by
    intro x hx
    rw [hlines _ (by omega) (by omega) x hx, show top + (1 + v.row - top) - 1 = v.row by omega]
  exact ⟨by omega, by omega, by omega, hheader, hlines, hcursor, by omega, by omega, by omega,
    by omega⟩

/-- Five instruments on a screen with a body of three lines, the cursor on the last one: the table is
shown from the third row on, and the cursor is on the last line of the body. -/
theorem cursor_in_sight_scrolled :
    let trade (symbol : String) : Board.Step := .message (.trade ⟨⟨symbol, 1⟩, 100000000, 200000000⟩)
    let b := (Board.opened (.blank 40 5) 9 .trades).run
      ((["A", "B", "C", "D", "E"].map trade) ++ [.command .bottom])
    let frame := (b.canvas.window b.view b.store).composePlain (.blank 40 b.view.height)
    3 ≤ b.view.height ∧ 1 ≤ b.view.row ∧ b.view.topRow = 3 ∧
      (∀ x < 40, frame.cell? x 3 = some ((b.canvas.cell? x 5).getD .blank)) ∧
      (b.canvas.cell? 0 5).map Cell.symbol = some ['E'] := by
  intro trade b frame
  have hsize : 3 ≤ b.view.height ∧ 1 ≤ b.view.row := by decide +kernel
  have hline : b.view.topRow = 3 ∧ b.view.row = 5 ∧ 1 + b.view.row - b.view.topRow = 3 := by
    decide +kernel
  obtain ⟨-, -, -, -, -, hcursor, -⟩ := b.canvas.cursor_in_sight b.store b.view 40 hsize.1 hsize.2
  rw [hline.2.2, hline.2.1] at hcursor
  exact ⟨hsize.1, hsize.2, hline.1, hcursor, by decide +kernel⟩

/-! ### The last line -/

/-- **The status has the last line of a screen of three lines or more to itself**: the clusters for
which there is room, and plain blanks behind them. On a screen of two lines the row that is the first
one in sight lies under the status; what the status does not cover shows this row, and what it covers
keeps the look of this row. -/
theorem lastLine_of_hidden (hbox : v.overlay = .hidden) (width : Nat) {height : Nat}
    (hheight : 2 ≤ height) :
    let frame := (c.window v s).compose (.blank width height)
    ∃ shown, IsCut (clusters (statusText v s.size).toList) width shown ∧
      (3 ≤ height → ∀ x < width,
        frame.cell? x (height - 1) = some (written .plain shown x .blank)) ∧
      (height = 2 → ∀ x < width,
        frame.cell? x 1 = some (written .plain shown x ((c.cell? x v.topRow).getD .blank))) := by
  intro frame
  have hplain : frame = (c.window v s).composePlain (.blank width height) := by
    have hnone : (c.window v s).box = none := by
      rw [window, hbox]
      rfl
    simp only [frame, Window.compose, hnone]
  have hlast : ∀ x < width, frame.cell? x (height - 1) =
      some (written .plain (fitting width (clusters (statusText v s.size).toList)) x
        ((c.window v s).tableCell height x (height - 1))) := by
    intro x hx
    rw [hplain, Window.cell?_lastLine _ hx hheight (by omega)]
    rfl
  refine ⟨_, isCut_fitting _ _, ?_, ?_⟩
  · -- the body ends above the last line
    intro htall x hx
    have hnone : (c.window v s).padRow? height (height - 1) = none := by
      rw [Window.padRow?, if_neg (by omega), if_neg (by simp only [Window.bodyLines]; omega)]
    rw [hlast x hx, Window.tableCell, hnone]
    rfl
  · -- there is always a line for the body, here the last one
    rintro rfl x hx
    rw [hlast x hx]
    rfl

/-- One instrument on a screen of three lines: the status is alone on the last one. -/
theorem lastLine_of_hidden_three :
    let b := (Board.opened (.blank 60 3) 3 .trades).receive (.trade ⟨⟨"A", 1⟩, 100000000, 200000000⟩)
    let frame := (b.canvas.window b.view b.store).compose (.blank 60 3)
    b.view.overlay = .hidden ∧
      (∃ shown, IsCut (clusters (statusText b.view b.store.size).toList) 60 shown ∧
        ∀ x < 60, frame.cell? x 2 = some (written .plain shown x .blank)) ∧
      frame.lines[2]?.map Line.text = some "1 | 1 instruments | sort - | row 1 | col TICKER".toList := by
  intro b frame
  have hbox : b.view.overlay = .hidden := rfl
  obtain ⟨shown, hcut, htall, -⟩ := b.canvas.lastLine_of_hidden b.store b.view hbox 60
    (show 2 ≤ 3 by decide)
  exact ⟨hbox, ⟨shown, hcut, htall (by decide)⟩, by decide +kernel⟩

/-- **On a screen of two lines the row under the status is seen behind it**: the first instrument, which
the cursor is on, with its background up to the end of the line. -/
theorem row_under_status :
    let b := (Board.opened (.blank 60 2) 3 .trades).receive (.trade ⟨⟨"A", 1⟩, 100000000, 200000000⟩)
    let frame := (b.canvas.window b.view b.store).compose (.blank 60 2)
    b.view.overlay = .hidden ∧
      ¬ ∃ shown, IsCut (clusters (statusText b.view b.store.size).toList) 60 shown ∧
        ∀ x < 60, frame.cell? x 1 = some (written .plain shown x .blank) := by
  intro b frame
  refine ⟨rfl, ?_⟩
  rintro ⟨shown, -, hcells⟩
  have hrow : (frame.cell? 59 1).map Cell.bg = some .white := by decide +kernel
  rw [hcells 59 (by decide), Option.map_some, bg_written_plain] at hrow
  exact absurd hrow (by decide)

end Canvas

end MarketBoard

import MarketBoard.Proofs.Board.Recovery
import MarketBoard.Proofs.Table.Looks

/-!
Every row of the pad looks as store and view have it, whatever the terminal does.

* `Board.IsRegular.exists_isCurrent`: a board with a drawn pad agrees with a current one on a terminal
  that works.
* `Board.IsRegular.isDrawn_put_of_isDrawn`, `Board.IsRegular.isDrawn_after`: a drawn pad stays drawn.
* `Store.exists_reversed_rowLine_iff`: the one row that is highlighted.
* `Board.looks_of_run`: highlight, alarm and underline after every run.
-/

namespace MarketBoard

namespace Board

variable {b b' : Board}

/-! ### The pad stays drawn -/

/-- A pad that is drawn for one of two boards that agree is drawn for the other. -/
lemma Agrees.isDrawn (h : b.Agrees b') (hdrawn : b'.canvas.IsDrawn b'.store b'.view) :
    b.canvas.IsDrawn b.store b.view := by
  intro r hr
  have hcapacity : r < b'.canvas.capacity := by
    rwa [Canvas.capacity, ← h.pad]
  rw [h.pad, hdrawn r hcapacity, h.store]
  exact congrArg some (Store.rowLine_congr h.column.symm rfl fun _ => by rw [h.row])

namespace IsRegular

/-- **A board with a drawn pad** agrees with a current one on a terminal that works. -/
lemma exists_isCurrent (h : b.IsRegular) (hdrawn : b.canvas.IsDrawn b.store b.view) :
    ∃ b' : Board, b.Agrees b' ∧ b'.IsCurrent := by
  have hworks : (Device.blank 0 0).Works := fun _ _ => rfl
  obtain ⟨hcurrent, hcapacity, -⟩ := Canvas.isCurrent_redraw
    (c := .ofTerminal (.ofDevice (.blank 0 0)) b.canvas.capacity) (v := b.view) h.sound
    (Terminal.isReady_ofDevice hworks)
  have hrows : (b.redrawnOn (.blank 0 0)).capacity = b.canvas.capacity := by
    rw [redrawnOn, hcapacity]
    simp only [Canvas.ofTerminal, Canvas.capacity, Canvas.blankPad, List.length_replicate]
    exact h.rows
  refine ⟨{ b with canvas := b.redrawnOn (.blank 0 0) }, ⟨rfl, rfl, ?_⟩, h.sound, hcurrent, ?_⟩
  · exact hdrawn.pad_eq hcurrent.drawn hrows.symm
  · rw [hrows]
    exact h.rows

/-- **A drawn pad stays drawn**, whatever reaches the board and whatever its terminal does. -/
lemma isDrawn_put_of_isDrawn (h : b.IsRegular) (hdrawn : b.canvas.IsDrawn b.store b.view) (i : Input) :
    (b.put i).2.canvas.IsDrawn (b.put i).2.store (b.put i).2.view := by
  -- the pad does not depend on the terminal, so it is that of a board whose terminal works
  obtain ⟨b', hagrees, hcurrent⟩ := h.exists_isCurrent hdrawn
  have hput := (hagrees.put i).2
  cases i with
  | start => exact h.isDrawn_put rfl
  | message m => exact hput.isDrawn (hcurrent.receive m).current.drawn
  | command c => exact hput.isDrawn (hcurrent.obey c).current.drawn
  | outcome key result => exact hput.isDrawn (hcurrent.deliver key result).current.drawn
  | resizeTerminal width height => exact hdrawn

lemma isDrawn_after (h : b.IsRegular) (hdrawn : b.canvas.IsDrawn b.store b.view)
    (inputs : List Input) :
    (b.after inputs).canvas.IsDrawn (b.after inputs).store (b.after inputs).view :=
  (after_induction (P := fun b => b.IsRegular ∧ b.canvas.IsDrawn b.store b.view)
    (fun _ i h => ⟨h.1.put i, h.1.isDrawn_put_of_isDrawn h.2 i⟩) ⟨h, hdrawn⟩ inputs).2

end IsRegular

end Board

/-! ### The rows of the pad -/

namespace Store

variable {s : Store}

/-- **The row of the cursor is highlighted**, if there is an instrument, and no other row. -/
lemma exists_reversed_rowLine_iff (v : View) (row : Nat) :
    (∃ (x : Nat) (cell : Cell), (s.rowLine v row)[x]? = some cell ∧ cell.marks.reversed = true) ↔
      row = v.row ∧ (s.atRow? row).isSome = true := by
  by_cases h0 : row = 0
  · subst h0
    constructor
    · rintro ⟨x, cell, hcell, hreversed⟩
      rw [rowLine, if_pos rfl] at hcell
      rw [(headerLine_looks hcell).1] at hreversed
      cases hreversed
    · rintro ⟨-, hat⟩
      obtain ⟨i, hi⟩ := Option.isSome_iff_exists.mp hat
      exact absurd rfl (ne_zero_of_atRow? hi)
  · cases hat : s.atRow? row with
    | none =>
        constructor
        · rintro ⟨x, cell, hcell, hreversed⟩
          rw [rowLine_of_none h0 hat] at hcell
          obtain rfl := List.eq_of_mem_replicate (List.mem_of_getElem? hcell)
          cases hreversed
        · rintro ⟨-, hsome⟩
          cases hsome
    | some i =>
        rw [rowLine_of_atRow? h0 hat, exists_reversed_line_iff, decide_eq_true_iff]
        simp

/-- A row is in use if an instrument of the table carries it. -/
lemma IsSound.isSome_atRow?_iff_mem (h : s.IsSound) (row : Nat) :
    (s.atRow? row).isSome = true ↔ ∃ i ∈ s.table, i.row = row := by
  rw [Option.isSome_iff_exists]
  exact exists_congr fun i => h.atRow?_eq_some_iff_mem

end Store

/-- The cells of a drawn pad. -/
lemma Canvas.IsDrawn.cell?_eq {c : Canvas} {s : Store} {v : View} (h : c.IsDrawn s v) (x row : Nat) :
    c.cell? x row = if row < c.capacity then (s.rowLine v row)[x]? else none := by
  rw [cell?]
  split
  · next hrow => rw [h row hrow, Option.bind_eq_bind, Option.bind_some]
  · next hrow =>
    rw [List.getElem?_eq_none (Nat.not_lt.mp hrow)]
    rfl

namespace Board

/-- Once everything was drawn, the pad is drawn after every further input. -/
lemma isDrawn_of_start (d : Device) (rows : Nat) (policy : Recoloring) (before since : List Input) :
    let b := (ofCanvas (.ofTerminal (.ofDevice d) rows) policy).after (before ++ .start :: since)
    b.IsRegular ∧ b.canvas.IsDrawn b.store b.view := by
  intro b
  have hregular := (isRegular_ofCanvas d rows policy).after before
  have hb : b = (((ofCanvas (.ofTerminal (.ofDevice d) rows) policy).after before).put .start).2.after
      since := by
    simp [b, after, List.foldl_append]
  rw [hb]
  exact ⟨(hregular.put .start).after since,
    (hregular.put .start).isDrawn_after (hregular.isDrawn_put rfl) since⟩

/-- **Highlight, alarm and underline are where the state has them**: after every run in which everything
was drawn once, whatever the terminal does.
The header is underlined in the column of the cursor, and nowhere else. A row without an instrument is
blank, and each cell of a row with one has its look; the header and the rows have `lineWidth` cells. The row of the cursor is highlighted, if it has an instrument and the pad
has the row, and no other row is. -/
theorem looks_of_run (d : Device) (rows : Nat) (policy : Recoloring) (before since : List Input) :
    let b := (ofCanvas (.ofTerminal (.ofDevice d) rows) policy).after (before ++ .start :: since)
    (0 < b.canvas.capacity →
      ∃ cells, b.canvas.pad[0]? = some cells ∧ cells.length = lineWidth) ∧
    (∀ x cell, b.canvas.cell? x 0 = some cell → cell.marks.reversed = false ∧
      (cell.marks.underlined = true ↔ ∃ c : Column, c.index = b.view.column ∧ c.Holds x)) ∧
    (∀ row, 1 ≤ row → row < b.canvas.capacity → (∀ i ∈ b.store.table, i.row ≠ row) →
      b.canvas.pad[row]? = some (Line.blank lineWidth)) ∧
    (∀ i ∈ b.store.table, i.row < b.canvas.capacity →
      ∃ cells, b.canvas.pad[i.row]? = some cells ∧ cells.length = lineWidth ∧
        ∀ (x : Nat) (cell : Cell), cells[x]? = some cell →
          i.Looks (i.row = b.view.row) b.view.column x cell) ∧
    (∀ row, (∃ x cell, b.canvas.cell? x row = some cell ∧ cell.marks.reversed = true) ↔
      row = b.view.row ∧ row < b.canvas.capacity ∧ ∃ i ∈ b.store.table, i.row = row) := by
  intro b
  obtain ⟨hregular, hdrawn⟩ : b.IsRegular ∧ b.canvas.IsDrawn b.store b.view :=
    isDrawn_of_start d rows policy before since
  have hsound := hregular.sound
  refine ⟨fun hcapacity => ?_, ?_, ?_, ?_, ?_⟩
  · refine ⟨_, hdrawn 0 hcapacity, ?_⟩
    rw [Store.rowLine, if_pos rfl, length_headerLine]
  · intro x cell h
    rw [hdrawn.cell?_eq] at h
    split at h
    · rw [Store.rowLine, if_pos rfl] at h
      exact headerLine_looks h
    · cases h
  · intro row hrow hcapacity hnone
    have hat : b.store.atRow? row = none := by
      by_contra hsome
      obtain ⟨i, hi, hirow⟩ :=
        (hsound.isSome_atRow?_iff_mem row).mp (Option.isSome_iff_ne_none.mpr hsome)
      exact hnone i hi hirow
    rw [hdrawn row hcapacity, Store.rowLine_of_none (by omega) hat]
  · intro i hi hcapacity
    have hat : b.store.atRow? i.row = some i := hsound.atRow?_eq_some_iff_mem.mpr ⟨hi, rfl⟩
    refine ⟨_, ?_, i.length_line _ _, fun x cell h => Instrument.looks_line h⟩
    rw [hdrawn _ hcapacity, Store.rowLine_of_atRow? (Store.ne_zero_of_atRow? hat) hat]
  · intro row
    rw [← hsound.isSome_atRow?_iff_mem]
    by_cases hrow : row < b.canvas.capacity
    · simp only [hdrawn.cell?_eq, hrow, if_true, true_and]
      exact Store.exists_reversed_rowLine_iff b.view row
    · simp [hdrawn.cell?_eq, hrow]

-- a crossed row with the cursor on the bid: the bid is in alarm and underlined, the label is highlighted
example :
    let b := (ofCanvas (.ofTerminal (.ofDevice (.blank 40 5)) 3) .trades).after
      [.start, .message (.quote ⟨⟨"A", 1⟩, 5, 1, 7, 7⟩), .command .right, .command .right]
    b.canvas.cell? 51 1 = some ⟨['0'], .red, .white, ⟨true, true, false⟩⟩ ∧
      b.canvas.cell? 0 1 = some ⟨['A'], .red, .white, ⟨false, false, true⟩⟩ := by
  decide +kernel

end Board

end MarketBoard

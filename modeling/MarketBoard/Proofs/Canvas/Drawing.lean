import MarketBoard.Canvas
import MarketBoard.Proofs.Screen.Working
import MarketBoard.Proofs.Store.Rows
import MarketBoard.Proofs.Table.Frame

/-!
Drawing on a canvas whose terminal works.

* `Store.rowLine`: the line that a row of the pad has to show for a store and a view.
* `Canvas.IsDrawn`: every row of the pad shows its line. `isDrawn_drawRowAt`: drawing one row mends
  this row; `isDrawn_drawAll`: drawing all rows on a blank pad gives the whole table.
* `Canvas.frame`: what the screen has to show; `Canvas.IsCurrent`: pad and screen are as they have to
  be.
* `Canvas.isCurrent_refresh`, `Canvas.isCurrent_redraw`: sending a drawn pad, and drawing everything
  anew whatever was there before, make a canvas current.
-/

namespace MarketBoard

/-! ### The lines of the table -/

/-- An instrument that is not highlighted does not show in which column the cursor is. -/
lemma Instrument.line_false (i : Instrument) (column column' : Nat) :
    i.line false column = i.line false column' := by
  simp [line, textLine]

/-- The line that a row of the pad has to show: the header above all rows, the instrument at the row,
highlighted if the cursor is there, and nothing where there is no instrument. -/
def Store.rowLine (s : Store) (v : View) (row : Nat) : Line :=
  if row = 0 then headerLine v.column
  else
    match s.atRow? row with
    | some i => i.line (row = v.row) v.column
    | none => Line.blank lineWidth

lemma Store.rowLine_of_atRow? {s : Store} {row : Nat} {i : Instrument} (h0 : row ≠ 0)
    (h : s.atRow? row = some i) (v : View) :
    s.rowLine v row = i.line (row = v.row) v.column := by
  rw [rowLine, if_neg h0, h]

lemma Store.rowLine_of_none {s : Store} {row : Nat} (h0 : row ≠ 0) (h : s.atRow? row = none)
    (v : View) : s.rowLine v row = Line.blank lineWidth := by
  rw [rowLine, if_neg h0, h]

/-- A row has to show the same line as long as its instrument, its highlight and the column of the
cursor stay. -/
lemma Store.rowLine_congr {s s' : Store} {v v' : View} {row : Nat}
    (hcolumn : v.column = v'.column) (hat : s.atRow? row = s'.atRow? row)
    (hrow : s.atRow? row ≠ none → (row = v.row ↔ row = v'.row)) :
    s.rowLine v row = s'.rowLine v' row := by
  unfold rowLine
  rw [← hat, hcolumn]
  split
  · rfl
  · split
    · next i hi => rw [decide_eq_decide.mpr (hrow (by rw [hi]; simp))]
    · rfl

/-- A row without the cursor has to show the same line in whichever column the cursor is. -/
lemma Store.rowLine_congr_of_ne {s : Store} {v v' : View} {row : Nat} (h0 : row ≠ 0)
    (hrow : row ≠ v.row) (hrow' : row ≠ v'.row) : s.rowLine v row = s.rowLine v' row := by
  cases h : s.atRow? row with
  | none => rw [rowLine_of_none h0 h, rowLine_of_none h0 h]
  | some i =>
      rw [rowLine_of_atRow? h0 h, rowLine_of_atRow? h0 h, decide_eq_false hrow,
        decide_eq_false hrow', i.line_false]

/-- There is no instrument above the first row. -/
lemma Store.ne_zero_of_atRow? {s : Store} {row : Nat} {i : Instrument}
    (h : s.atRow? row = some i) : row ≠ 0 := by
  rintro rfl
  simp [atRow?, keyAt?, firstRow] at h

namespace Canvas

variable {c : Canvas} {s : Store} {v : View}

/-! ### One row of the pad -/

@[simp] lemma terminal_drawRow (c : Canvas) (i : Instrument) (v : View) (clearing : Bool) :
    (c.drawRow i v clearing).terminal = c.terminal := by
  rw [drawRow]
  split <;> rfl

@[simp] lemma capacity_drawRow (c : Canvas) (i : Instrument) (v : View) (clearing : Bool) :
    (c.drawRow i v clearing).capacity = c.capacity := by
  rw [drawRow]
  split
  · simp [capacity]
  · rfl

@[simp] lemma terminal_drawRowAt (c : Canvas) (row : Nat) (s : Store) (v : View)
    (clearing : Bool) : (c.drawRowAt row s v clearing).terminal = c.terminal := by
  rw [drawRowAt]
  split <;> simp

@[simp] lemma capacity_drawRowAt (c : Canvas) (row : Nat) (s : Store) (v : View)
    (clearing : Bool) : (c.drawRowAt row s v clearing).capacity = c.capacity := by
  rw [drawRowAt]
  split <;> simp

@[simp] lemma capacity_drawHeader (c : Canvas) (v : View) :
    (c.drawHeader v).capacity = c.capacity := by
  simp [drawHeader, capacity]

/-- Drawing an instrument changes its own row of the pad, if the pad has it, and no other. -/
lemma getElem?_drawRow (c : Canvas) (i : Instrument) (v : View) (clearing : Bool) (r : Nat) :
    (c.drawRow i v clearing).pad[r]? =
      if r = i.row ∧ r ≠ 0 ∧ r < c.capacity then
        some (i.line (!clearing && i.row = v.row) v.column)
      else c.pad[r]? := by
  rw [drawRow]
  by_cases hrow : c.hasRow i.row = true
  · obtain ⟨h0, hlt⟩ : i.row ≠ 0 ∧ i.row < c.capacity := by simpa [hasRow] using hrow
    rw [if_pos hrow]
    by_cases hr : r = i.row
    · subst hr
      rw [if_pos ⟨rfl, h0, hlt⟩]
      exact List.getElem?_set_self hlt
    · rw [if_neg (by tauto)]
      exact List.getElem?_set_ne (Ne.symm hr)
  · rw [if_neg hrow, if_neg]
    · rfl
    · rintro ⟨rfl, h0, hlt⟩
      simp [hasRow, h0, hlt] at hrow

/-- The row of a drawn instrument is its line. -/
lemma getElem?_drawRow_self (c : Canvas) {i : Instrument} (hrow : c.hasRow i.row = true) (v : View)
    (clearing : Bool) :
    (c.drawRow i v clearing).pad[i.row]? = some (i.line (!clearing && i.row = v.row) v.column) := by
  have hplace : i.row ≠ 0 ∧ i.row < c.capacity := by simpa [hasRow] using hrow
  rw [getElem?_drawRow, if_pos ⟨rfl, hplace⟩]

/-- Drawing the instrument at a row changes this row of the pad and no other. -/
lemma getElem?_drawRowAt (h : s.IsSound) (c : Canvas) (row : Nat) (v : View) (clearing : Bool)
    {r : Nat} (hr : r < c.capacity) :
    (c.drawRowAt row s v clearing).pad[r]? =
      if r = row then
        match s.atRow? row with
        | some i => some (i.line (!clearing && row = v.row) v.column)
        | none => c.pad[r]?
      else c.pad[r]? := by
  rw [drawRowAt]
  cases hi : s.atRow? row with
  | none => simp
  | some i =>
      obtain rfl := (h.get?_of_atRow? hi).2
      simp only [getElem?_drawRow]
      by_cases hrow : r = i.row
      · simp [hrow, Store.ne_zero_of_atRow? hi, hrow ▸ hr]
      · simp [hrow]

/-! ### The whole pad -/

/-- **The pad is drawn**: every row shows the line that it has to show. -/
def IsDrawn (c : Canvas) (s : Store) (v : View) : Prop :=
  ∀ r < c.capacity, c.pad[r]? = some (s.rowLine v r)

/-- A drawn pad is determined by store, view and number of rows. -/
lemma IsDrawn.pad_eq {c' : Canvas} (h : c.IsDrawn s v) (h' : c'.IsDrawn s v)
    (hcapacity : c.capacity = c'.capacity) : c.pad = c'.pad := by
  refine List.ext_getElem? fun r => ?_
  by_cases hr : r < c.capacity
  · rw [h r hr, h' r (hcapacity ▸ hr)]
  · have hr' : ¬ r < c'.capacity := hcapacity ▸ hr
    rw [List.getElem?_eq_none (Nat.not_lt.mp hr), List.getElem?_eq_none (Nat.not_lt.mp hr')]

/-- **Drawing one row mends it**: if all other rows show their lines, and this one too where it has no
instrument, then all rows do. -/
lemma isDrawn_drawRowAt (h : s.IsSound) {row : Nat}
    (hc : ∀ r < c.capacity, (r = row → s.atRow? r = none) →
      c.pad[r]? = some (s.rowLine v r)) :
    (c.drawRowAt row s v false).IsDrawn s v := by
  intro r hr
  rw [capacity_drawRowAt] at hr
  rw [getElem?_drawRowAt h c row v false hr]
  split
  · next hrow =>
    subst hrow
    cases hi : s.atRow? r with
    | none => exact hc r hr fun _ => hi
    | some i => simp [Store.rowLine_of_atRow? (Store.ne_zero_of_atRow? hi) hi]
  · next hrow => exact hc r hr fun hr' => absurd hr' hrow

/-- Drawing instruments one after another: the rows that are right already, or will be drawn, are
right in the end. -/
lemma isDrawn_foldl_drawRow (is : List Instrument) (his : ∀ i ∈ is, s.atRow? i.row = some i) :
    ∀ c : Canvas,
      (∀ r < c.capacity, (∀ i ∈ is, i.row ≠ r) → c.pad[r]? = some (s.rowLine v r)) →
        (is.foldl (fun c i => c.drawRow i v false) c).IsDrawn s v := by
  induction is with
  | nil => exact fun c hc r hr => hc r hr (by simp)
  | cons i is ih =>
      intro c hc
      have hi := his i List.mem_cons_self
      refine ih (fun j hj => his j (List.mem_cons_of_mem i hj)) _ fun r hr hrest => ?_
      rw [capacity_drawRow] at hr
      rw [getElem?_drawRow]
      by_cases hrow : r = i.row
      · subst hrow
        rw [Store.rowLine_of_atRow? (Store.ne_zero_of_atRow? hi) hi]
        simp [Store.ne_zero_of_atRow? hi, hr]
      · rw [if_neg (by tauto)]
        exact hc r hr (List.forall_mem_cons.mpr ⟨Ne.symm hrow, hrest⟩)

/-- What drawing one instrument keeps, drawing several keeps. -/
lemma foldl_drawRow_eq {α : Type} (f : Canvas → α)
    (hf : ∀ (c : Canvas) (i : Instrument), f (c.drawRow i v false) = f c) (is : List Instrument) :
    ∀ c : Canvas, f (is.foldl (fun c i => c.drawRow i v false) c) = f c := by
  induction is with
  | nil => exact fun _ => rfl
  | cons i is ih => exact fun c => (ih _).trans (hf c i)

@[simp] lemma terminal_drawAll (c : Canvas) (s : Store) (v : View) :
    (c.drawAll s v).terminal = c.terminal :=
  foldl_drawRow_eq Canvas.terminal (fun c i => terminal_drawRow c i v false) s.rows _

@[simp] lemma capacity_drawAll (c : Canvas) (s : Store) (v : View) :
    (c.drawAll s v).capacity = c.capacity := by
  have hrows := foldl_drawRow_eq capacity (fun c i => capacity_drawRow c i v false) s.rows
  exact (hrows (c.drawHeader v)).trans (capacity_drawHeader c v)

/-- **Drawing everything on a blank pad** gives every row its line. -/
lemma isDrawn_drawAll (h : s.IsSound) (hblank : c.pad = blankPad c.capacity) :
    (c.drawAll s v).IsDrawn s v := by
  refine isDrawn_foldl_drawRow _ (fun i hi => ?_) _ fun r hr hnone => ?_
  · exact h.atRow?_row (h.get?_of_mem ((h.mem_rows_iff i).mp hi))
  · rw [capacity_drawHeader] at hr
    have hat : s.atRow? r = none := by
      cases hi : s.atRow? r with
      | none => rfl
      | some i =>
          obtain ⟨hget, hrow⟩ := h.get?_of_atRow? hi
          exact absurd hrow (hnone i ((h.mem_rows_iff i).mpr (Store.mem_table_of_get? hget).1))
    by_cases h0 : r = 0
    · subst h0
      exact List.getElem?_set_self hr
    · rw [drawHeader, List.getElem?_set_ne (Ne.symm h0), hblank, blankPad,
        List.getElem?_replicate, if_pos hr, Store.rowLine_of_none h0 hat]

/-! ### The screen -/

/-- The frame that the screen has to show. -/
def frame (c : Canvas) (s : Store) (v : View) : Grid :=
  (c.window v s).compose
    (.blank c.terminal.device.shown.size.1 c.terminal.device.shown.size.2)

/-- **The canvas is current**: every row of the pad shows its line, and the screen shows the part that
is in sight. -/
structure IsCurrent (c : Canvas) (s : Store) (v : View) : Prop where
  drawn : c.IsDrawn s v
  shows : c.terminal.Shows (c.frame s v)

/-- Sending what is in sight touches the screen alone, which then shows it. -/
lemma refresh_shows (hready : c.terminal.IsReady) (hfaithful : c.terminal.IsFaithful)
    (s : Store) (v : View) :
    (c.refresh v s).pad = c.pad ∧
      (c.refresh v s).terminal.device.shown.size = c.terminal.device.shown.size ∧
      (c.refresh v s).terminal.Shows (c.frame s v) := by
  have hcompose : ∀ w hh, ((c.window v s).compose (.blank w hh)).IsRect ∧
      ((c.window v s).compose (.blank w hh)).size = (w, hh) := fun w hh =>
    ⟨Window.isRect_compose _ (Grid.isRect_blank w hh),
      (Window.size_compose _ _).trans (Grid.blank_size w hh)⟩
  obtain ⟨t, hdraw, hsize, hshows⟩ := hready.draw hfaithful hcompose
  rw [refresh, hdraw]
  exact ⟨rfl, hsize, hshows⟩

/-- **Sending a drawn pad makes the canvas current.** -/
lemma isCurrent_refresh (hready : c.terminal.IsReady) (hfaithful : c.terminal.IsFaithful)
    (hdrawn : c.IsDrawn s v) : (c.refresh v s).IsCurrent s v := by
  obtain ⟨hpad, hsize, hshows⟩ := refresh_shows hready hfaithful s v
  have hframe : (c.refresh v s).frame s v = c.frame s v := by
    rw [frame, frame, hsize, window, window, hpad]
  refine ⟨?_, hframe ▸ hshows⟩
  rw [IsDrawn, capacity]
  rw [hpad]
  exact hdrawn

lemma capacity_refresh (hready : c.terminal.IsReady) (hfaithful : c.terminal.IsFaithful)
    (s : Store) (v : View) : (c.refresh v s).capacity = c.capacity := by
  rw [capacity, (refresh_shows hready hfaithful s v).1]
  rfl

/-- Clearing the terminal blanks the screen, whatever it showed. -/
lemma clearTerminal_faithful (hready : c.terminal.IsReady) :
    c.clearTerminal.pad = c.pad ∧ c.clearTerminal.terminal.IsReady ∧
      c.clearTerminal.terminal.device.shown.size = c.terminal.device.shown.size ∧
      c.clearTerminal.terminal.IsFaithful := by
  obtain ⟨t, hclear, hready', -, hsize, hfaithful⟩ := hready.clear
  rw [clearTerminal, hclear]
  exact ⟨rfl, hready', hsize, hfaithful⟩

/-- **Drawing everything anew makes a canvas current**, whatever its pad and its screen showed. -/
lemma isCurrent_redraw (h : s.IsSound) (hready : c.terminal.IsReady) :
    (c.redraw s v).IsCurrent s v ∧ (c.redraw s v).capacity = c.capacity ∧
      (c.redraw s v).terminal.device.shown.size = c.terminal.device.shown.size := by
  have hready₁ : c.blankAll.terminal.IsReady := hready
  obtain ⟨hpad, hready₂, hsize, hfaithful⟩ := clearTerminal_faithful hready₁
  have hcapacity : c.blankAll.clearTerminal.capacity = c.capacity := by
    rw [capacity, hpad]
    simp [blankAll, blankPad]
  have hblank : c.blankAll.clearTerminal.pad = blankPad c.blankAll.clearTerminal.capacity := by
    rw [hpad, hcapacity]
    rfl
  have hready₃ : (c.blankAll.clearTerminal.drawAll s v).terminal.IsReady := by
    rwa [terminal_drawAll]
  have hfaithful₃ : (c.blankAll.clearTerminal.drawAll s v).terminal.IsFaithful := by
    rwa [terminal_drawAll]
  refine ⟨isCurrent_refresh hready₃ hfaithful₃ (isDrawn_drawAll h hblank), ?_, ?_⟩
  · rw [redraw, capacity_refresh hready₃ hfaithful₃, capacity_drawAll, hcapacity]
  · rw [redraw, (refresh_shows hready₃ hfaithful₃ s v).2.1, terminal_drawAll, hsize]
    rfl

end Canvas

end MarketBoard

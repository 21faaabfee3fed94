import MarketBoard.Proofs.Board.Run
import MarketBoard.Proofs.Canvas.Drawing

/-!
Drawing what has changed and drawing everything anew come to the same.

* `Board.IsCurrent`: pad and screen are as store and view have them.
* `Board.isCurrent_refresh`, `Board.isCurrent_redraw`: the two ways in which a board becomes current.
* `IsCurrent.receive`, `IsCurrent.obey`, `IsCurrent.deliver`: each keeps a board current, although
  only the rows that may have changed are drawn.
* `Board.run_eq_redraw`: after every run the board looks as if drawn anew.
-/

namespace MarketBoard.Board

/-- **The board is current**: its store is sound, pad and screen show what store and view say, and
the pad has a number of rows that a new pad may have. -/
structure IsCurrent (b : Board) : Prop where
  sound : b.store.IsSound
  current : b.canvas.IsCurrent b.store b.view
  rows : min (max b.canvas.capacity 2) 65535 = b.canvas.capacity

variable {b : Board}

/-- Sending what is in sight makes a board current, if its pad is drawn and its screen is still the
one of a current board. -/
lemma isCurrent_refresh {b' : Board} (h : b.IsCurrent) (hsound : b'.store.IsSound)
    (hterminal : b'.canvas.terminal = b.canvas.terminal)
    (hcapacity : b'.canvas.capacity = b.canvas.capacity)
    (hdrawn : b'.canvas.IsDrawn b'.store b'.view) : b'.refresh.IsCurrent := by
  have hready : b'.canvas.terminal.IsReady := hterminal ▸ h.current.shows.toIsReady
  have hfaithful : b'.canvas.terminal.IsFaithful := hterminal ▸ h.current.shows.isFaithful
  refine ⟨hsound, Canvas.isCurrent_refresh hready hfaithful hdrawn, ?_⟩
  rw [refresh, Canvas.capacity_refresh hready hfaithful, hcapacity]
  exact h.rows

/-- Drawing everything anew makes a board current, whatever its pad and its screen showed. -/
lemma isCurrent_redraw (hsound : b.store.IsSound) (hready : b.canvas.terminal.IsReady)
    (hrows : min (max b.canvas.capacity 2) 65535 = b.canvas.capacity) : b.redraw.IsCurrent := by
  obtain ⟨hcurrent, hcapacity, -⟩ := Canvas.isCurrent_redraw (v := b.view) hsound hready
  refine ⟨hsound, hcurrent, ?_⟩
  rw [redraw, hcapacity]
  exact hrows

namespace IsCurrent

/-! ### Messages and outcomes -/

/-- **A message**: only the row of its key has to be drawn. -/
lemma receive (h : b.IsCurrent) (m : Message) : (b.receive m).IsCurrent := by
  have hsound := h.sound.apply m
  have hrow := b.store.row_receive m
  obtain ⟨i, hi, hirow⟩ := Option.map_eq_some_iff.mp hrow
  have hat : (b.store.apply m).atRow? (b.store.receive m).1 = some i := hirow ▸ hsound.atRow?_row hi
  refine isCurrent_refresh h hsound (Canvas.terminal_drawRowAt _ _ _ _ _)
    (Canvas.capacity_drawRowAt _ _ _ _ _) (Canvas.isDrawn_drawRowAt hsound fun r hr hnone => ?_)
  have hne : (b.store.apply m).rowOf? m.key ≠ some r := by
    rw [hrow, Ne, Option.some.injEq]
    rintro rfl
    exact absurd (hat.symm.trans (hnone rfl)) (by simp)
  refine (h.current.drawn r hr).trans (congrArg some ?_)
  exact Store.rowLine_congr rfl (h.sound.atRow?_apply_of_ne hne).symm fun _ => Iff.rfl

/-- The box and the last failure are not on the pad. -/
lemma showOverlay (h : b.IsCurrent) (overlay : Overlay) (lastError : Option String)
    (journal : List Notice) :
    ({ b with
        canvas := { b.canvas with journal }
        view := { b.view with overlay, lastError } } : Board).refresh.IsCurrent :=
  isCurrent_refresh h h.sound rfl rfl h.current.drawn

/-- The outcome of a request changes the box. -/
lemma deliver (h : b.IsCurrent) (key : Key) (outcome : Except DepthError Book) :
    (b.deliver key outcome).IsCurrent := by
  unfold Board.deliver
  split
  · cases outcome with
    | ok book => exact h.showOverlay _ _ _
    | error cause => exact h.showOverlay _ _ _
  · exact h

/-! ### Commands -/

/-- **Moving to another row**: the row that is left loses its highlight, and the other one gets it. -/
lemma moveTo (h : b.IsCurrent) (row : Nat) : (b.moveTo row).IsCurrent := by
  rw [Board.moveTo]
  split
  · exact h
  · next hne =>
    refine isCurrent_refresh h h.sound ?_ ?_ (Canvas.isDrawn_drawRowAt h.sound fun r hr hnone => ?_)
    · exact (Canvas.terminal_drawRowAt _ _ _ _ _).trans (Canvas.terminal_drawRowAt _ _ _ _ _)
    · exact (Canvas.capacity_drawRowAt _ _ _ _ _).trans (Canvas.capacity_drawRowAt _ _ _ _ _)
    · have hr' : r < b.canvas.capacity := by rwa [drawRowAt, Canvas.capacity_drawRowAt] at hr
      have hold := h.current.drawn r hr'
      show (b.canvas.drawRowAt b.view.row b.store b.view true).pad[r]? = _
      rw [Canvas.getElem?_drawRowAt h.sound _ _ _ _ hr']
      by_cases hleft : r = b.view.row
      · subst hleft
        rw [if_pos rfl]
        cases hi : b.store.atRow? b.view.row with
        | none =>
            refine hold.trans (congrArg some (Store.rowLine_congr rfl rfl fun hsome => ?_))
            exact absurd hi hsome
        | some i =>
            rw [Store.rowLine_of_atRow? (Store.ne_zero_of_atRow? hi) hi, decide_eq_false (Ne.symm hne)]
            rfl
      · rw [if_neg hleft]
        refine hold.trans (congrArg some (Store.rowLine_congr rfl rfl fun hsome => ?_))
        exact ⟨fun hr => absurd hr hleft, fun hr => absurd (hnone hr) hsome⟩

/-- **Moving to another column**: the header and the row of the cursor show in which column it is. -/
lemma moveToColumn (h : b.IsCurrent) (column : Nat) : (b.moveToColumn column).IsCurrent := by
  refine isCurrent_refresh h h.sound (Canvas.terminal_drawRowAt _ _ _ _ _) ?_
    (Canvas.isDrawn_drawRowAt h.sound fun r hr hnone => ?_)
  · exact (Canvas.capacity_drawRowAt _ _ _ _ _).trans (Canvas.capacity_drawHeader _ _)
  · have hr' : r < b.canvas.capacity := by rwa [drawHeader, Canvas.capacity_drawHeader] at hr
    have hold := h.current.drawn r hr'
    show (b.canvas.pad.set 0 (headerLine column))[r]? = _
    by_cases h0 : r = 0
    · subst h0
      exact List.getElem?_set_self hr'
    · rw [List.getElem?_set_ne (Ne.symm h0), hold]
      refine congrArg some ?_
      by_cases hcursor : r = b.view.row
      · rw [Store.rowLine_of_none h0 (hnone hcursor), Store.rowLine_of_none h0 (hnone hcursor)]
      · exact Store.rowLine_congr_of_ne h0 hcursor hcursor

/-- Sorting draws everything anew. -/
lemma sort (h : b.IsCurrent) (descending : Bool) : (b.sort descending).IsCurrent :=
  isCurrent_redraw (h.sound.sort descending) h.current.shows.toIsReady h.rows

/-- Turning the mark changes the row of the cursor. -/
lemma toggleMark (h : b.IsCurrent) : b.toggleMark.IsCurrent := by
  rw [toggleMark_eq]
  split
  · exact h
  · next i hi =>
    have hsound := h.sound.toggleMark b.view.row
    refine isCurrent_refresh h hsound (Canvas.terminal_drawRowAt _ _ _ _ _)
      (Canvas.capacity_drawRowAt _ _ _ _ _) (Canvas.isDrawn_drawRowAt hsound fun r hr hnone => ?_)
    have hne : r ≠ b.view.row := by
      rintro rfl
      exact absurd ((Store.atRow?_toggleMark _ _).symm.trans (hnone rfl)) (by simp [hi])
    refine (h.current.drawn r hr).trans (congrArg some ?_)
    exact Store.rowLine_congr rfl (h.sound.atRow?_toggleMark_of_ne hne).symm fun _ => Iff.rfl

/-- Closing the box draws everything anew; opening it changes nothing on the pad. -/
lemma toggleDepth (h : b.IsCurrent) : b.toggleDepth.2.IsCurrent := by
  rw [Board.toggleDepth]
  split
  · exact isCurrent_redraw h.sound h.current.shows.toIsReady h.rows
  · split
    · exact h
    · exact h.showOverlay _ _ _

end IsCurrent

/-- **Following the size of the terminal** makes a board current, even if the size has changed
already: everything is drawn anew. -/
lemma isCurrent_resize (hsound : b.store.IsSound) (hready : b.canvas.terminal.IsReady)
    (hrows : min (max b.canvas.capacity 2) 65535 = b.canvas.capacity) : b.resize.IsCurrent := by
  obtain ⟨t₁, hfollow, hready₁, -⟩ := hready.follow
  obtain ⟨t₂, hsize, hready₂, -⟩ := hready₁.size
  rw [resize, Canvas.resize, hfollow]
  simp only [Canvas.size, hsize]
  exact isCurrent_redraw hsound hready₂ hrows

namespace IsCurrent

/-- **Every command keeps a board current.** -/
lemma obey (h : b.IsCurrent) (c : Command) : (b.obey c).2.IsCurrent :=
  obey_induction c h (fun _ => h.toggleDepth) h.sort h.toggleMark h.moveTo h.moveToColumn
    (isCurrent_resize h.sound h.current.shows.toIsReady h.rows)

/-! ### Runs -/

lemma step (h : b.IsCurrent) (t : Step) : (b.step t).IsCurrent := by
  cases t with
  | message m => exact h.receive m
  | command c => exact h.obey c
  | outcome key result => exact h.deliver key result
  | resized width height =>
      exact isCurrent_resize h.sound (h.current.shows.toIsReady.resize width height) h.rows

lemma run (h : b.IsCurrent) (steps : List Step) : (b.run steps).IsCurrent := by
  induction steps generalizing b with
  | nil => exact h
  | cons t rest ih => exact ih (h.step t)

end IsCurrent

/-- A new board is current once it has been drawn. -/
lemma isCurrent_opened {d : Device} (hd : d.Works) (rows : Nat) (policy : Recoloring) :
    (opened d rows policy).IsCurrent := by
  obtain ⟨t, hsize, hready, -⟩ := (Terminal.isReady_ofDevice hd).size
  rw [opened, ofCanvas, Canvas.size, Canvas.ofTerminal, hsize]
  refine isCurrent_redraw (Store.isSound_empty policy) hready ?_
  simp only [Canvas.capacity, Canvas.blankPad, List.length_replicate]
  omega

/-- Store and view of a board, drawn by a new canvas with as many rows on another device. -/
def redrawnOn (b : Board) (d : Device) : Canvas :=
  (Canvas.ofTerminal (.ofDevice d) b.canvas.capacity).redraw b.store b.view

/-- **Drawing what has changed agrees with drawing everything anew.**
After every run of a board on a device that works, its rows are those of a new pad with as many rows
on which everything is drawn anew, and so is what was sent last to a screen of this size. The two
screens have the same cells, with two exceptions, both cells that are never sent: the other half of a
wide symbol, and the first cell of a line where the line before ends in a wide symbol whose other half
was cut off. -/
theorem run_eq_redraw (d : Device) (hd : d.Works) (rows : Nat) (policy : Recoloring)
    (steps : List Step) :
    let b := (opened d rows policy).run steps
    ∀ d' : Device, d'.Works → d'.shown.size = b.canvas.terminal.device.shown.size →
      let c := b.redrawnOn d'
      b.canvas.pad = c.pad ∧ b.canvas.terminal.sent = c.terminal.sent ∧
        b.canvas.terminal.device.shown.size = c.terminal.device.shown.size ∧
        ∀ x y, b.canvas.terminal.sent.isBehindWide x y = false →
          b.canvas.terminal.sent.isBehindCut x y = false →
            b.canvas.terminal.device.shown.cell? x y = c.terminal.device.shown.cell? x y := by
  intro b d' hd' hsize c
  have h : b.IsCurrent := (isCurrent_opened hd rows policy).run steps
  obtain ⟨hc, hcapacity, hshown⟩ := Canvas.isCurrent_redraw (c := .ofTerminal (.ofDevice d')
    b.canvas.capacity) (v := b.view) h.sound (Terminal.isReady_ofDevice hd')
  have hcapacity' : b.canvas.capacity = c.capacity := by
    rw [show c.capacity = _ from hcapacity]
    simp only [Canvas.ofTerminal, Canvas.capacity, Canvas.blankPad, List.length_replicate]
    exact h.rows.symm
  have hpad : b.canvas.pad = c.pad := h.current.drawn.pad_eq hc.drawn hcapacity'
  have hsame : b.canvas.terminal.device.shown.size = c.terminal.device.shown.size :=
    hsize.symm.trans hshown.symm
  have hframe : b.canvas.frame b.store b.view = c.frame b.store b.view := by
    rw [Canvas.frame, Canvas.frame, Canvas.window, Canvas.window, hpad, hsame]
  have hsent : b.canvas.terminal.sent = c.terminal.sent := by
    rw [h.current.shows.sent_eq, hframe]
    exact hc.shows.sent_eq.symm
  refine ⟨hpad, hsent, hsame, fun x y hwide hcut => ?_⟩
  have hxy : (b.canvas.frame b.store b.view).isCovered x y = false := by
    rw [← h.current.shows.sent_eq, Grid.isCovered, hwide, hcut]
    rfl
  calc b.canvas.terminal.device.shown.cell? x y
      = (b.canvas.frame b.store b.view).cell? x y := h.current.shows.cell?_eq hxy
    _ = (c.frame b.store b.view).cell? x y := by rw [hframe]
    _ = c.terminal.device.shown.cell? x y := (hc.shows.cell?_eq (hframe ▸ hxy)).symm

/-- A trade, a step down to its row, a mark and a new size of the screen: the board agrees with one that
is drawn anew on a blank screen of the new size. -/
theorem run_eq_redraw_trade :
    let b := (opened (.blank 20 5) 3 .trades).run
      [.message (.trade ⟨⟨"A", 1⟩, 5, 7⟩), .command .down, .command .toggleMark, .resized 30 4]
    (Device.blank 20 5).Works ∧ (Device.blank 30 4).Works ∧
      (Device.blank 30 4).shown.size = b.canvas.terminal.device.shown.size ∧
      b.canvas.pad = (b.redrawnOn (.blank 30 4)).pad := by
  have hworks : ∀ w h, (Device.blank w h).Works := fun _ _ _ _ => rfl
  refine ⟨hworks 20 5, hworks 30 4, by decide +kernel, ?_⟩
  exact (run_eq_redraw (.blank 20 5) (hworks 20 5) 3 .trades _ (.blank 30 4) (hworks 30 4)
    (by decide +kernel)).1

-- on a screen of one column a label that begins with a wide symbol is cut off in the middle of it
example :
    let b := (opened (.blank 1 4) 3 .trades).run [.message (.trade ⟨⟨"一", 1⟩, 5, 7⟩)]
    b.canvas.terminal.sent.isBehindCut 0 2 = true ∧
      b.canvas.terminal.sent.isBehindWide 0 2 = false := by
  decide +kernel

end MarketBoard.Board

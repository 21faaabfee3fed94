import MarketBoard.Proofs.Board.Failures
import MarketBoard.Proofs.Board.Market
import MarketBoard.Proofs.Board.Redraw
import MarketBoard.Proofs.Screen.Leftover

/-!
A board whose terminal works again after some of its calls have failed.

* `Board.LooksNew`: the board looks as if drawn anew by a new canvas.
* `Board.redraws`: the inputs after which everything is drawn anew.
* `Board.shows_put`: the first of them puts the frame together over what is left of earlier ones.
* `Board.recovers`: from the second of them on the board looks new; already after the first if the
  frame covers what is left. `Board.leftover_stays`: it need not.
-/

namespace MarketBoard

namespace Canvas

variable {c : Canvas}

/-- Drawing everything anew draws the whole pad, whatever the terminal does. -/
lemma isDrawn_redraw {s : Store} (h : s.IsSound) (c : Canvas) (v : View) :
    (c.redraw s v).IsDrawn s v := by
  have hblank : c.blankAll.clearTerminal.pad = blankPad c.blankAll.clearTerminal.capacity := by
    rw [capacity, pad_clearTerminal]
    simp [blankAll, blankPad]
  rw [IsDrawn, capacity, pad_redraw]
  exact isDrawn_drawAll h hblank

/-- **Drawing everything anew on a terminal that works again** shows the frame, put together over what
is left of earlier ones. -/
lemma redraw_shows (h : c.terminal.IsMended) (s : Store) (v : View) :
    (c.redraw s v).terminal.Shows (((c.redraw s v).window v s).compose c.terminal.leftover) := by
  obtain ⟨t₁, hclear, h₁, hwiped, -, hwork, hshown⟩ := h.clear
  have hterminal : (c.blankAll.clearTerminal.drawAll s v).terminal = t₁ := by
    rw [terminal_drawAll, clearTerminal, show c.blankAll.terminal.clear = _ from hclear]
  obtain ⟨t₂, hdraw, -, hshows⟩ := h₁.draw hwiped ((c.blankAll.clearTerminal.drawAll s v).window v s)
  have hredraw : (c.redraw s v).terminal = t₂ := by
    rw [redraw, terminal_refresh, hterminal, hdraw]
  have hwindow : (c.redraw s v).window v s = (c.blankAll.clearTerminal.drawAll s v).window v s := by
    rw [window, window, pad_redraw]
  have hleft : t₁.leftover = c.terminal.leftover := by
    rw [Terminal.leftover, Terminal.leftover, hwork, hshown]
  rw [hredraw, hwindow, ← hleft]
  exact hshows

/-- Following the size keeps what is left. -/
lemma resize_mended (h : c.terminal.IsMended) :
    c.resize.2.terminal.IsMended ∧ c.resize.2.terminal.leftover = c.terminal.leftover := by
  obtain ⟨t₁, hfollow, h₁, -, hscreen, hwork, -⟩ := h.follow
  obtain ⟨t₂, hsize, h₂, -, hwork₂, hshown, -⟩ := h₁.size
  have hleft : t₂.leftover = c.terminal.leftover := by
    have hrect : c.terminal.leftover.IsRect := Grid.isRect_reflow _ _ _
    have hsize : c.terminal.leftover.size = t₂.device.shown.size := by
      rw [hshown, hscreen]
      exact Grid.size_reflow _ _ _
    rw [Terminal.leftover, hwork₂, hwork, ← hsize, Grid.reflow_size hrect]
  rw [resize, hfollow]
  simp only [size, hsize]
  exact ⟨h₂, hleft⟩

end Canvas

namespace Board

variable {b : Board}

/-! ### Looking new -/

/-- **The board looks as if drawn anew** by a new canvas with as many rows, on any device of this size
that works: the same pad, and the same cells on the screen. The cells that are never sent, those in the
place of the other half of a wide symbol, may differ. -/
def LooksNew (b : Board) : Prop :=
  ∀ d : Device, d.Works → d.shown.size = b.outside.1 →
    b.canvas.pad = (b.redrawnOn d).pad ∧
      ∀ x y, (b.redrawnOn d).terminal.sent.isCovered x y = false →
        b.canvas.terminal.device.shown.cell? x y =
          (b.redrawnOn d).terminal.device.shown.cell? x y

/-- A board that is current looks new. -/
lemma IsCurrent.looksNew (h : b.IsCurrent) : b.LooksNew := by
  intro d hd hsize
  obtain ⟨hnew, hcapacity, hshown⟩ := Canvas.isCurrent_redraw
    (c := .ofTerminal (.ofDevice d) b.canvas.capacity) (v := b.view) h.sound
    (Terminal.isReady_ofDevice hd)
  have hrows : b.canvas.capacity = (b.redrawnOn d).capacity := by
    rw [show (b.redrawnOn d).capacity = _ from hcapacity]
    simp only [Canvas.ofTerminal, Canvas.capacity, Canvas.blankPad, List.length_replicate]
    exact h.rows.symm
  have hpad : b.canvas.pad = (b.redrawnOn d).pad := h.current.drawn.pad_eq hnew.drawn hrows
  have hscreen : b.canvas.terminal.device.shown.size =
      (b.redrawnOn d).terminal.device.shown.size := hsize.symm.trans hshown.symm
  have hframe : b.canvas.frame b.store b.view = (b.redrawnOn d).frame b.store b.view := by
    rw [Canvas.frame, Canvas.frame, Canvas.window, Canvas.window, hpad, hscreen]
  refine ⟨hpad, fun x y hxy => ?_⟩
  rw [show (b.redrawnOn d).terminal.sent = _ from hnew.shows.sent_eq] at hxy
  calc b.canvas.terminal.device.shown.cell? x y
      = (b.canvas.frame b.store b.view).cell? x y :=
        h.current.shows.cell?_eq (by rw [hframe]; exact hxy)
    _ = ((b.redrawnOn d).frame b.store b.view).cell? x y := by rw [hframe]
    _ = (b.redrawnOn d).terminal.device.shown.cell? x y := (hnew.shows.cell?_eq hxy).symm

/-! ### Drawing everything anew -/

/-- The input after which everything is drawn anew. -/
def redraws (b : Board) : Input → Bool
  | .start => true
  | .command .sortAscending => true
  | .command .sortDescending => true
  | .command .resize => true
  | .command .toggleDepth => b.view.overlay.isOpen
  | _ => false

/-- Everything is drawn anew on the canvas as it was, or after it has followed the size. -/
lemma canvas_put_of_redraws {i : Input} (h : b.redraws i = true) :
    ∃ c, (c = b.canvas ∨ c = b.canvas.resize.2) ∧
      (b.put i).2.canvas = c.redraw (b.put i).2.store (b.put i).2.view := by
  cases i with
  | start => exact ⟨_, .inl rfl, rfl⟩
  | command c =>
      cases c with
      | sortAscending | sortDescending => exact ⟨_, .inl rfl, rfl⟩
      | resize => exact ⟨_, .inr rfl, rfl⟩
      | toggleDepth =>
          have hopen : b.view.overlay.isOpen = true := h
          refine ⟨b.canvas, .inl rfl, ?_⟩
          rw [put, obey, toggleDepth, if_pos hopen]
          rfl
      | _ => simp [redraws] at h
  | _ => simp [redraws] at h

/-! ### Histories -/

/-- From now on no call of the terminal fails. -/
def mended (b : Board) : Board := b.withFaults fun _ _ => none

/-- **What holds in every history**, whichever calls of the terminal fail. -/
structure IsRegular (b : Board) : Prop where
  sound : b.store.IsSound
  framed : b.canvas.terminal.IsFramed
  rows : min (max b.canvas.capacity 2) 65535 = b.canvas.capacity

lemma isRegular_ofCanvas (d : Device) (rows : Nat) (policy : Recoloring) :
    (ofCanvas (.ofTerminal (.ofDevice d) rows) policy).IsRegular where
  sound := Store.isSound_empty policy
  framed := (Canvas.isKept_terminal Terminal.isKept_isFramed).size
    (c := .ofTerminal (.ofDevice d) rows) (Terminal.isFramed_ofDevice d)
  rows := by
    rw [show (ofCanvas (.ofTerminal (.ofDevice d) rows) policy).canvas.capacity = _ from
      (Canvas.isKept_capacity _).size (c := .ofTerminal (.ofDevice d) rows) rfl]
    simp only [Canvas.ofTerminal, Canvas.capacity, Canvas.blankPad, List.length_replicate]
    omega

namespace IsRegular

lemma put (h : b.IsRegular) (i : Input) : (b.put i).2.IsRegular where
  sound := by
    obtain ⟨more, hmore⟩ := b.store_put i
    rw [hmore]
    exact h.sound.run more
  framed := put_of_isKept (Canvas.isKept_terminal Terminal.isKept_isFramed) h.framed
    fun _ _ _ => ⟨h.framed.work, h.framed.sent, h.framed.sizes⟩
  rows := by
    rw [put_of_isKept (Canvas.isKept_capacity b.canvas.capacity) rfl fun _ _ _ => rfl]
    exact h.rows

lemma after (h : b.IsRegular) (inputs : List Input) : (b.after inputs).IsRegular :=
  after_induction (fun _ i h => h.put i) h inputs

lemma mended (h : b.IsRegular) : b.mended.IsRegular :=
  ⟨h.sound, ⟨h.framed.work, h.framed.sent, h.framed.sizes⟩, h.rows⟩

/-- What is drawn anew is drawn on the whole pad. -/
lemma isDrawn_put (h : b.IsRegular) {i : Input} (hi : b.redraws i = true) :
    (b.put i).2.canvas.IsDrawn (b.put i).2.store (b.put i).2.view := by
  obtain ⟨c, -, hcanvas⟩ := canvas_put_of_redraws hi
  rw [hcanvas]
  exact Canvas.isDrawn_redraw (h.put i).sound c _

/-- Drawing everything anew makes a board current where nothing is left of earlier frames. -/
lemma isCurrent_put (h : b.IsRegular) (hready : b.canvas.terminal.IsReady) {i : Input}
    (hi : b.redraws i = true) : (b.put i).2.IsCurrent := by
  obtain ⟨c, hc, hcanvas⟩ := canvas_put_of_redraws hi
  have hready' : c.terminal.IsReady := by
    obtain rfl | rfl := hc
    · exact hready
    · exact (Canvas.isKept_terminal Terminal.isKept_isReady).resize hready
  refine ⟨(h.put i).sound, ?_, (h.put i).rows⟩
  rw [hcanvas]
  exact (Canvas.isCurrent_redraw (h.put i).sound hready').1

end IsRegular

/-- **The first time that everything is drawn anew on a terminal that works again**, the frame is put
together over what is left of earlier ones. -/
lemma shows_put (h : b.canvas.terminal.IsMended) {i : Input} (hi : b.redraws i = true) :
    (b.put i).2.canvas.terminal.Shows
      (((b.put i).2.canvas.window (b.put i).2.view (b.put i).2.store).compose
        b.canvas.terminal.leftover) := by
  obtain ⟨c, hc, hcanvas⟩ := canvas_put_of_redraws hi
  obtain ⟨hmended, hleft⟩ : c.terminal.IsMended ∧ c.terminal.leftover = b.canvas.terminal.leftover := by
    obtain rfl | rfl := hc
    · exact ⟨h, rfl⟩
    · exact Canvas.resize_mended h
  rw [hcanvas, ← hleft]
  exact Canvas.redraw_shows hmended _ _

/-- A terminal that is ready stays so whatever reaches the board. -/
lemma isReady_after (h : b.canvas.terminal.IsReady) (inputs : List Input) :
    (b.after inputs).canvas.terminal.IsReady :=
  after_induction (P := fun b => b.canvas.terminal.IsReady)
    (fun _ _ h => put_of_isKept (Canvas.isKept_terminal Terminal.isKept_isReady) h
      fun width height _ => h.resize width height) h inputs

/-- **The screen recovers from failed draws with the second frame.**
Any calls of the terminal fail in any history of a board, and none fails from then on. The next time
that everything is drawn anew the screen shows the frame, put together over what is left of frames that
could not be sent; it looks new if this makes no difference to the frame. Each later time the board
looks new, and it goes on looking new. -/
theorem recovers (d : Device) (rows : Nat) (policy : Recoloring) (history : List Input) :
    let b := ((ofCanvas (.ofTerminal (.ofDevice d) rows) policy).after history).mended
    b.canvas.terminal.InStep → ∀ i, b.redraws i = true →
      let first := (b.put i).2
      let frame := (first.canvas.window first.view first.store).compose b.canvas.terminal.leftover
      first.canvas.terminal.Shows frame ∧
        (frame = first.canvas.frame first.store first.view → first.LooksNew) ∧
        ∀ more j, (first.after more).redraws j = true →
          ∀ steps, (((first.after more).put j).2.run steps).LooksNew := by
  intro b hstep i hi first frame
  have hregular : b.IsRegular := ((isRegular_ofCanvas d rows policy).after history).mended
  have hmended : b.canvas.terminal.IsMended := ⟨hregular.framed, fun _ _ => rfl, hstep⟩
  have hshows : first.canvas.terminal.Shows frame := shows_put hmended hi
  refine ⟨hshows, fun hframe => ?_, fun more j hj steps => ?_⟩
  · have hcurrent : first.canvas.IsCurrent first.store first.view :=
      ⟨hregular.isDrawn_put hi, hframe ▸ hshows⟩
    exact IsCurrent.looksNew ⟨(hregular.put i).sound, hcurrent, (hregular.put i).rows⟩
  · have hready := isReady_after hshows.toIsReady more
    have hcurrent := ((hregular.put i).after more).isCurrent_put hready hj
    exact (hcurrent.run steps).looksNew

/-- Sorting after a frame that could not be sent: it looks new when it is done once more. -/
theorem recovers_sorted_again :
    let d : Device := { Device.blank 50 3 with
      fault := fun calls c => if c = .draw ∧ 3 < calls then some "broken" else none }
    let b := ((ofCanvas (.ofTerminal (.ofDevice d) 3) .trades).after
      [.start, .command .sortDescending]).mended
    let sort : Input := .command .sortAscending
    b.canvas.terminal.InStep ∧ b.redraws sort = true ∧ ((b.put sort).2.put sort).2.LooksNew := by
  intro d b sort
  have hstep : b.canvas.terminal.InStep := fun _ => by decide +kernel
  obtain ⟨-, -, hsecond⟩ := recovers d 3 .trades [.start, .command .sortDescending] hstep sort rfl
  exact ⟨hstep, rfl, hsecond [] sort rfl []⟩

/-- **The first redraw need not look new**: sorting is shown by a shorter status than the one of the
frame that could not be sent, and the end of the longer one stays on the screen. -/
theorem leftover_stays :
    let d : Device := { Device.blank 50 3 with
      fault := fun calls c => if c = .draw ∧ 3 < calls then some "broken" else none }
    let b := ((ofCanvas (.ofTerminal (.ofDevice d) 3) .trades).after
      [.start, .command .sortDescending]).mended
    let first := (b.put (.command .sortAscending)).2
    b.redraws (.command .sortAscending) = true ∧ first.view.size = first.outside.1 ∧
      ¬ first.LooksNew := by
  intro d b first
  have hchecked : first.view.size = first.outside.1 ∧ (50, 3) = first.outside.1 ∧
      (first.redrawnOn (.blank 50 3)).terminal.sent.isCovered 49 2 = false ∧
      first.canvas.terminal.device.shown.cell? 49 2 ≠
        (first.redrawnOn (.blank 50 3)).terminal.device.shown.cell? 49 2 := by
    decide +kernel
  obtain ⟨hsize, hscreen, hcovered, hcell⟩ := hchecked
  exact ⟨rfl, hsize, fun hnew => hcell ((hnew (.blank 50 3) (fun _ _ => rfl) hscreen).2 49 2 hcovered)⟩

end Board

end MarketBoard

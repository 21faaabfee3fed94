import MarketBoard.Proofs.Board.Run
import MarketBoard.Proofs.Canvas.Failures

/-!
A board and its terminal, whether the calls of the terminal fail or not.

* `Board.put_of_isKept`: what every drawing on a canvas keeps, every input keeps.
* `Board.outside`, `Board.outside_put`: the size of the screen is in the hands of the user, and so is
  which calls fail.
* `View.size`, `Board.size_put`: the view takes another size by one command only.
-/

namespace MarketBoard

/-- The size of the screen as a view has it. -/
def View.size (v : View) : Nat × Nat := (v.width, v.height)

namespace Board

/-! ### The canvas -/

section Kept

variable {Q : Canvas → Prop} {b : Board}

lemma toggleDepth_of_isKept (hQ : Canvas.IsKept Q) (h : Q b.canvas) : Q b.toggleDepth.2.canvas := by
  rw [toggleDepth]
  split
  · exact hQ.redraw _ _ h
  · split
    · exact h
    · exact hQ.refresh _ _ h

lemma toggleMark_of_isKept (hQ : Canvas.IsKept Q) (h : Q b.canvas) : Q b.toggleMark.canvas := by
  rw [toggleMark_eq]
  split
  · exact h
  · exact hQ.refresh _ _ (hQ.drawRowAt _ _ _ _ h)

lemma moveTo_of_isKept (hQ : Canvas.IsKept Q) (h : Q b.canvas) (row : Nat) :
    Q (b.moveTo row).canvas := by
  rw [moveTo]
  split
  · exact h
  · exact hQ.refresh _ _ (hQ.drawRowAt _ _ _ _ (hQ.drawRowAt _ _ _ _ h))

lemma moveToColumn_of_isKept (hQ : Canvas.IsKept Q) (h : Q b.canvas) (column : Nat) :
    Q (b.moveToColumn column).canvas :=
  hQ.refresh _ _ (hQ.drawRowAt _ _ _ _ (hQ.drawHeader _ h))

lemma resize_of_isKept (hQ : Canvas.IsKept Q) (h : Q b.canvas) : Q b.resize.canvas :=
  hQ.redraw _ _ (hQ.resize h)

lemma deliver_of_isKept (hQ : Canvas.IsKept Q) (h : Q b.canvas) (key : Key)
    (outcome : Except DepthError Book) : Q (b.deliver key outcome).canvas := by
  unfold deliver
  split
  · cases outcome with
    | ok book => exact hQ.refresh _ _ h
    | error cause => exact hQ.refresh _ _ (hQ.note _ h)
  · exact h

/-- What every drawing keeps, every command keeps. -/
lemma obey_of_isKept (hQ : Canvas.IsKept Q) (h : Q b.canvas) (c : Command) : Q (b.obey c).2.canvas :=
  obey_induction (P := fun b' => Q b'.canvas) c h (fun _ => toggleDepth_of_isKept hQ h)
    (fun _ => hQ.redraw _ _ h) (toggleMark_of_isKept hQ h) (moveTo_of_isKept hQ h)
    (moveToColumn_of_isKept hQ h) (resize_of_isKept hQ h)

/-- **What every drawing keeps, every input keeps**, if a new size of the terminal does. -/
lemma put_of_isKept (hQ : Canvas.IsKept Q) (h : Q b.canvas) {i : Input}
    (hi : ∀ width height, i = .resizeTerminal width height →
      Q (b.resizeTerminal width height).canvas) : Q (b.put i).2.canvas := by
  cases i with
  | start => exact hQ.redraw _ _ h
  | message m => exact hQ.refresh _ _ (hQ.drawRowAt _ _ _ _ h)
  | command c => exact obey_of_isKept hQ h c
  | outcome key result => exact deliver_of_isKept hQ h key result
  | resizeTerminal width height => exact hi width height rfl

end Kept

/-! ### The size of the screen -/

/-- The size of the screen, and which calls of the terminal fail. -/
def outside (b : Board) : (Nat × Nat) × (Nat → Call → Option String) :=
  b.canvas.terminal.device.outside

/-- **Only the user changes the size of the screen**, and no input changes which calls fail. -/
lemma outside_put (b : Board) (i : Input) :
    (b.put i).2.outside =
      match i with
      | .resizeTerminal width height => (Device.fitted width height, b.outside.2)
      | _ => b.outside := by
  cases i with
  | resizeTerminal width height => exact Prod.ext (Grid.size_reflow _ _ _) rfl
  | start | message | command | outcome =>
      exact put_of_isKept (Canvas.isKept_terminal (Terminal.isKept_outside b.outside)) rfl
        (fun _ _ h => by cases h)

/-- A terminal that works goes on working. -/
lemma works_after {b : Board} (h : b.canvas.terminal.device.Works) (inputs : List Input) :
    (b.after inputs).canvas.terminal.device.Works := by
  refine after_induction (P := fun b => b.canvas.terminal.device.Works) (fun b i h => ?_) h inputs
  have hfault : (b.put i).2.outside.2 = b.outside.2 := by
    rw [outside_put]
    cases i <;> rfl
  exact fun calls c => (congrFun (congrFun hfault calls) c).trans (h calls c)

/-- Two screens of one size keep having one size. -/
lemma screen_after {b b' : Board} (h : b.outside.1 = b'.outside.1) (inputs : List Input) :
    (b.after inputs).outside.1 = (b'.after inputs).outside.1 := by
  induction inputs generalizing b b' with
  | nil => exact h
  | cons i rest ih =>
      refine ih ?_
      rw [outside_put, outside_put]
      cases i with
      | resizeTerminal width height => rfl
      | start | message | command | outcome => exact h

/-! ### The size in the view -/

lemma size_moveTo (b : Board) (row : Nat) : (b.moveTo row).view.size = b.view.size := by
  rw [moveTo]
  split <;> rfl

lemma size_toggleMark (b : Board) : b.toggleMark.view.size = b.view.size := by
  rw [toggleMark_eq]
  split <;> rfl

lemma size_toggleDepth (b : Board) : b.toggleDepth.2.view.size = b.view.size := by
  rw [toggleDepth]
  split
  · rfl
  · split <;> rfl

/-- No command but its own gives the view another size. -/
lemma size_obey (b : Board) {c : Command} (hc : c ≠ .resize) :
    (b.obey c).2.view.size = b.view.size := by
  cases c with
  | resize => exact absurd rfl hc
  | quit => rfl
  | toggleDepth => exact b.size_toggleDepth
  | sortAscending | sortDescending => rfl
  | toggleMark => exact b.size_toggleMark
  | up | down | top | bottom =>
      rw [obey]
      split <;> first | exact b.size_moveTo _ | rfl
  | left | right =>
      rw [obey]
      split <;> rfl

/-- No input but that command gives the view another size. -/
lemma size_put (b : Board) {i : Input} (hi : i ≠ .command .resize) :
    (b.put i).2.view.size = b.view.size := by
  cases i with
  | start => rfl
  | message m => rfl
  | command c => exact b.size_obey fun hc => hi (hc ▸ rfl)
  | outcome key result =>
      rw [put]
      unfold deliver
      split
      · cases result <;> rfl
      · rfl
  | resizeTerminal width height => rfl

end Board

end MarketBoard

import MarketBoard.Proofs.Board.Run

/-!
What becomes of the view when something happens to a board.

* Drawing leaves the view alone; `Board.view_receive` and its like: what each change of a board changes
  in its view, and that the rest of it stays.
* `Board.messages_receive`, `Board.messages_obey`, `Board.messages_deliver`: only messages are counted.
-/

namespace MarketBoard.Board

/-! ### Drawing -/

@[simp] lemma view_refresh (b : Board) : b.refresh.view = b.view := rfl

@[simp] lemma view_redraw (b : Board) : b.redraw.view = b.view := rfl

@[simp] lemma view_drawHeader (b : Board) : b.drawHeader.view = b.view := rfl

@[simp] lemma view_drawRowAt (b : Board) (row : Nat) (clearing : Bool) :
    (b.drawRowAt row clearing).view = b.view := rfl

/-- The first drawing leaves the view alone. -/
@[simp] lemma view_start (b : Board) : b.start.view = b.view := rfl

/-! ### Changes of the board -/

/-- A message is counted. -/
@[simp] lemma view_receive (b : Board) (m : Message) :
    (b.receive m).view = { b.view with messages := b.view.messages + 1 } := rfl

/-- Moving to another row changes the row of the cursor. -/
@[simp] lemma view_moveTo (b : Board) (row : Nat) : (b.moveTo row).view = { b.view with row } := by
  rw [moveTo]
  split
  · next h => rw [h]
  · rfl

/-- Moving to another column changes the column of the cursor. -/
@[simp] lemma view_moveToColumn (b : Board) (column : Nat) :
    (b.moveToColumn column).view = { b.view with column } := rfl

/-- Sorting changes the order of the table. -/
@[simp] lemma view_sort (b : Board) (descending : Bool) :
    (b.sort descending).view =
      { b.view with sort := if descending then .descending else .ascending } := rfl

/-- A mark is not part of the view. -/
@[simp] lemma view_toggleMark (b : Board) : b.toggleMark.view = b.view := by
  rw [toggleMark_eq]
  split <;> rfl

/-- Opening or closing the box changes the box. -/
lemma view_toggleDepth (b : Board) :
    b.toggleDepth.2.view = { b.view with overlay := b.toggleDepth.2.view.overlay } := by
  rw [toggleDepth]
  split
  · rfl
  · split <;> rfl

/-- An outcome changes the box and the last failure. -/
lemma view_deliver (b : Board) (key : Key) (outcome : Except DepthError Book) :
    (b.deliver key outcome).view =
      { b.view with
        overlay := (b.deliver key outcome).view.overlay
        lastError := (b.deliver key outcome).view.lastError } := by
  unfold deliver
  split
  · cases outcome <;> rfl
  · rfl

/-! ### The count of messages -/

/-- Every message is counted. -/
lemma messages_receive (b : Board) (m : Message) :
    (b.receive m).view.messages = b.view.messages + 1 := by
  rw [view_receive]

/-- No command is counted as a message. -/
@[simp] lemma messages_obey (b : Board) (c : Command) :
    (b.obey c).2.view.messages = b.view.messages :=
  obey_induction (P := fun b' => b'.view.messages = b.view.messages) c rfl
    (fun _ => by rw [view_toggleDepth]) (fun _ => rfl) (by rw [view_toggleMark])
    (fun _ => by rw [view_moveTo]) (fun _ => rfl) rfl

/-- No outcome of a request is counted as a message. -/
@[simp] lemma messages_deliver (b : Board) (key : Key) (outcome : Except DepthError Book) :
    (b.deliver key outcome).view.messages = b.view.messages := by
  rw [view_deliver]

end MarketBoard.Board

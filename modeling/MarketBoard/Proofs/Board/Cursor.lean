import MarketBoard.Proofs.Board.Market
import MarketBoard.Proofs.Board.View

/-!
Where the user stands: the cursor, the chosen order, and the count of messages.

* `Place`, `View.place`: the row and the column of the cursor, the order, and the count.
* `Place.after`: what an input does to them, over a table of a given size: the cursor goes one step or to
  an end of the table, and never past it.
* `Place.IsWithin`: the cursor is in the table. `IsWithin.after` and `IsWithin.mono` keep it there.
* `Board.place_put`: every input does to a board what `Place.after` says.
* `Board.cursor_of_run`: what holds of the cursor after every run.
-/

namespace MarketBoard

open Board (Input)

/-! ### Places -/

/-- **Where the user stands**: the cursor, the chosen order, and how many messages there were. -/
structure Place where
  row : Nat
  column : Nat
  sort : SortOrder
  messages : Nat
deriving DecidableEq, Repr

/-- The place of a view; the rest of it is the box, the last failure and the size of the screen. -/
def View.place (v : View) : Place := ⟨v.row, v.column, v.sort, v.messages⟩

/-- The message of an input. -/
def Board.Input.message? : Input → Option Message
  | .message m => some m
  | _ => none

/-- The order that an input asks for. -/
def Board.Input.sort? : Input → Option SortOrder
  | .command .sortAscending => some .ascending
  | .command .sortDescending => some .descending
  | _ => none

namespace Place

/-- **The place after an input**, over a table of so many rows: four commands move the cursor to
another row, two to another column, and it stops at the ends of the table. -/
def after (p : Place) (size : Nat) : Input → Place
  | .command .up => { p with row := max firstRow (p.row - 1) }
  | .command .down => { p with row := min (p.row + 1) (max firstRow size) }
  | .command .top => { p with row := firstRow }
  | .command .bottom => { p with row := max firstRow size }
  | .command .left => { p with column := p.column - 1 }
  | .command .right => { p with column := min (p.column + 1) (Column.count - 1) }
  | .command .sortAscending => { p with sort := .ascending }
  | .command .sortDescending => { p with sort := .descending }
  | .message _ => { p with messages := p.messages + 1 }
  | _ => p

/-- **The cursor is in a table of so many rows**; in an empty one it is at the first row. -/
structure IsWithin (p : Place) (size : Nat) : Prop where
  first : firstRow ≤ p.row
  last : p.row ≤ max firstRow size
  column : p.column < Column.count

variable {p : Place} {size size' : Nat}

/-- In a longer table the cursor is as well. -/
lemma IsWithin.mono (h : p.IsWithin size) (hle : size ≤ size') : p.IsWithin size' :=
  ⟨h.first, Nat.le_trans h.last (by omega), h.column⟩

/-- **No input takes the cursor out of the table.** -/
lemma IsWithin.after (h : p.IsWithin size) (i : Input) : (p.after size i).IsWithin size := by
  obtain ⟨hfirst, hlast, hcolumn⟩ := h
  have hcount : 0 < Column.count := by decide
  cases i with
  | command c =>
      cases c with
      | up | down | top | bottom => exact ⟨by simp only [Place.after]; omega, by
          simp only [Place.after]; omega, hcolumn⟩
      | left | right => exact ⟨hfirst, hlast, by simp only [Place.after]; omega⟩
      | _ => exact ⟨hfirst, hlast, hcolumn⟩
  | _ => exact ⟨hfirst, hlast, hcolumn⟩

/-- Four commands move the cursor to another row. -/
lemma mem_of_row_after_ne (p : Place) (size : Nat) {i : Input}
    (h : (p.after size i).row ≠ p.row) :
    i ∈ [.command .up, .command .down, .command .top, .command .bottom] := by
  cases i with
  | command c =>
      cases c with
      | up | down | top | bottom => simp
      | _ => exact absurd rfl h
  | _ => exact absurd rfl h

/-- Two commands move the cursor to another column. -/
lemma mem_of_column_after_ne (p : Place) (size : Nat) {i : Input}
    (h : (p.after size i).column ≠ p.column) :
    i ∈ [.command .left, .command .right] := by
  cases i with
  | command c =>
      cases c with
      | left | right => simp
      | _ => exact absurd rfl h
  | _ => exact absurd rfl h

/-- Messages are counted, and nothing else is. -/
lemma messages_after (p : Place) (size : Nat) (i : Input) :
    (p.after size i).messages = p.messages + i.message?.toList.length := by
  cases i with
  | command c => cases c <;> rfl
  | _ => rfl

/-- The order is the one that was asked for last. -/
lemma sort_after (p : Place) (size : Nat) (i : Input) :
    (p.after size i).sort = i.sort?.getD p.sort := by
  cases i with
  | command c => cases c <;> rfl
  | _ => rfl

end Place

namespace Board

variable {b : Board}

/-! ### Inputs -/

/-- **A board whose cursor is in its table**, which is sound. -/
structure IsPlaced (b : Board) : Prop where
  sound : b.store.IsSound
  within : b.view.place.IsWithin b.store.size

/-- There is an instrument below the cursor exactly if the table goes on. -/
lemma IsPlaced.isSome_below_iff (h : b.IsPlaced) :
    (b.store.atRow? (b.view.row + 1)).isSome ↔ b.view.row < b.store.size := by
  rw [h.sound.isSome_atRow?_iff]
  simp only [firstRow]
  omega

/-- There is an instrument above the cursor exactly if this is not the first row. -/
lemma IsPlaced.isSome_above_iff (h : b.IsPlaced) :
    firstRow < b.view.row ∧ (b.store.atRow? (b.view.row - 1)).isSome ↔ firstRow < b.view.row := by
  have hlast : b.view.row ≤ max firstRow b.store.size := h.within.last
  rw [h.sound.isSome_atRow?_iff]
  simp only [firstRow] at hlast ⊢
  omega

/-- The place after a move to another row, if there is one. -/
lemma place_moveTo_if (b : Board) (p : Prop) [Decidable p] (row : Nat) :
    (if p then b.moveTo row else b).view.place =
      { b.view.place with row := if p then row else b.view.row } := by
  split
  · rw [view_moveTo]
    rfl
  · rfl

/-- The place after a move to another column, if there is one. -/
lemma place_moveToColumn_if (b : Board) (p : Prop) [Decidable p] (column : Nat) :
    (if p then b.moveToColumn column else b).view.place =
      { b.view.place with column := if p then column else b.view.column } := by
  split <;> rfl

/-- **Every input does to the place of the user what it should**, and an input that is no command for
the cursor leaves the cursor where it is. -/
lemma IsPlaced.place_put (h : b.IsPlaced) (i : Input) :
    (b.put i).2.view.place = b.view.place.after b.store.size i := by
  have hfirst : firstRow ≤ b.view.row := h.within.first
  have hlast : b.view.row ≤ max firstRow b.store.size := h.within.last
  have hcolumn : b.view.column < Column.count := h.within.column
  cases i with
  | start => rfl
  | message m => rw [put, view_receive]; rfl
  | outcome key result => rw [put, view_deliver]; rfl
  | resizeTerminal width height => rfl
  | command c =>
      cases c with
      | quit => rfl
      | toggleDepth => rw [put, obey, view_toggleDepth]; rfl
      | sortAscending | sortDescending => rfl
      | toggleMark => rw [put, obey, view_toggleMark]; rfl
      | resize => rfl
      | up =>
          rw [put, obey, place_moveTo_if]
          refine congrArg (fun row => { b.view.place with row }) ?_
          simp only [h.isSome_above_iff, View.place]
          split <;> omega
      | down =>
          rw [put, obey, place_moveTo_if]
          refine congrArg (fun row => { b.view.place with row }) ?_
          simp only [h.isSome_below_iff, View.place]
          split <;> omega
      | top =>
          rw [put, obey, ← ite_not, place_moveTo_if]
          refine congrArg (fun row => { b.view.place with row }) ?_
          simp only [Store.isEmpty_iff]
          split <;> omega
      | bottom =>
          have hbottom : (b.obey .bottom).2 =
              if b.store.size ≠ 0 then b.moveTo b.store.size else b := by
            rw [obey, h.sound.lastRow?_eq]
            by_cases hempty : b.store.size = 0 <;> simp [hempty]
          rw [put, hbottom, place_moveTo_if]
          refine congrArg (fun row => { b.view.place with row }) ?_
          simp only [firstRow] at hfirst hlast ⊢
          split <;> omega
      | left =>
          rw [put, obey, place_moveToColumn_if]
          refine congrArg (fun column => { b.view.place with column }) ?_
          simp only [View.place]
          split <;> omega
      | right =>
          rw [put, obey, place_moveToColumn_if]
          refine congrArg (fun column => { b.view.place with column }) ?_
          simp only [View.place]
          split <;> omega

/-- No input makes the table shorter. -/
lemma size_le_size_put (b : Board) (i : Input) : b.store.size ≤ (b.put i).2.store.size := by
  obtain ⟨more, hmore⟩ := b.store_put i
  rw [hmore]
  exact b.store.size_le_size_run more

/-- **Every input keeps the cursor in the table.** -/
lemma IsPlaced.put (h : b.IsPlaced) (i : Input) : (b.put i).2.IsPlaced := by
  obtain ⟨more, hmore⟩ := b.store_put i
  refine ⟨hmore ▸ h.sound.run more, ?_⟩
  rw [h.place_put]
  exact (h.within.after i).mono (b.size_le_size_put i)

/-! ### Runs -/

/-- A new board has its cursor at the first row of an empty table. -/
lemma isPlaced_ofCanvas (c : Canvas) (policy : Recoloring) : (ofCanvas c policy).IsPlaced :=
  ⟨Store.isSound_empty policy, Nat.le_refl _, Nat.le_max_left _ _, (by decide : 0 < Column.count)⟩

/-- **Every run keeps the cursor in the table.** -/
lemma IsPlaced.after (h : b.IsPlaced) (inputs : List Input) : (b.after inputs).IsPlaced :=
  after_induction (P := IsPlaced) (fun _ i h => h.put i) h inputs

/-- The count after a run. -/
lemma IsPlaced.messages_after (h : b.IsPlaced) (inputs : List Input) :
    (b.after inputs).view.messages =
      b.view.messages + (inputs.filterMap Input.message?).length := by
  induction inputs generalizing b with
  | nil => rfl
  | cons i rest ih =>
      have hput : (b.put i).2.view.messages = b.view.messages + i.message?.toList.length :=
        (congrArg Place.messages (h.place_put i)).trans (Place.messages_after _ _ i)
      refine (ih (h.put i)).trans ?_
      rw [hput, List.filterMap_cons]
      cases i.message? with
      | none => rfl
      | some m => exact (Nat.add_assoc _ _ _).trans (congrArg _ (Nat.add_comm _ _))

/-- The order after a run. -/
lemma IsPlaced.sort_after (h : b.IsPlaced) (inputs : List Input) :
    (b.after inputs).view.sort = (inputs.filterMap Input.sort?).getLast?.getD b.view.sort := by
  induction inputs generalizing b with
  | nil => rfl
  | cons i rest ih =>
      have hput : (b.put i).2.view.sort = i.sort?.getD b.view.sort :=
        (congrArg Place.sort (h.place_put i)).trans (Place.sort_after _ _ i)
      refine (ih (h.put i)).trans ?_
      rw [hput, List.filterMap_cons]
      cases i.sort? with
      | none => rfl
      | some order => simp [List.getLast?_cons]

/-- **The cursor never dangles.**
After every run of a new board the cursor is at one of the rows of the table, or at the first row if
the table is empty; so it is at an instrument as soon as there is one, and always in a column. The
messages were counted, each once, and the order is the one that was asked for last, if any was. Every
input does to the place of the user what `Place.after` says: four commands move the cursor to another
row, by one step or to an end of the table, two to another column, by one step, and it stops at the
ends; nothing else moves it. -/
theorem cursor_of_run (c : Canvas) (policy : Recoloring) (inputs : List Input) :
    let b := (ofCanvas c policy).after inputs
    (1 ≤ b.view.row ∧ b.view.row ≤ max 1 b.store.size) ∧
    (b.store.isEmpty = false → ∃ i, b.store.atRow? b.view.row = some i) ∧
    b.view.column < Column.count ∧
    b.view.messages = (inputs.filterMap Input.message?).length ∧
    b.view.sort = (inputs.filterMap Input.sort?).getLast?.getD .arrival ∧
    (∀ i, (b.put i).2.view.place = b.view.place.after b.store.size i) ∧
    (∀ i, (b.put i).2.view.row ≠ b.view.row →
      i ∈ [.command .up, .command .down, .command .top, .command .bottom]) ∧
    ∀ i, (b.put i).2.view.column ≠ b.view.column → i ∈ [.command .left, .command .right] := by
  intro b
  have h : b.IsPlaced := (isPlaced_ofCanvas c policy).after inputs
  refine ⟨⟨h.within.first, h.within.last⟩, fun hempty => ?_, h.within.column, ?_,
    (isPlaced_ofCanvas c policy).sort_after inputs, h.place_put, fun i hrow => ?_,
    fun i hcolumn => ?_⟩
  · have hsize : b.store.size ≠ 0 := fun hzero => by simp [b.store.isEmpty_iff.mpr hzero] at hempty
    have hlast : b.view.row ≤ max firstRow b.store.size := h.within.last
    refine Option.isSome_iff_exists.mp ((h.sound.isSome_atRow?_iff _).mpr ⟨h.within.first, ?_⟩)
    simp only [firstRow] at hlast
    omega
  · exact ((isPlaced_ofCanvas c policy).messages_after inputs).trans (Nat.zero_add _)
  · refine Place.mem_of_row_after_ne b.view.place b.store.size ?_
    rwa [← h.place_put i]
  · refine Place.mem_of_column_after_ne b.view.place b.store.size ?_
    rwa [← h.place_put i]

end Board

end MarketBoard

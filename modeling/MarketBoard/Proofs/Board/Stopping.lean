import MarketBoard.Proofs.Board.Lifecycle
import MarketBoard.Proofs.Table.BoxPlace

/-!
Which drawings end the program.

* `Canvas.stopped_refresh`: sending a frame ends it if the terminal comes as far as putting the frame
  together and the box has no place. `Canvas.stopped_drawAll` and its like: nothing else that is drawn
  does.
* `Board.stopped_put`: an input ends it only with a box in sight that has no place.
* `Board.HasSmallBook.goes_on_after`: as long as no book has more than 65532 levels on a side, nothing
  ends it.
-/

namespace MarketBoard

namespace Canvas

variable {c : Canvas} {v : View}

/-- What is in sight can be put together if the box has a place. -/
lemma canCompose_window (c : Canvas) (v : View) (s : Store) :
    (c.window v s).canCompose = v.overlay.isPlaceable := rfl

/-- **A frame ends the program** if it comes to be put together and its box has no place. -/
lemma stopped_refresh (c : Canvas) (v : View) (s : Store) :
    (c.refresh v s).stopped = (c.stopped || c.terminal.composes && !v.overlay.isPlaceable) := by
  rw [refresh, canCompose_window]
  split <;> rfl

/-! ### Drawing on the pad, and other calls -/

@[simp] lemma stopped_drawRow (c : Canvas) (i : Instrument) (v : View) (clearing : Bool) :
    (c.drawRow i v clearing).stopped = c.stopped := by
  rw [drawRow]
  split <;> rfl

@[simp] lemma stopped_drawRowAt (c : Canvas) (row : Nat) (s : Store) (v : View) (clearing : Bool) :
    (c.drawRowAt row s v clearing).stopped = c.stopped := by
  rw [drawRowAt]
  split
  · exact stopped_drawRow _ _ _ _
  · rfl

@[simp] lemma stopped_drawAll (c : Canvas) (s : Store) (v : View) :
    (c.drawAll s v).stopped = c.stopped := by
  have hrows : ∀ (is : List Instrument) (c : Canvas),
      (is.foldl (fun c i => c.drawRow i v false) c).stopped = c.stopped := by
    intro is
    induction is with
    | nil => exact fun _ => rfl
    | cons i is ih => exact fun c => (ih _).trans (c.stopped_drawRow i v false)
  exact hrows _ _

@[simp] lemma stopped_clearTerminal (c : Canvas) : c.clearTerminal.stopped = c.stopped := by
  rw [clearTerminal]
  split <;> rfl

@[simp] lemma stopped_size (c : Canvas) : c.size.2.stopped = c.stopped := by
  rw [size]
  split <;> rfl

@[simp] lemma stopped_resize (c : Canvas) : c.resize.2.stopped = c.stopped := by
  rw [resize]
  split <;> exact stopped_size _

/-- Whatever a canvas shows, it ends the program only with a box that has no place. -/
lemma of_stopped_refresh {s : Store} (h : (c.refresh v s).stopped = true) :
    c.stopped = true ∨ v.overlay.isPlaceable = false := by
  rw [stopped_refresh] at h
  simp only [Bool.or_eq_true, Bool.and_eq_true, Bool.not_eq_true'] at h
  exact h.imp id And.right

lemma of_stopped_redraw {s : Store} (h : (c.redraw s v).stopped = true) :
    c.stopped = true ∨ v.overlay.isPlaceable = false := by
  have hblank : (c.blankAll.clearTerminal.drawAll s v).stopped = c.stopped := by
    rw [stopped_drawAll, stopped_clearTerminal]
    rfl
  rw [redraw] at h
  exact hblank ▸ of_stopped_refresh h

end Canvas

namespace Board

variable {b : Board}

/-! ### Inputs -/

/-- The program has ended only if it had ended before, or there is a box in sight that has no place. -/
def StopsAfter (b b' : Board) : Prop :=
  b'.canvas.stopped = true → b.canvas.stopped = true ∨ b'.view.overlay.isPlaceable = false

lemma stopsAfter_refresh {b' : Board} (h : b'.canvas.stopped = b.canvas.stopped) :
    b.StopsAfter b'.refresh := fun hstopped => h ▸ Canvas.of_stopped_refresh hstopped

lemma stopsAfter_redraw {b' : Board} (h : b'.canvas.stopped = b.canvas.stopped) :
    b.StopsAfter b'.redraw := fun hstopped => h ▸ Canvas.of_stopped_redraw hstopped

/-- **Every input ends the program rightly**, if it ends it. -/
lemma stopped_put (b : Board) (i : Input) : b.StopsAfter (b.put i).2 := by
  have hstays : b.StopsAfter b := .inl
  cases i with
  | start => exact stopsAfter_redraw rfl
  | message m => exact stopsAfter_refresh (Canvas.stopped_drawRowAt _ _ _ _ _)
  | command c =>
      refine obey_induction (P := b.StopsAfter) c hstays (fun _ => ?_)
        (fun descending => stopsAfter_redraw rfl) ?_ (fun row => ?_) (fun column => ?_) ?_
      · rw [toggleDepth]
        split
        · exact stopsAfter_redraw rfl
        · split
          · exact hstays
          · exact stopsAfter_refresh rfl
      · rw [toggleMark_eq]
        split
        · exact hstays
        · exact stopsAfter_refresh (Canvas.stopped_drawRowAt _ _ _ _ _)
      · rw [moveTo]
        split
        · exact hstays
        · refine stopsAfter_refresh ?_
          simp [drawRowAt]
      · refine stopsAfter_refresh ?_
        simp [drawRowAt, drawHeader, Canvas.drawHeader]
      · exact stopsAfter_redraw b.canvas.stopped_resize
  | outcome key result =>
      rw [put]
      unfold deliver
      split
      · cases result with
        | ok book => exact stopsAfter_refresh rfl
        | error cause => exact stopsAfter_refresh rfl
      · exact hstays
  | resizeTerminal width height => exact hstays

/-! ### Runs -/

/-- The book in the box has at most 65532 levels on each side. -/
def HasSmallBook (b : Board) : Prop :=
  ∀ key book, b.view.overlay = .shown key book → ∀ side, (book.side side).length ≤ 65532

/-- A box gets its book from an outcome. -/
lemma HasSmallBook.put (h : b.HasSmallBook) {i : Input}
    (hi : ∀ key book, i = .outcome key (.ok book) → ∀ side, (book.side side).length ≤ 65532) :
    (b.put i).2.HasSmallBook := by
  intro key book hshown
  obtain hturn | ⟨hstays, -⟩ := b.put_cases i
  · generalize (b.put i).1 = effect, (b.put i).2.view = v at hturn hshown
    cases hturn with
    | opens hidden cursor => exact absurd hshown (by simp)
    | closes opened => exact absurd hshown (by simp)
    | shows waiting =>
        obtain ⟨rfl, rfl⟩ := Overlay.shown.inj hshown
        exact hi _ _ rfl
    | fails waiting => exact absurd hshown (by simp)
  · have hoverlay : (b.put i).2.view.overlay = b.view.overlay := congrArg Prod.fst hstays
    exact h key book (hoverlay ▸ hshown)

/-- **A board goes on as long as its books can be shown.** What reaches it does not end the program, if
none of the books that come in has more than 65532 levels on a side: not with any other input in between,
and whatever the terminal does. -/
theorem HasSmallBook.goes_on_after (hbook : b.HasSmallBook) (hgoes : b.canvas.stopped = false)
    {inputs : List Input}
    (hbooks : ∀ key book, .outcome key (.ok book) ∈ inputs → ∀ side, (book.side side).length ≤ 65532) :
    (b.after inputs).canvas.stopped = false := by
  induction inputs generalizing b with
  | nil => exact hgoes
  | cons i rest ih =>
      have hsmall : (b.put i).2.HasSmallBook := hbook.put fun key book hi =>
        hbooks key book (hi ▸ List.mem_cons_self)
      refine ih hsmall (Bool.eq_false_iff.mpr fun hstopped => ?_) fun key book hmem =>
        hbooks key book (List.mem_cons_of_mem _ hmem)
      obtain hbefore | hplaceless := b.stopped_put i hstopped
      · exact absurd (hgoes.symm.trans hbefore) (by simp)
      · exact absurd ((Overlay.isPlaceable_of_le hsmall).symm.trans hplaceless) (by simp)

/-- The box of a new board is hidden. -/
lemma hasSmallBook_ofCanvas (c : Canvas) (policy : Recoloring) : (ofCanvas c policy).HasSmallBook :=
  fun _ _ hshown => absurd hshown (by simp [ofCanvas, View.ofSize])

end Board

end MarketBoard

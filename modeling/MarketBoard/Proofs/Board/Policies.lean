import MarketBoard.Proofs.Board.Market
import MarketBoard.Proofs.Canvas.Drawing
import MarketBoard.Proofs.Store.Shown

/-!
The two policies of colouring look the same.

* `Board.shown`: a board whose store is reduced to what it shows.
* `Board.shown_obey`, `IsSettled.shown_put`: whatever reaches a board, what it leaves to be done and
  what the board shows then follow from what was shown before.
* `Board.shown_after`: two boards that show the same show the same after every run.
* `Board.policies_agree`: two new boards that differ in their policy agree on everything but the
  earlier prices.
-/

namespace MarketBoard

/-! ### Drawing -/

namespace Canvas

/-- The earlier price is not drawn. -/
lemma drawRow_shown (c : Canvas) (i : Instrument) (v : View) (clearing : Bool) :
    c.drawRow i.shown v clearing = c.drawRow i v clearing := rfl

@[simp] lemma drawRowAt_shown (c : Canvas) (row : Nat) (s : Store) (v : View) (clearing : Bool) :
    c.drawRowAt row s.shown v clearing = c.drawRowAt row s v clearing := by
  rw [drawRowAt, drawRowAt, Store.atRow?_shown]
  cases s.atRow? row with
  | none => rfl
  | some i => exact c.drawRow_shown i v clearing

@[simp] lemma refresh_shown (c : Canvas) (v : View) (s : Store) :
    c.refresh v s.shown = c.refresh v s := by
  have hwindow : c.window v s.shown = c.window v s := by
    rw [window, window, Store.size_shown]
  rw [refresh, refresh, hwindow]

@[simp] lemma drawAll_shown (c : Canvas) (s : Store) (v : View) :
    c.drawAll s.shown v = c.drawAll s v := by
  rw [drawAll, drawAll, Store.rows_shown, List.foldl_map]
  rfl

@[simp] lemma redraw_shown (c : Canvas) (s : Store) (v : View) :
    c.redraw s.shown v = c.redraw s v := by
  rw [redraw, redraw, drawAll_shown, refresh_shown]

end Canvas

namespace Board

variable {b b' : Board}

/-- The board with a store that is reduced to what it shows. -/
def shown (b : Board) : Board := { b with store := b.store.shown }

lemma shown_refresh (b : Board) : b.refresh.shown = b.shown.refresh := by
  simp [shown, refresh]

lemma shown_redraw (b : Board) : b.redraw.shown = b.shown.redraw := by
  simp [shown, redraw]

lemma shown_drawRowAt (b : Board) (row : Nat) (clearing : Bool) :
    (b.drawRowAt row clearing).shown = b.shown.drawRowAt row clearing := by
  simp [shown, drawRowAt]

lemma shown_drawHeader (b : Board) : b.drawHeader.shown = b.shown.drawHeader := rfl

/-! ### Commands -/

lemma shown_moveTo (b : Board) (row : Nat) : (b.moveTo row).shown = b.shown.moveTo row := by
  rw [moveTo, moveTo]
  split
  · next h => rw [if_pos (show row = b.shown.view.row from h)]
  · next h =>
    rw [if_neg (show row ≠ b.shown.view.row from h), shown_refresh, shown_drawRowAt]
    congr 2
    simp [shown, drawRowAt]

lemma shown_moveToColumn (b : Board) (column : Nat) :
    (b.moveToColumn column).shown = b.shown.moveToColumn column := by
  rw [moveToColumn, moveToColumn, shown_refresh, shown_drawRowAt, shown_drawHeader]
  rfl

lemma shown_sort (b : Board) (descending : Bool) :
    (b.sort descending).shown = b.shown.sort descending := by
  rw [sort, sort, shown_redraw]
  simp only [shown, Store.rearrange, Store.shown_sort]

lemma shown_toggleMark (b : Board) : b.toggleMark.shown = b.shown.toggleMark := by
  have hat : b.shown.store.atRow? b.shown.view.row =
      (b.store.atRow? b.view.row).map Instrument.shown := b.store.atRow?_shown b.view.row
  rw [toggleMark_eq, toggleMark_eq, hat]
  cases b.store.atRow? b.view.row with
  | none => rfl
  | some i =>
      simp only [Option.map_some, shown_refresh, shown_drawRowAt]
      simp only [shown, Store.shown_toggleMark]

lemma shown_toggleDepth (b : Board) :
    b.shown.toggleDepth = (b.toggleDepth.1, b.toggleDepth.2.shown) := by
  have hkey : b.shown.store.keyAt? b.shown.view.row = b.store.keyAt? b.view.row := rfl
  have hview : b.shown.view = b.view := rfl
  rw [toggleDepth, toggleDepth, hkey, hview]
  split
  · simp only [shown_redraw]
    rfl
  · cases b.store.keyAt? b.view.row with
    | none => rfl
    | some key =>
        simp only [shown_refresh]
        rfl

lemma shown_resize (b : Board) : b.resize.shown = b.shown.resize := by
  rw [resize, resize, shown_redraw]
  rfl

/-- **A command** leaves the same to be done and shows the same. -/
lemma shown_obey (b : Board) (c : Command) :
    b.shown.obey c = ((b.obey c).1, (b.obey c).2.shown) := by
  have hview : b.shown.view = b.view := rfl
  have hat : ∀ row, (b.shown.store.atRow? row).isSome = (b.store.atRow? row).isSome := fun row => by
    rw [shown, Store.atRow?_shown, Option.isSome_map]
  have hempty : b.shown.store.isEmpty = b.store.isEmpty := b.store.isEmpty_shown
  have hlast : b.shown.store.lastRow? = b.store.lastRow? := rfl
  cases c with
  | quit => rfl
  | toggleDepth => exact b.shown_toggleDepth
  | sortAscending => exact congrArg (none, ·) (b.shown_sort false).symm
  | sortDescending => exact congrArg (none, ·) (b.shown_sort true).symm
  | toggleMark => exact congrArg (none, ·) b.shown_toggleMark.symm
  | up => simp only [obey, hview, hat, apply_ite shown, shown_moveTo]
  | down => simp only [obey, hview, hat, apply_ite shown, shown_moveTo]
  | top => simp only [obey, hempty, apply_ite shown, shown_moveTo]
  | bottom =>
      simp only [obey, hlast]
      cases b.store.lastRow? with
      | none => rfl
      | some row => exact congrArg (none, ·) (b.shown_moveTo row).symm
  | left => simp only [obey, hview, apply_ite shown, shown_moveToColumn]
  | right => simp only [obey, hview, apply_ite shown, shown_moveToColumn]
  | resize => exact congrArg (none, ·) b.shown_resize.symm

/-! ### All inputs -/

/-- An outcome does not look at the store but to draw. -/
lemma shown_deliver (b : Board) (key : Key) (result : Except DepthError Book) :
    (b.deliver key result).shown = b.shown.deliver key result := by
  have hview : b.shown.view = b.view := rfl
  unfold deliver
  rw [hview]
  split
  · cases result <;> exact shown_refresh _
  · rfl

/-- **A message** shows the same under either policy. -/
lemma shown_receive (h : b.store.IsSettled) (m : Message) :
    (b.receive m).shown = (b.shown.receive m).shown := by
  have happly := h.shown_apply m
  have hrow : (b.shown.store.receive m).1 = (b.store.receive m).1 := by
    have hrows : (b.shown.store.apply m).rowOf? m.key = (b.store.apply m).rowOf? m.key := by
      rw [← Store.rowOf?_shown, ← Store.rowOf?_shown (b.store.apply m), happly]
      rfl
    rw [Store.row_receive, Store.row_receive] at hrows
    exact Option.some.inj hrows
  have hboard : ∀ v c, (⟨b.store.apply m, v, c⟩ : Board).shown =
      (⟨b.shown.store.apply m, v, c⟩ : Board).shown := fun v c => by
    simp only [shown, happly]
  simp only [receive, hrow, shown_refresh, shown_drawRowAt]
  exact congrArg (fun b' => (b'.drawRowAt (b.store.receive m).1 false).refresh) (hboard _ _)

/-- **Whatever reaches a board**, the same is left to be done and the same is shown as if its store
were reduced to what it shows. -/
lemma shown_put (h : b.store.IsSettled) (i : Input) :
    (b.put i).1 = (b.shown.put i).1 ∧ (b.put i).2.shown = (b.shown.put i).2.shown := by
  have hidem : ∀ b : Board, b.shown.shown = b.shown := fun b => by
    simp only [shown, Store.shown_shown]
  cases i with
  | start => exact ⟨rfl, by simp only [put, start, shown_redraw, hidem]⟩
  | message m => exact ⟨rfl, shown_receive h m⟩
  | command c => simp only [put, shown_obey, hidem, and_self]
  | outcome key result => exact ⟨rfl, by simp only [put, shown_deliver, hidem]⟩
  | resizeTerminal width height =>
      exact ⟨rfl, by simp only [put, shown, resizeTerminal, Store.shown_shown]⟩

/-- **Two boards that show the same** leave the same to be done and show the same after every run. -/
lemma shown_after (h : b.store.IsSettled) (h' : b'.store.IsSettled) (hshown : b.shown = b'.shown)
    (inputs : List Input) :
    b.effects inputs = b'.effects inputs ∧ (b.after inputs).shown = (b'.after inputs).shown := by
  induction inputs generalizing b b' with
  | nil => exact ⟨rfl, hshown⟩
  | cons i rest ih =>
      obtain ⟨heffect, hput⟩ := shown_put h i
      obtain ⟨heffect', hput'⟩ := shown_put h' i
      obtain ⟨more, hmore⟩ := b.store_put i
      obtain ⟨more', hmore'⟩ := b'.store_put i
      have hnext : (b.put i).2.shown = (b'.put i).2.shown := by
        rw [hput, hput', hshown]
      obtain ⟨heffects, hafter⟩ := ih (hmore ▸ h.run more) (hmore' ▸ h'.run more') hnext
      refine ⟨?_, hafter⟩
      rw [effects, effects, heffect, heffect', heffects, hshown]

/-- **The two policies of colouring look the same.**
Two new boards on one canvas, of which one lets quotes settle the trend and the other does not, leave
the same to be done in every run, and after it they have the same view, the same pad, the same screen
and the same journal. Their stores have the same rows and the same instruments, apart from the price
before the last one; in particular the trend of every instrument is the same. -/
theorem policies_agree (c : Canvas) (inputs : List Input) :
    let b := (ofCanvas c .trades).after inputs
    let b' := (ofCanvas c .quotesAndTrades).after inputs
    (ofCanvas c .trades).effects inputs = (ofCanvas c .quotesAndTrades).effects inputs ∧
      b.view = b'.view ∧ b.canvas = b'.canvas ∧ b.store.order = b'.store.order ∧
      b.store.table.map (fun i => { i with previous := .zero }) =
        b'.store.table.map (fun i => { i with previous := .zero }) ∧
      ∀ k, (b.store.get? k).map Instrument.trend = (b'.store.get? k).map Instrument.trend := by
  intro b b'
  have hempty : ∀ policy, (ofCanvas c policy).store.IsSettled := fun _ _ hi =>
    absurd hi (by simp [ofCanvas, Store.empty])
  obtain ⟨heffects, hshown⟩ := shown_after (hempty .trades) (hempty .quotesAndTrades) rfl inputs
  have hview : b.shown.view = b'.shown.view := congrArg Board.view hshown
  have hcanvas : b.shown.canvas = b'.shown.canvas := congrArg Board.canvas hshown
  have hstore : b.store.shown = b'.store.shown := congrArg Board.store hshown
  have horder : b.store.shown.order = b'.store.shown.order := congrArg Store.order hstore
  refine ⟨heffects, hview, hcanvas, horder, congrArg Store.table hstore, fun k => ?_⟩
  have htrend : ∀ s : Store, (s.get? k).map Instrument.trend =
      (s.shown.get? k).map Instrument.trend := fun s => by
    rw [Store.get?_shown, Option.map_map]
    rfl
  rw [htrend, htrend b'.store, hstore]

end Board

end MarketBoard

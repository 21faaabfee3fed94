import Mathlib.Data.List.Induction
import MarketBoard.Proofs.Board.Outside
import MarketBoard.Proofs.Board.Stopping

/-!
A board whose terminal fails goes through the same states as one whose terminal works.

* `Board.Agrees`: two boards have the same store, the same pad, and the same view up to the size of
  the screen.
* `Agrees.receive`, `Agrees.obey`, `Agrees.deliver`, `Agrees.put`: whatever reaches two boards that
  agree, they agree afterwards and leave the same to be done, whatever their terminals do.
* `Board.IsMisled`: the last new size was taken while the terminal did not tell it.
* `Board.failures_stay_outside`: failing calls never reach the state of a board.
-/

namespace MarketBoard.Board

/-- From now on exactly the given calls of the terminal fail. -/
def withFaults (b : Board) (fault : Nat → Call → Option String) : Board :=
  { b with canvas := { b.canvas with terminal := { b.canvas.terminal with
      device := b.canvas.terminal.device.withFaults fault } } }

/-- **Two boards agree**: they differ at most in their terminals, their journals, and the size of the
screen that their views assume. -/
structure Agrees (b b' : Board) : Prop where
  store : b.store = b'.store
  view : b.view.unsized = b'.view.unsized
  pad : b.canvas.pad = b'.canvas.pad

lemma agrees_withFaults (b : Board) (fault : Nat → Call → Option String) :
    (b.withFaults fault).Agrees b := ⟨rfl, rfl, rfl⟩

namespace Agrees

variable {b b' : Board}

lemma row (h : b.Agrees b') : b.view.row = b'.view.row := (View.cursor_eq h.view).1

lemma column (h : b.Agrees b') : b.view.column = b'.view.column := (View.cursor_eq h.view).2

lemma overlay (h : b.Agrees b') : b.view.overlay = b'.view.overlay := by
  have hview := h.view
  simp only [View.unsized, View.mk.injEq] at hview
  exact hview.2.2.2.1

/-! ### Drawing -/

/-- A change of the view that does not look at the size of the screen. -/
lemma mapView (h : b.Agrees b') (f : View → View)
    (hf : ∀ v, (f v).unsized = (f v.unsized).unsized) :
    ({ b with view := f b.view } : Board).Agrees { b' with view := f b'.view } := by
  refine ⟨h.store, ?_, h.pad⟩
  show (f b.view).unsized = (f b'.view).unsized
  rw [hf b.view, hf b'.view, h.view]

lemma setStore (h : b.Agrees b') (s : Store) :
    ({ b with store := s } : Board).Agrees { b' with store := s } :=
  ⟨rfl, h.view, h.pad⟩

lemma refresh (h : b.Agrees b') : b.refresh.Agrees b'.refresh := by
  refine ⟨h.store, h.view, ?_⟩
  rw [Board.refresh, Board.refresh, Canvas.pad_refresh, Canvas.pad_refresh]
  exact h.pad

lemma redraw (h : b.Agrees b') : b.redraw.Agrees b'.redraw := by
  refine ⟨h.store, h.view, ?_⟩
  rw [Board.redraw, Board.redraw, h.store]
  exact Canvas.pad_redraw_congr h.pad h.view _

lemma drawHeader (h : b.Agrees b') : b.drawHeader.Agrees b'.drawHeader :=
  ⟨h.store, h.view, Canvas.pad_drawHeader_congr h.pad h.view⟩

lemma drawRowAt (h : b.Agrees b') {row row' : Nat} (hrow : row = row') (clearing : Bool) :
    (b.drawRowAt row clearing).Agrees (b'.drawRowAt row' clearing) := by
  refine ⟨h.store, h.view, ?_⟩
  rw [Board.drawRowAt, Board.drawRowAt, h.store, hrow]
  exact Canvas.pad_drawRowAt_congr h.pad h.view _ _ _

/-! ### Messages and outcomes -/

/-- **A message**: the store is changed and the message counted, whether its row can be shown or not. -/
lemma receive (h : b.Agrees b') (m : Message) : (b.receive m).Agrees (b'.receive m) := by
  have happlied := (h.mapView (fun v => { v with messages := v.messages + 1 })
    (fun _ => rfl)).setStore (b'.store.apply m)
  rw [Board.receive, Board.receive, h.store]
  exact (happlied.drawRowAt rfl false).refresh

/-- **An outcome**: the box takes it if it waits for it. -/
lemma deliver (h : b.Agrees b') (key : Key) (outcome : Except DepthError Book) :
    (b.deliver key outcome).Agrees (b'.deliver key outcome) := by
  unfold Board.deliver
  rw [h.overlay]
  split
  · cases outcome with
    | ok book =>
        exact (h.mapView (fun v => { v with overlay := .shown key book }) fun _ => rfl).refresh
    | error cause =>
        refine refresh ⟨h.store, ?_, h.pad⟩
        exact congrArg (fun v : View => { v with
          overlay := .failed key cause.message
          lastError := some (failureText key cause.message) }) h.view
  · exact h

/-! ### Commands -/

/-- The highlight is taken away and put elsewhere although nothing of it may get to the screen. -/
lemma moveTo (h : b.Agrees b') (row : Nat) : (b.moveTo row).Agrees (b'.moveTo row) := by
  rw [Board.moveTo, Board.moveTo, h.row]
  split
  · exact h
  · have hleft : (b.drawRowAt b'.view.row true).Agrees (b'.drawRowAt b'.view.row true) :=
      h.drawRowAt rfl true
    have hmoved := hleft.mapView (fun v => { v with row }) fun _ => rfl
    exact (hmoved.drawRowAt rfl false).refresh

lemma moveToColumn (h : b.Agrees b') (column : Nat) :
    (b.moveToColumn column).Agrees (b'.moveToColumn column) := by
  have hmoved := h.mapView (fun v => { v with column }) fun _ => rfl
  exact (hmoved.drawHeader.drawRowAt h.row false).refresh

lemma sort (h : b.Agrees b') (descending : Bool) :
    (b.sort descending).Agrees (b'.sort descending) := by
  have hordered := h.mapView
    (fun v => { v with sort := if descending then .descending else .ascending }) fun _ => rfl
  rw [Board.sort, Board.sort, h.store]
  exact (hordered.setStore (b'.store.sort descending)).redraw

lemma toggleMark (h : b.Agrees b') : b.toggleMark.Agrees b'.toggleMark := by
  rw [toggleMark_eq, toggleMark_eq, h.store, h.row]
  split
  · exact h
  · exact ((h.setStore (b'.store.toggleMark b'.view.row)).drawRowAt rfl false).refresh

lemma toggleDepth (h : b.Agrees b') :
    b.toggleDepth.1 = b'.toggleDepth.1 ∧ b.toggleDepth.2.Agrees b'.toggleDepth.2 := by
  have hkey : b.store.keyAt? b.view.row = b'.store.keyAt? b'.view.row := by rw [h.store, h.row]
  rw [Board.toggleDepth, Board.toggleDepth, h.overlay, hkey]
  split
  · exact ⟨rfl, (h.mapView (fun v => { v with overlay := .hidden }) fun _ => rfl).redraw⟩
  · split
    · exact ⟨rfl, h⟩
    · next key _ =>
      exact ⟨rfl, (h.mapView (fun v => { v with overlay := .pending key }) fun _ => rfl).refresh⟩

/-- **A new size**: the two views may take different ones, but all else is drawn the same. -/
lemma resize (h : b.Agrees b') : b.resize.Agrees b'.resize := by
  refine redraw ⟨h.store, h.view, ?_⟩
  show b.canvas.resize.2.pad = b'.canvas.resize.2.pad
  rw [Canvas.pad_resize, Canvas.pad_resize, h.pad]

/-- **Every command** keeps two boards agreeing. -/
lemma obey (h : b.Agrees b') (c : Command) : (b.obey c).2.Agrees (b'.obey c).2 := by
  cases c with
  | quit => exact h
  | toggleDepth => exact h.toggleDepth.2
  | sortAscending => exact h.sort false
  | sortDescending => exact h.sort true
  | toggleMark => exact h.toggleMark
  | up =>
      simp only [Board.obey, h.row, h.store]
      split
      · exact h.moveTo _
      · exact h
  | down =>
      simp only [Board.obey, h.row, h.store]
      split
      · exact h.moveTo _
      · exact h
  | top =>
      simp only [Board.obey, h.store]
      split
      · exact h
      · exact h.moveTo _
  | bottom =>
      simp only [Board.obey, h.store]
      split
      · exact h.moveTo _
      · exact h
  | left =>
      simp only [Board.obey, h.column]
      split
      · exact h.moveToColumn _
      · exact h
  | right =>
      simp only [Board.obey, h.column]
      split
      · exact h.moveToColumn _
      · exact h
  | resize => exact h.resize

/-- A command leaves the same to be done on both. -/
lemma effect (h : b.Agrees b') (c : Command) : (b.obey c).1 = (b'.obey c).1 := by
  rw [effect_obey, effect_obey, h.toggleDepth.1]

/-- **Whatever reaches two boards that agree**, they agree afterwards and leave the same to be done. -/
lemma put (h : b.Agrees b') (i : Input) :
    (b.put i).1 = (b'.put i).1 ∧ (b.put i).2.Agrees (b'.put i).2 := by
  cases i with
  | start => exact ⟨rfl, h.redraw⟩
  | message m => exact ⟨rfl, h.receive m⟩
  | command c => exact ⟨h.effect c, h.obey c⟩
  | outcome key result => exact ⟨rfl, h.deliver key result⟩
  | resizeTerminal width height => exact ⟨rfl, h.store, h.view, h.pad⟩

lemma after (h : b.Agrees b') (inputs : List Input) :
    b.effects inputs = b'.effects inputs ∧ (b.after inputs).Agrees (b'.after inputs) := by
  induction inputs generalizing b b' with
  | nil => exact ⟨rfl, h⟩
  | cons i rest ih =>
      obtain ⟨heffect, hput⟩ := h.put i
      obtain ⟨heffects, hrest⟩ := ih hput
      exact ⟨congrArg₂ List.cons heffect heffects, hrest⟩

end Agrees

/-! ### The size of the screen -/

/-- **The board is misled about the size of the screen**: the last time that it was told to follow the
size, the terminal did not tell it. -/
def IsMisled (b : Board) (inputs : List Input) : Prop :=
  ∃ before rest, inputs = before ++ .command .resize :: rest ∧ .command .resize ∉ rest ∧
    (b.after before).canvas.IsBlind

lemma IsMisled.append {b : Board} {inputs : List Input} (h : b.IsMisled inputs) {i : Input}
    (hi : i ≠ .command .resize) : b.IsMisled (inputs ++ [i]) := by
  obtain ⟨before, rest, rfl, hrest, hblind⟩ := h
  refine ⟨before, rest ++ [i], by simp, ?_, hblind⟩
  simp [hrest, hi.symm]

lemma after_append_singleton (b : Board) (inputs : List Input) (i : Input) :
    b.after (inputs ++ [i]) = ((b.after inputs).put i).2 := by
  rw [after, after, List.foldl_append]
  rfl

/-- **The view has the same size as on a terminal that works**, unless the board is misled. -/
lemma size_after {b b' : Board} (hworks : b'.canvas.terminal.device.Works)
    (hscreen : b.outside.1 = b'.outside.1) (hsize : b.view.size = b'.view.size)
    (inputs : List Input) :
    (b.after inputs).view.size = (b'.after inputs).view.size ∨
      b.IsMisled inputs ∧ (b.after inputs).view.size = Canvas.assumedSize := by
  induction inputs using List.reverseRecOn with
  | nil => exact .inl hsize
  | append_singleton before i ih =>
      rw [after_append_singleton, after_append_singleton]
      by_cases hi : i = .command .resize
      · subst hi
        show (b.after before).canvas.resize.1 = (b'.after before).canvas.resize.1 ∨
          _ ∧ (b.after before).canvas.resize.1 = _
        have htold : (b'.after before).canvas.resize.1 = (b'.after before).outside.1 := by
          obtain ⟨hblind, -⟩ | ⟨-, h⟩ := (b'.after before).canvas.resize_fst
          · exact absurd hblind (Canvas.not_isBlind (works_after hworks before))
          · exact h
        obtain ⟨hblind, h⟩ | ⟨-, h⟩ := (b.after before).canvas.resize_fst
        · exact .inr ⟨⟨before, [], rfl, by simp, hblind⟩, h⟩
        · exact .inl (by rw [h, htold]; exact screen_after hscreen before)
      · rw [size_put _ hi, size_put _ hi]
        exact ih.imp id fun h => ⟨h.1.append hi, h.2⟩

/-- **Failing calls never reach the state of a board.**
A board is built on a terminal that works. Then the same inputs reach it while any calls of the
terminal fail, and while none does. Both runs leave the same to be done one input after another, and
they end with the same store, the same pad, and the same view but for the size of the screen. The
sizes differ only if the terminal did not tell its size when the board was told to follow it last;
then the board goes on with an assumed one. Neither run ends the program as long as no book has more
than 65532 levels on a side. -/
theorem failures_stay_outside (d : Device) (hd : d.Works) (rows : Nat) (policy : Recoloring)
    (fault : Nat → Call → Option String) (inputs : List Input) :
    let b := ofCanvas (.ofTerminal (.ofDevice d) rows) policy
    let good := b.after inputs
    let bad := (b.withFaults fault).after inputs
    (b.withFaults fault).effects inputs = b.effects inputs ∧
      bad.store = good.store ∧ bad.canvas.pad = good.canvas.pad ∧
      bad.view = { good.view with width := bad.view.width, height := bad.view.height } ∧
      (bad.view.size = good.view.size ∨
        (b.withFaults fault).IsMisled inputs ∧ bad.view.size = Canvas.assumedSize) ∧
      ((∀ key book, .outcome key (.ok book) ∈ inputs → ∀ side, (book.side side).length ≤ 65532) →
        bad.canvas.stopped = false ∧ good.canvas.stopped = false) := by
  intro b good bad
  have hfault : b.outside.2 = d.fault :=
    congrArg Prod.snd ((Canvas.isKept_terminal (Terminal.isKept_outside d.outside)).size
      (c := .ofTerminal (.ofDevice d) rows) rfl)
  have hworks : b.canvas.terminal.device.Works := fun calls c =>
    (congrFun (congrFun hfault calls) c).trans (hd calls c)
  obtain ⟨heffects, hagrees⟩ := (b.agrees_withFaults fault).after inputs
  have hsmall : b.HasSmallBook := hasSmallBook_ofCanvas _ policy
  have hgoes : b.canvas.stopped = false := Canvas.stopped_size (.ofTerminal (.ofDevice d) rows)
  exact ⟨heffects, hagrees.store, hagrees.pad, View.eq_of_unsized hagrees.view,
    size_after (b := b.withFaults fault) hworks rfl rfl inputs,
    fun hbooks => ⟨HasSmallBook.goes_on_after (b := b.withFaults fault) hsmall hgoes hbooks,
      hsmall.goes_on_after hgoes hbooks⟩⟩

/-- A board on a terminal that fails from then on: a trade, the box opened, and a new size that is not
told. Store, pad and effects are as on a terminal that works; the size of the view is not. -/
theorem failures_stay_outside_blind :
    let b := ofCanvas (.ofTerminal (.ofDevice (.blank 20 5)) 3) .trades
    let bad := b.withFaults fun _ _ => some "broken"
    let inputs : List Input := [.start, .message (.trade ⟨⟨"A", 1⟩, 5, 7⟩), .command .toggleDepth,
      .resizeTerminal 30 4, .command .resize]
    (Device.blank 20 5).Works ∧ bad.effects inputs = b.effects inputs ∧
      (bad.after inputs).canvas.pad = (b.after inputs).canvas.pad ∧ bad.IsMisled inputs ∧
      (bad.after inputs).view.size = (150, 24) ∧ (b.after inputs).view.size = (30, 4) := by
  intro b bad inputs
  have hworks : (Device.blank 20 5).Works := fun _ _ => rfl
  obtain ⟨heffects, -, hpad, -, hsize, -⟩ := failures_stay_outside (.blank 20 5) hworks 3 .trades
    (fun _ _ => some "broken") inputs
  have hgood : (b.after inputs).view.size = (30, 4) := by decide +kernel
  have hbad : (bad.after inputs).view.size = (150, 24) := by decide +kernel
  refine ⟨hworks, heffects, by with_reducible exact hpad, ?_, hbad, hgood⟩
  obtain hsame | ⟨hmisled, -⟩ := hsize
  · rw [hbad, hgood] at hsame
    exact absurd hsame (by decide)
  · exact hmisled

end MarketBoard.Board

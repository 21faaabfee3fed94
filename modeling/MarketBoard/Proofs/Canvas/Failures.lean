import MarketBoard.Proofs.Canvas.Drawing
import MarketBoard.Proofs.Screen.Calls

/-!
Drawing on a canvas whose terminal may fail.

* `Canvas.pad_refresh`, `Canvas.pad_clearTerminal`, `Canvas.pad_resize`: no call touches the pad.
* `View.unsized`, `Canvas.pad_redraw_congr`: what is drawn on the pad does not depend on the terminal,
  nor on the size of the screen.
* `Canvas.IsKept`: a fact that holds after every drawing if it held before. `Canvas.isKept_terminal`:
  what the calls of a terminal keep; `Canvas.isKept_capacity`: the number of rows.
* `Canvas.IsBlind`, `Canvas.resize_fst`: the size is assumed when the terminal does not tell it.
-/

namespace MarketBoard

/-! ### The pad -/

/-- A view without the size of the screen. -/
def View.unsized (v : View) : View := { v with width := 0, height := 0 }

/-- Views that are equal but for the size of the screen. -/
lemma View.eq_of_unsized {v v' : View} (h : v.unsized = v'.unsized) :
    v = { v' with width := v.width, height := v.height } :=
  congrArg (fun u : View => { u with width := v.width, height := v.height }) h

lemma View.cursor_eq {v v' : View} (h : v.unsized = v'.unsized) :
    v.row = v'.row ∧ v.column = v'.column := by
  simp only [unsized, View.mk.injEq] at h
  exact ⟨h.1, h.2.1⟩

namespace Canvas

variable {c c' : Canvas} {v v' : View}

/-- Sending a frame leaves the pad alone, whether it succeeds or fails. -/
@[simp] lemma pad_refresh (c : Canvas) (v : View) (s : Store) : (c.refresh v s).pad = c.pad := by
  rw [refresh]
  split <;> rfl

/-- What the terminal makes of a frame does not depend on whether the program can go on. -/
lemma terminal_refresh (c : Canvas) (v : View) (s : Store) :
    (c.refresh v s).terminal = (c.terminal.draw (c.window v s).compose).2 := by
  rw [refresh]
  split <;> next hdraw => exact (congrArg Prod.snd hdraw).symm

@[simp] lemma pad_clearTerminal (c : Canvas) : c.clearTerminal.pad = c.pad := by
  rw [clearTerminal]
  split <;> rfl

@[simp] lemma pad_size (c : Canvas) : c.size.2.pad = c.pad := by
  rw [size]
  split <;> rfl

@[simp] lemma pad_resize (c : Canvas) : c.resize.2.pad = c.pad := by
  rw [resize]
  split <;> exact pad_size _

lemma pad_drawHeader_congr (hpad : c.pad = c'.pad) (hview : v.unsized = v'.unsized) :
    (c.drawHeader v).pad = (c'.drawHeader v').pad := by
  rw [drawHeader, drawHeader, hpad, (View.cursor_eq hview).2]

/-- **A row is drawn the same on equal pads**, if the views differ in the size of the screen only. -/
lemma pad_drawRow_congr (hpad : c.pad = c'.pad) (hview : v.unsized = v'.unsized) (i : Instrument)
    (clearing : Bool) : (c.drawRow i v clearing).pad = (c'.drawRow i v' clearing).pad := by
  obtain ⟨hrow, hcolumn⟩ := View.cursor_eq hview
  have hhas : c.hasRow i.row = c'.hasRow i.row := by rw [hasRow, hasRow, capacity, capacity, hpad]
  rw [drawRow, drawRow, hhas, hrow, hcolumn, hpad]
  split
  · rfl
  · exact hpad

lemma pad_drawRowAt_congr (hpad : c.pad = c'.pad) (hview : v.unsized = v'.unsized) (row : Nat)
    (s : Store) (clearing : Bool) :
    (c.drawRowAt row s v clearing).pad = (c'.drawRowAt row s v' clearing).pad := by
  rw [drawRowAt, drawRowAt]
  split
  · exact pad_drawRow_congr hpad hview _ _
  · exact hpad

lemma pad_drawAll_congr (hpad : c.pad = c'.pad) (hview : v.unsized = v'.unsized) (s : Store) :
    (c.drawAll s v).pad = (c'.drawAll s v').pad := by
  have hrows : ∀ (is : List Instrument) (c c' : Canvas), c.pad = c'.pad →
      (is.foldl (fun c i => c.drawRow i v false) c).pad =
        (is.foldl (fun c i => c.drawRow i v' false) c').pad := by
    intro is
    induction is with
    | nil => exact fun _ _ h => h
    | cons i is ih => exact fun _ _ h => ih _ _ (pad_drawRow_congr h hview i false)
  exact hrows _ _ _ (pad_drawHeader_congr hpad hview)

lemma pad_redraw (c : Canvas) (s : Store) (v : View) :
    (c.redraw s v).pad = (c.blankAll.clearTerminal.drawAll s v).pad := by
  rw [redraw, pad_refresh]

/-- **Drawing everything anew gives equal pads**, whatever the two terminals do. -/
lemma pad_redraw_congr (hpad : c.pad = c'.pad) (hview : v.unsized = v'.unsized) (s : Store) :
    (c.redraw s v).pad = (c'.redraw s v').pad := by
  have hblank : c.blankAll.clearTerminal.pad = c'.blankAll.clearTerminal.pad := by
    simp only [pad_clearTerminal, blankAll, capacity, hpad]
  rw [pad_redraw, pad_redraw]
  exact pad_drawAll_congr hblank hview s

/-! ### What every drawing keeps -/

/-- **A fact that every drawing on a canvas keeps**, whether the calls of the terminal fail or not. -/
structure IsKept (Q : Canvas → Prop) : Prop where
  size {c : Canvas} : Q c → Q c.size.2
  drawHeader {c : Canvas} (v : View) : Q c → Q (c.drawHeader v)
  drawRowAt {c : Canvas} (row : Nat) (s : Store) (v : View) (clearing : Bool) :
    Q c → Q (c.drawRowAt row s v clearing)
  refresh {c : Canvas} (v : View) (s : Store) : Q c → Q (c.refresh v s)
  redraw {c : Canvas} (s : Store) (v : View) : Q c → Q (c.redraw s v)
  resize {c : Canvas} : Q c → Q c.resize.2
  note {c : Canvas} (n : Notice) : Q c → Q (c.note n)

/-- The number of rows stays. -/
lemma isKept_capacity (rows : Nat) : IsKept fun c => c.capacity = rows where
  size h := by rwa [capacity, pad_size]
  drawHeader v h := (capacity_drawHeader _ v).trans h
  drawRowAt row s v clearing h := (capacity_drawRowAt _ row s v clearing).trans h
  refresh v s h := by rwa [capacity, pad_refresh]
  redraw {c} s v h := by
    have hblank : c.blankAll.clearTerminal.capacity = rows := by
      rw [capacity, pad_clearTerminal, ← h]
      simp [blankAll, blankPad]
    rw [capacity, pad_redraw]
    exact (capacity_drawAll _ s v).trans hblank
  resize h := by rwa [capacity, pad_resize]
  note _ h := h

section Terminal

variable {P : Terminal → Prop}

lemma kept_size (hP : Terminal.IsKept P) (h : P c.terminal) : P c.size.2.terminal := by
  have hsize : P c.terminal.size.2 := hP.size h
  rw [size]
  split <;> next heq => rwa [heq] at hsize

lemma kept_clearTerminal (hP : Terminal.IsKept P) (h : P c.terminal) : P c.clearTerminal.terminal := by
  have hclear : P c.terminal.clear.2 := hP.clear h
  rw [clearTerminal]
  split <;> next heq => rwa [heq] at hclear

lemma kept_refresh (hP : Terminal.IsKept P) (v : View) (s : Store) (h : P c.terminal) :
    P (c.refresh v s).terminal := by
  rw [terminal_refresh]
  exact hP.draw _ h

/-- **What the calls of a terminal keep, every drawing keeps**: drawing on the pad calls nothing, and
all else makes one call after another. -/
lemma isKept_terminal (hP : Terminal.IsKept P) : IsKept fun c => P c.terminal where
  size h := kept_size hP h
  drawHeader _ h := h
  drawRowAt row s v clearing h := by rwa [terminal_drawRowAt]
  refresh v s h := kept_refresh hP v s h
  redraw {c} s v h := by
    refine kept_refresh hP v s ?_
    rw [terminal_drawAll]
    exact kept_clearTerminal (c := c.blankAll) hP h
  resize {c} h := by
    have hfollow : P c.terminal.follow.2 := hP.follow h
    rw [resize]
    split <;> next heq =>
      rw [heq] at hfollow
      exact kept_size hP hfollow
  note _ h := h

end Terminal

/-! ### The size -/

/-- **The terminal does not tell its size** when the canvas follows it. -/
def IsBlind (c : Canvas) : Prop := ∃ fault, c.terminal.follow.2.size.1 = .error fault

lemma size_told (c : Canvas) :
    c.size.1 =
      match c.terminal.size.1 with
      | .ok size => size
      | .error _ => assumedSize := by
  rw [size]
  split <;> next hsize => rw [hsize]

/-- **The size that a canvas goes on with** is the one of the screen, unless the terminal does not tell
it. -/
lemma resize_fst (c : Canvas) :
    c.IsBlind ∧ c.resize.1 = assumedSize ∨
      ¬ c.IsBlind ∧ c.resize.1 = c.terminal.device.shown.size := by
  have hresize : c.resize.1 =
      match c.terminal.follow.2.size.1 with
      | .ok size => size
      | .error _ => assumedSize := by
    rw [resize]
    split <;> next hfollow =>
      rw [hfollow]
      exact size_told _
  have hscreen : c.terminal.follow.2.device.shown.size = c.terminal.device.shown.size :=
    congrArg Prod.fst ((Terminal.isKept_outside c.terminal.device.outside).follow rfl)
  rw [hresize, IsBlind, ← hscreen]
  obtain htells | ⟨fault, hfault⟩ := c.terminal.follow.2.size_fst
  · rw [htells]
    exact .inr ⟨by simp, rfl⟩
  · rw [hfault]
    exact .inl ⟨⟨fault, rfl⟩, rfl⟩

/-- A terminal that works tells its size. -/
lemma not_isBlind (h : c.terminal.device.Works) : ¬ c.IsBlind := by
  rintro ⟨fault, hfault⟩
  have hfaults : c.terminal.follow.2.device.fault = c.terminal.device.fault :=
    congrArg Prod.snd ((Terminal.isKept_outside c.terminal.device.outside).follow rfl)
  have hworks : c.terminal.follow.2.device.Works := fun calls call => hfaults ▸ h calls call
  rw [Terminal.size, hworks.attempt] at hfault
  simp at hfault

end Canvas

end MarketBoard

import MarketBoard.Proofs.Screen.Working
import MarketBoard.Proofs.Table.Frame

/-!
The calls of a terminal, whether they fail or not.

* `Terminal.IsKept`: a fact that holds after every call if it held before.
* `Terminal.isKept_outside`: no call changes the size of the screen or which calls fail.
* `Terminal.IsFramed`: both frames are rectangles of one size; `Terminal.isKept_isFramed`.
* `Terminal.size_fst`: a terminal that tells a size tells the one of its screen.
-/

namespace MarketBoard

/-! ### Sizes of rectangles -/

namespace Grid

lemma size_reflow (g : Grid) (width height : Nat) :
    (g.reflow width height).size = (width, height) := by
  rw [Grid.size, height_reflow]
  rfl

/-- Lines cut off a run of cells that is long enough are as wide as asked for. -/
lemma length_of_mem_cut {width : Nat} :
    ∀ {height : Nat} {cells : List Cell}, width * height ≤ cells.length →
      ∀ line ∈ cut width height cells, line.length = width := by
  intro height
  induction height with
  | zero => exact fun _ line hline => absurd hline (by simp [cut])
  | succ height ih =>
      intro cells hcells line hline
      rw [Nat.mul_succ] at hcells
      obtain rfl | hrest := List.mem_cons.mp hline
      · rw [List.length_take]
        omega
      · exact ih (by rw [List.length_drop]; omega) line hrest

/-- A new shape is a rectangle, whatever the old one was. -/
lemma isRect_reflow (g : Grid) (width height : Nat) : (g.reflow width height).IsRect := by
  refine length_of_mem_cut ?_
  rw [List.length_append, List.length_replicate]
  omega

lemma isRect_cleared (g : Grid) : g.cleared.IsRect := isRect_blank _ _

/-- Sending lines changes none of their number. -/
lemma length_refreshLines (k : Carry) (next previous shown : List Line) :
    (refreshLines k next previous shown).length = shown.length := by
  fun_induction refreshLines k next previous shown with
  | case1 => simp_all
  | case2 => rfl

/-- **Sending a frame keeps the size of the screen**, also where the frame has another. -/
lemma size_refresh (shown next previous : Grid) :
    (shown.refresh next previous).size = shown.size := by
  have hput : ∀ (cells : List (Nat × Nat × Cell)) (g : Grid),
      (cells.foldl (fun g item => g.put item.1 item.2.1 item.2.2) g).size = g.size := by
    intro cells
    induction cells with
    | nil => exact fun _ => rfl
    | cons item rest ih => exact fun g => (ih _).trans (by simp [Grid.size, Grid.height, put])
  rw [refresh]
  split
  · simp only [Grid.size, Grid.height, length_refreshLines]
  · exact hput _ _

end Grid

/-- What is decided outside of a program: the size of the screen, and which calls fail. -/
def Device.outside (d : Device) : (Nat × Nat) × (Nat → Call → Option String) :=
  (d.shown.size, d.fault)

namespace Terminal

/-! ### What every call keeps -/

/-- **A fact that every call of a terminal keeps**, whether the call fails or not. The frames that are
put together are windows. -/
structure IsKept (P : Terminal → Prop) : Prop where
  size {t : Terminal} : P t → P t.size.2
  clear {t : Terminal} : P t → P t.clear.2
  follow {t : Terminal} : P t → P t.follow.2
  draw {t : Terminal} (w : Window) : P t → P (t.draw w.compose).2

variable {P : Terminal → Prop}

/-- Following the size of the device asks for it, reshapes the frames, clears, and notes the size. -/
lemma follow_kept {t : Terminal} (size : ∀ {t}, P t → P t.size.2) (clear : ∀ {t}, P t → P t.clear.2)
    (reshape : ∀ {t} width height, P t → P (t.reshape width height))
    (known : ∀ {t} known, P t → P { t with known }) (h : P t) : P t.follow.2 := by
  have hsize : P t.size.2 := size h
  rw [follow]
  generalize t.size = asked at hsize ⊢
  obtain ⟨fault | ⟨width, height⟩, t₁⟩ := asked
  · exact hsize
  · dsimp only
    split
    · exact hsize
    · have hclear := clear (reshape width height hsize)
      generalize (t₁.reshape width height).clear = cleared at hclear ⊢
      obtain ⟨fault | _, t₂⟩ := cleared
      · exact hclear
      · exact known _ hclear

/-- **What the parts of the calls keep, the calls keep.** -/
lemma isKept_of_parts (size : ∀ {t}, P t → P t.size.2) (clear : ∀ {t}, P t → P t.clear.2)
    (reshape : ∀ {t} width height, P t → P (t.reshape width height))
    (known : ∀ {t} known, P t → P { t with known })
    (compose : ∀ {t} (w : Window), P t → P { t with work := w.compose t.work })
    (send : ∀ {t}, P t → P t.send.2) : IsKept P where
  size := size
  clear := clear
  follow := follow_kept size clear reshape known
  draw {t} w h := by
    have hfollow : P t.follow.2 := follow_kept size clear reshape known h
    rw [draw]
    generalize t.follow = followed at hfollow ⊢
    obtain ⟨fault | _, t₁⟩ := followed
    · exact hfollow
    · exact send (compose w hfollow)

/-- **No call changes the size of the screen, or which calls fail.** -/
lemma isKept_outside (outside : (Nat × Nat) × (Nat → Call → Option String)) :
    IsKept fun t => t.device.outside = outside := by
  refine isKept_of_parts ?_ ?_ (fun _ _ h => h) (fun _ h => h) (fun _ h => h) ?_
  · intro t h
    rw [size, Device.attempt]
    split <;> next heq => obtain ⟨-, rfl⟩ := Prod.mk.inj heq; exact h
  · intro t h
    rw [clear, Device.attempt]
    split <;> next heq =>
      obtain ⟨-, rfl⟩ := Prod.mk.inj heq
      simpa [Device.outside, Grid.size_cleared] using h
  · intro t h
    rw [send, Device.attempt]
    split <;> next heq =>
      obtain ⟨-, rfl⟩ := Prod.mk.inj heq
      simpa [Device.outside, Grid.size_refresh] using h

/-- A terminal that tells a size tells the one of its screen. -/
lemma size_fst (t : Terminal) :
    t.size.1 = .ok t.device.shown.size ∨ ∃ fault, t.size.1 = .error fault := by
  rw [size, Device.attempt]
  split <;> next heq => obtain ⟨-, rfl⟩ := Prod.mk.inj heq; simp

/-! ### Frames -/

/-- **The frames fit each other**: both are rectangles, of one size. -/
structure IsFramed (t : Terminal) : Prop where
  work : t.work.IsRect
  sent : t.sent.IsRect
  sizes : t.work.size = t.sent.size

lemma isFramed_ofDevice (d : Device) : (ofDevice d).IsFramed :=
  ⟨Grid.isRect_cleared _, Grid.isRect_cleared _, rfl⟩

/-- **Every call keeps the frames fitting**, whatever a frame that could not be sent has left. -/
lemma isKept_isFramed : IsKept IsFramed := by
  refine isKept_of_parts ?_ ?_ ?_ (fun _ h => ⟨h.work, h.sent, h.sizes⟩) ?_ ?_
  · intro t h
    rw [size]
    split <;> exact ⟨h.work, h.sent, h.sizes⟩
  · intro t h
    rw [clear]
    split
    · exact ⟨h.work, h.sent, h.sizes⟩
    · exact ⟨h.work, Grid.isRect_cleared _, h.sizes.trans (Grid.size_cleared _).symm⟩
  · intro t width height _
    exact ⟨Grid.isRect_reflow _ _ _, Grid.isRect_reflow _ _ _,
      (Grid.size_reflow _ _ _).trans (Grid.size_reflow _ _ _).symm⟩
  · intro t w h
    exact ⟨w.isRect_compose h.work, h.sent, (w.size_compose _).trans h.sizes⟩
  · intro t h
    rw [send]
    split
    · exact ⟨h.work, h.sent, h.sizes⟩
    · exact ⟨Grid.isRect_cleared _, h.work, (Grid.size_cleared _).trans h.sizes.symm⟩

end Terminal

end MarketBoard

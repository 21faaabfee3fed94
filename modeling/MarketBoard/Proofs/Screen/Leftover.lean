import MarketBoard.Proofs.Screen.Calls

/-!
A terminal that works again after some of its calls have failed.

* `Terminal.leftover`: what is left of frames that could not be sent. The next frame is put together
  over it.
* `Terminal.InStep`: where the known size is the one of the screen, the frames have it.
* `Terminal.IsMended`: the device works again, and the frames fit each other and the known size.
* `IsMended.clear`, `IsMended.follow`: the calls before a draw keep what is left.
* `IsMended.draw`: the first draw on a cleared screen shows its frame, put together over what is left.
* `Terminal.isKept_isReady`: from then on nothing is left.
-/

namespace MarketBoard

/-! ### Reshaping a rectangle to its own shape -/

namespace Grid

lemma cut_flatten {width : Nat} (rest : List Cell) :
    ∀ {lines : List Line}, (∀ line ∈ lines, line.length = width) →
      cut width lines.length (lines.flatten ++ rest) = lines := by
  intro lines
  induction lines with
  | nil => exact fun _ => rfl
  | cons line lines ih =>
      intro h
      obtain ⟨hline, hlines⟩ := List.forall_mem_cons.mp h
      rw [List.length_cons, cut, List.flatten_cons, List.append_assoc, List.take_left' hline,
        List.drop_left' hline, ih hlines]

/-- A rectangle keeps its cells in its own shape. -/
lemma reflow_size {g : Grid} (h : g.IsRect) : g.reflow g.size.1 g.size.2 = g := by
  rw [reflow, Grid.size, height, cut_flatten _ h]

lemma cleared_cleared (g : Grid) : g.cleared.cleared = g.cleared := by
  rw [cleared_eq_blank g.cleared, size_cleared]
  rfl

end Grid

namespace Terminal

/-- **What is left of frames that could not be sent**, in the shape that the next frame will have. -/
def leftover (t : Terminal) : Grid :=
  t.work.reflow t.device.shown.size.1 t.device.shown.size.2

/-- The frames have the size of the screen if this is the known size. It is not so after a new size of
the screen to which the frames were brought, but at which the screen could not be cleared, when the
screen has its old size again. -/
def InStep (t : Terminal) : Prop := t.known = t.device.shown.size → t.sent.size = t.known

/-- **The terminal works again**, whatever failed before. -/
structure IsMended (t : Terminal) : Prop extends IsFramed t where
  works : t.device.Works
  inStep : t.InStep

/-- Nothing is on the screen, and nothing counts as sent. -/
structure IsWiped (t : Terminal) : Prop where
  sent : t.sent = t.sent.cleared
  shown : t.device.shown = t.device.shown.cleared

namespace IsMended

variable {t : Terminal}

/-- Clearing wipes the screen, but not the work frame. -/
lemma clear (h : t.IsMended) :
    ∃ t', t.clear = (.ok (), t') ∧ t'.IsMended ∧ t'.IsWiped ∧ t'.known = t.known ∧
      t'.work = t.work ∧ t'.device.shown.size = t.device.shown.size := by
  have hshown : t.device.shown.cleared.size = t.device.shown.size := Grid.size_cleared _
  have hsent : t.sent.cleared.size = t.sent.size := Grid.size_cleared _
  refine ⟨{ t with
      device := { t.device with calls := t.device.calls + 1, shown := t.device.shown.cleared }
      sent := t.sent.cleared }, ?_,
    ⟨⟨h.work, Grid.isRect_cleared _, h.sizes.trans hsent.symm⟩, h.works, ?_⟩, ⟨?_, ?_⟩, rfl,
    rfl, hshown⟩
  · rw [Terminal.clear, h.works.attempt]
  · intro hknown
    exact hsent.trans (h.inStep (hknown.trans hshown))
  · exact (Grid.cleared_cleared _).symm
  · exact (Grid.cleared_cleared _).symm

/-- Asking for the size succeeds and changes nothing but the count of calls. -/
lemma size (h : t.IsMended) :
    ∃ t', t.size = (.ok t.device.shown.size, t') ∧ t'.IsMended ∧ t'.known = t.known ∧
      t'.work = t.work ∧ t'.device.shown = t.device.shown ∧ (t.IsWiped → t'.IsWiped) := by
  refine ⟨{ t with device := { t.device with calls := t.device.calls + 1 } }, ?_,
    ⟨⟨h.work, h.sent, h.sizes⟩, h.works, h.inStep⟩, rfl, rfl, rfl, fun hw => ⟨hw.sent, hw.shown⟩⟩
  rw [Terminal.size, h.works.attempt]

/-- **Following the size of the device** brings what is left into this shape. -/
lemma follow (h : t.IsMended) :
    ∃ t', t.follow = (.ok (), t') ∧ t'.IsMended ∧ t'.known = t'.device.shown.size ∧
      t'.device.shown.size = t.device.shown.size ∧ t'.work = t.leftover ∧
        (t.IsWiped → t'.IsWiped) := by
  obtain ⟨t₁, hsize, h₁, hknown, hwork, hshown, hwiped⟩ := h.size
  by_cases hsame : t.device.shown.size = t₁.known
  · have hworksize : t.work.size = t.device.shown.size := by
      rw [h.sizes, h.inStep (by rw [← hknown, hsame]), ← hknown, hsame]
    refine ⟨t₁, ?_, h₁, by rw [hshown, hsame], by rw [hshown], ?_, hwiped⟩
    · rw [Terminal.follow, hsize]
      exact if_pos hsame
    · rw [hwork, leftover, ← hworksize, Grid.reflow_size h.work]
  · obtain ⟨w, hh, hwh⟩ : ∃ w hh, t.device.shown.size = (w, hh) := ⟨_, _, rfl⟩
    have hreshaped : ({ t₁.reshape w hh with known := (w, hh) } : Terminal).IsMended :=
      ⟨⟨Grid.isRect_reflow _ _ _, Grid.isRect_reflow _ _ _,
        (Grid.size_reflow _ _ _).trans (Grid.size_reflow _ _ _).symm⟩, h₁.works,
        fun _ => Grid.size_reflow _ _ _⟩
    obtain ⟨t₂, hclear, h₂, hwiped₂, hknown₂, hwork₂, hshown₂⟩ := hreshaped.clear
    have hdevice : t₂.device.shown.size = t.device.shown.size := hshown₂.trans (by
      rw [← hshown]
      rfl)
    refine ⟨t₂, ?_, h₂, by rw [hknown₂, hdevice, hwh], hdevice, ?_, fun _ => hwiped₂⟩
    · rw [hwh] at hsame hsize
      rw [Terminal.clear, hreshaped.works.attempt] at hclear
      obtain rfl := (Prod.mk.inj hclear).2
      rw [Terminal.follow, hsize]
      simp only [if_neg hsame, Terminal.clear]
      rw [show (t₁.reshape w hh).device.attempt .clear = _ from h₁.works.attempt .clear]
      rfl
    · rw [hwork₂, leftover, hwh]
      exact congrArg (·.reflow w hh) hwork

/-- **The first draw on a wiped screen** shows its frame, put together over what is left. -/
lemma draw (h : t.IsMended) (hwiped : t.IsWiped) (w : Window) :
    ∃ t', t.draw w.compose = (.ok (), t') ∧ t'.device.shown.size = t.device.shown.size ∧
      t'.Shows (w.compose t.leftover) := by
  obtain ⟨t₁, hfollow, h₁, hknown, hdevice, hwork, hwiped₁⟩ := h.follow
  obtain ⟨hsent, hshown⟩ := hwiped₁ hwiped
  have hsize : t₁.sent.size = t₁.device.shown.size := (h₁.inStep hknown).trans hknown
  have hblank : t₁.sent.IsShownOn t₁.device.shown := by
    have hsame : t₁.sent = t₁.device.shown := by
      rw [hsent, hshown, Grid.cleared_eq_blank, Grid.cleared_eq_blank, hsize]
    exact hsame ▸ Grid.IsShownOn.refl _
  have hrect : (w.compose t₁.work).IsRect := w.isRect_compose h₁.work
  have hframe : (w.compose t₁.work).size = t₁.sent.size := (w.size_compose _).trans h₁.sizes
  have hshows := Grid.shows_refresh hblank h₁.sent hrect hframe
  have hrefresh : (t₁.device.shown.refresh (w.compose t₁.work) t₁.sent).size = t₁.device.shown.size :=
    Grid.size_refresh _ _ _
  refine ⟨{ t₁ with
      device := { t₁.device with
        calls := t₁.device.calls + 1
        shown := t₁.device.shown.refresh (w.compose t₁.work) t₁.sent }
      work := t₁.sent.cleared
      sent := w.compose t₁.work }, ?_, hrefresh.trans hdevice, ?_⟩
  · rw [Terminal.draw, hfollow]
    simp only [send]
    rw [show ({ t₁ with work := w.compose t₁.work } : Terminal).device.attempt .draw = _ from
      h₁.works.attempt .draw]
  · rw [← hwork]
    refine ⟨⟨h₁.works, ?_, ?_⟩, hknown.trans hrefresh.symm, rfl, hrect, hshows⟩
    · rw [Grid.cleared_eq_blank, hsize, hknown]
    · exact hframe.trans (hsize.trans hknown.symm)

end IsMended

/-! ### Nothing is left -/

/-- **A terminal that is ready for a draw stays so**, whatever is on its screen: a frame that was sent
leaves a blank one behind. -/
lemma isKept_isReady : IsKept IsReady where
  size h := by
    obtain ⟨t, hsize, hready, -⟩ := h.size
    rwa [hsize]
  clear h := by
    obtain ⟨t, hclear, hready, -⟩ := h.clear
    rwa [hclear]
  follow h := by
    obtain ⟨t, hfollow, hready, -⟩ := h.follow
    rwa [hfollow]
  draw w h := by
    obtain ⟨t, hfollow, hready, -⟩ := h.follow
    have hsize : (w.compose t.work).size = t.known := by
      rw [w.size_compose, hready.work, Grid.blank_size]
    rw [draw, hfollow]
    simp only [send]
    rw [show ({ t with work := w.compose t.work } : Terminal).device.attempt .draw = _ from
      hready.works.attempt .draw]
    refine ⟨hready.works, ?_, hsize⟩
    simp only [Grid.cleared_eq_blank, hready.sent]

end Terminal

end MarketBoard

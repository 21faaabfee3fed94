import MarketBoard.Proofs.Screen.Refresh
import MarketBoard.Screen.Terminal

/-!
A terminal all of whose calls succeed.

* `Device.Works`: no call of the device fails.
* `Terminal.IsReady`: between two draws the work frame is blank and both frames have the known size.
* `Terminal.Shows`: the frame that was sent last is on the screen.
* `Terminal.IsReady.clear`, `Terminal.IsReady.follow`: clearing, and following the size of the device.
* `Terminal.IsReady.draw`: a draw puts its frame together over a blank one and shows it.
-/

namespace MarketBoard

/-! ### Blank rectangles -/

namespace Grid

lemma blank_size (width height : Nat) : (blank width height).size = (width, height) := by
  simp [Grid.size, blank, Grid.height]

lemma cleared_eq_blank (g : Grid) : g.cleared = blank g.size.1 g.size.2 := rfl

lemma size_cleared (g : Grid) : g.cleared.size = g.size := blank_size _ _

/-- Lines cut off a run of equal cells. -/
lemma cut_replicate (width height : Nat) :
    ∀ n, width * height ≤ n →
      cut width height (List.replicate n Cell.blank) = List.replicate height (Line.blank width) := by
  induction height with
  | zero => exact fun _ _ => rfl
  | succ height ih =>
      intro n hn
      rw [Nat.mul_succ] at hn
      rw [cut, List.take_replicate, List.drop_replicate, ih _ (by omega), Nat.min_eq_left (by omega)]
      rfl

/-- A blank rectangle stays blank in any other shape. -/
lemma reflow_blank (w h width height : Nat) :
    (blank w h).reflow width height = blank width height := by
  have hflat : (blank w h).lines.flatten = List.replicate (h * w) Cell.blank := by
    simp [blank, Line.blank]
  rw [reflow, hflat, List.replicate_append_replicate, cut_replicate _ _ _ (by omega)]
  rfl

end Grid

/-! ### Devices -/

/-- No call of the device fails. -/
def Device.Works (d : Device) : Prop := ∀ calls c, d.fault calls c = none

lemma Device.Works.attempt {d : Device} (h : d.Works) (c : Call) :
    d.attempt c = (none, { d with calls := d.calls + 1 }) := by
  rw [Device.attempt, h]

namespace Terminal

/-- **Ready for a draw**: the device works, the work frame is blank, and both frames have the known
size. -/
structure IsReady (t : Terminal) : Prop where
  works : t.device.Works
  work : t.work = .blank t.known.1 t.known.2
  sent : t.sent.size = t.known

/-- **The terminal shows a frame**: it is in step with the size of its device, and the frame that was
sent last is on the screen. -/
structure Shows (t : Terminal) (frame : Grid) : Prop extends IsReady t where
  known : t.known = t.device.shown.size
  sent_eq : t.sent = frame
  rect : frame.IsRect
  shown : frame.IsShownOn t.device.shown

/-- Every cell of the frame that is sent is on the screen. -/
lemma Shows.cell?_eq {t : Terminal} {frame : Grid} (h : t.Shows frame) {x y : Nat}
    (hxy : frame.isCovered x y = false) : t.device.shown.cell? x y = frame.cell? x y :=
  h.shown.cell?_eq h.rect hxy

/-- A terminal that is in step with the size of its device shows what was sent last. -/
def IsFaithful (t : Terminal) : Prop :=
  t.known = t.device.shown.size → ∃ frame, t.Shows frame

lemma Shows.isFaithful {t : Terminal} {frame : Grid} (h : t.Shows frame) : t.IsFaithful :=
  fun _ => ⟨frame, h⟩

lemma isReady_ofDevice {d : Device} (h : d.Works) : (ofDevice d).IsReady where
  works := h
  work := rfl
  sent := Grid.size_cleared _

namespace IsReady

variable {t : Terminal}

/-- The user may resize the device between two draws. -/
lemma resize (h : t.IsReady) (width height : Nat) :
    ({ t with device := t.device.resize width height } : Terminal).IsReady :=
  ⟨h.works, h.work, h.sent⟩

/-- Asking for the size succeeds and changes nothing but the count of calls. -/
lemma size (h : t.IsReady) :
    ∃ t', t.size = (.ok t.device.shown.size, t') ∧ t'.IsReady ∧
      t'.known = t.known ∧ t'.device.shown = t.device.shown ∧ (t.IsFaithful → t'.IsFaithful) := by
  refine ⟨{ t with device := { t.device with calls := t.device.calls + 1 } }, ?_,
    ⟨h.works, h.work, h.sent⟩, rfl, rfl, fun hf hknown => ?_⟩
  · rw [Terminal.size, h.works.attempt]
  · obtain ⟨frame, hs⟩ := hf hknown
    exact ⟨frame, ⟨h.works, h.work, h.sent⟩, hs.known, hs.sent_eq, hs.rect, hs.shown⟩

/-- Clearing blanks the screen and the frame that was sent last. -/
lemma clear (h : t.IsReady) :
    ∃ t', t.clear = (.ok (), t') ∧ t'.IsReady ∧ t'.known = t.known ∧
      t'.device.shown.size = t.device.shown.size ∧ t'.IsFaithful := by
  have hsent : t.sent.cleared.size = t.known := (Grid.size_cleared _).trans h.sent
  refine ⟨{ t with
      device := { t.device with calls := t.device.calls + 1, shown := t.device.shown.cleared }
      sent := t.sent.cleared }, ?_,
    ⟨h.works, h.work, hsent⟩, rfl, Grid.size_cleared _, fun hknown => ?_⟩
  · rw [Terminal.clear, h.works.attempt]
  · have hsame : t.sent.cleared = t.device.shown.cleared := by
      have hsize : t.sent.size = t.device.shown.size :=
        h.sent.trans (hknown.trans (Grid.size_cleared _))
      rw [Grid.cleared_eq_blank, Grid.cleared_eq_blank, hsize]
    refine ⟨t.sent.cleared, ⟨h.works, h.work, hsent⟩, hknown, rfl, Grid.isRect_blank _ _, ?_⟩
    exact hsame ▸ Grid.IsShownOn.refl _

/-- **Following the size of the device** brings both frames to this size. At a new size the screen is
cleared, so that what was sent last is on the screen in any case. -/
lemma follow (h : t.IsReady) :
    ∃ t', t.follow = (.ok (), t') ∧ t'.IsReady ∧ t'.known = t'.device.shown.size ∧
      t'.device.shown.size = t.device.shown.size ∧ (t.IsFaithful → t'.IsFaithful) := by
  obtain ⟨t₁, hsize, h₁, hknown, hshown, hfaithful⟩ := h.size
  by_cases hsame : t.device.shown.size = t₁.known
  · refine ⟨t₁, ?_, h₁, by rw [hshown, hsame], by rw [hshown], hfaithful⟩
    rw [Terminal.follow, hsize]
    exact if_pos hsame
  · obtain ⟨w, hh, hwh⟩ : ∃ w hh, t.device.shown.size = (w, hh) := ⟨_, _, rfl⟩
    have hreshaped : ({ t₁.reshape w hh with known := (w, hh) } : Terminal).IsReady := by
      refine ⟨h₁.works, ?_, ?_⟩
      · simp only [reshape, h₁.work, Grid.reflow_blank]
      · simp [reshape, Grid.size, Grid.reflow, Grid.height]
    obtain ⟨t₂, hclear, h₂, hknown₂, hshown₂, hfaithful₂⟩ := hreshaped.clear
    have hdevice : t₂.device.shown.size = t.device.shown.size := hshown₂.trans (by
      rw [← hshown]
      rfl)
    refine ⟨t₂, ?_, h₂, by rw [hknown₂, hdevice, hwh], hdevice, fun _ => hfaithful₂⟩
    rw [hwh] at hsame hsize
    rw [Terminal.clear, hreshaped.works.attempt] at hclear
    obtain rfl := (Prod.mk.inj hclear).2
    rw [Terminal.follow, hsize]
    simp only [if_neg hsame, Terminal.clear]
    rw [show (t₁.reshape w hh).device.attempt .clear = _ from h₁.works.attempt .clear]
    rfl

/-- A draw comes as far as putting its frame together. -/
lemma composes (h : t.IsReady) : t.composes = true := by
  obtain ⟨t', hfollow, -⟩ := h.follow
  rw [Terminal.composes, hfollow]
  rfl

/-- **A draw shows its frame**, put together over a blank one, given that what was sent last is on
the screen wherever the size is the known one. -/
lemma draw (h : t.IsReady) (hf : t.IsFaithful) {compose : Grid → Grid}
    (hcompose : ∀ w hh, (compose (.blank w hh)).IsRect ∧ (compose (.blank w hh)).size = (w, hh)) :
    ∃ t', t.draw compose = (.ok (), t') ∧ t'.device.shown.size = t.device.shown.size ∧
      t'.Shows (compose (.blank t.device.shown.size.1 t.device.shown.size.2)) := by
  obtain ⟨t₁, hfollow, h₁, hknown, hdevice, hfaithful⟩ := h.follow
  obtain ⟨frame, hs⟩ := hfaithful hf hknown
  have hwork : compose t₁.work =
      compose (.blank t.device.shown.size.1 t.device.shown.size.2) := by
    rw [h₁.work, hknown, hdevice]
  obtain ⟨hrect, hsize⟩ := hcompose t.device.shown.size.1 t.device.shown.size.2
  have hsent : t₁.sent.size = t.device.shown.size := by rw [h₁.sent, hknown, hdevice]
  have hshown := Grid.shows_refresh (hs.sent_eq ▸ hs.shown) (hs.sent_eq ▸ hs.rect) hrect
    (hsize.trans hsent.symm)
  refine ⟨{ t₁ with
      device := { t₁.device with
        calls := t₁.device.calls + 1
        shown := t₁.device.shown.refresh (compose t₁.work) t₁.sent }
      work := t₁.sent.cleared
      sent := compose t₁.work }, ?_, ?_, ⟨h₁.works, ?_, ?_⟩, ?_, hwork, hrect, ?_⟩
  · rw [Terminal.draw, hfollow]
    simp only [send]
    rw [show ({ t₁ with work := compose t₁.work } : Terminal).device.attempt .draw = _ from
      h₁.works.attempt .draw]
  · simp only [hwork]
    exact hshown.size.trans hsize
  · simp only [Grid.cleared_eq_blank, h₁.sent]
  · simp only [hwork, hsize, hknown, hdevice]
  · simp only [hwork, hknown, hdevice]
    exact (hshown.size.trans hsize).symm
  · simp only [hwork]
    exact hshown

end IsReady

end Terminal

end MarketBoard

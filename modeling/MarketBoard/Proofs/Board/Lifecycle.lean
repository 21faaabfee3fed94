import MarketBoard.Proofs.Board.Market
import MarketBoard.Proofs.Board.View

/-!
The life of the depth box.

* `Board.Turns`: how the box changes: it is opened for the instrument at the cursor, which asks for
  its book; it shows the outcome for which it waits; it is closed.
* `Board.put_cases`: every input turns the box in one of these ways or leaves it alone.
* `Board.failures`: the failures that the box took in a run; `Board.lastError_after`: the last failure
  in sight is the last one of these.
* `Board.lifecycle_of_run`: what holds of the box after every run.
-/

namespace MarketBoard

/-- What the box shows once the request for which it waits has come to its end. -/
def Overlay.ofOutcome (key : Key) : Except DepthError Book → Overlay
  | .ok book => .shown key book
  | .error cause => .failed key cause.message

/-- A box is open exactly if it is not hidden. -/
lemma Overlay.isOpen_iff (o : Overlay) : o.isOpen = true ↔ o ≠ .hidden := by
  cases o <;> simp [isOpen]

/-- What the view tells of requests: the box and the last failure. -/
def View.depth (v : View) : Overlay × Option String := (v.overlay, v.lastError)

namespace Board

variable {b : Board}

/-! ### Inputs that leave the box alone -/

@[simp] lemma depth_receive (b : Board) (m : Message) : (b.receive m).view.depth = b.view.depth := by
  rfl

@[simp] lemma depth_moveTo (b : Board) (row : Nat) : (b.moveTo row).view.depth = b.view.depth := by
  rw [moveTo]
  split <;> rfl

@[simp] lemma depth_toggleMark (b : Board) : b.toggleMark.view.depth = b.view.depth := by
  rw [toggleMark_eq]
  split <;> rfl

/-- No command but its own touches the box. -/
lemma depth_obey {c : Command} (hc : c ≠ .toggleDepth) : (b.obey c).2.view.depth = b.view.depth :=
  obey_induction (P := fun b' => b'.view.depth = b.view.depth) c rfl (fun h => absurd h hc)
    (fun _ => rfl) b.depth_toggleMark b.depth_moveTo (fun _ => rfl) rfl

/-- No command but the one for the box asks for a book. -/
lemma effect_obey_ne_fetchDepth {c : Command} (hc : c ≠ .toggleDepth) (key : Key) :
    (b.obey c).1 ≠ some (.fetchDepth key) := by
  rw [effect_obey]
  cases c with
  | toggleDepth => exact absurd rfl hc
  | _ => simp

/-- An outcome for which the box does not wait is ignored altogether. -/
lemma deliver_of_ne {key : Key} (h : b.view.overlay ≠ .pending key)
    (result : Except DepthError Book) : b.deliver key result = b := by
  unfold deliver
  rw [if_neg h]

/-- An outcome for which the box waits is shown. -/
lemma overlay_deliver {key : Key} (h : b.view.overlay = .pending key)
    (result : Except DepthError Book) :
    (b.deliver key result).view.overlay = .ofOutcome key result := by
  unfold deliver
  rw [if_pos h]
  cases result <;> rfl

/-- No outcome makes a box wait: one that waits after it waited before, for another instrument. -/
lemma pending_of_deliver {k key : Key} {result : Except DepthError Book}
    (h : (b.deliver k result).view.overlay = .pending key) :
    b.view.overlay = .pending key ∧ k ≠ key := by
  have hne : b.view.overlay ≠ .pending k := fun hwaits => by
    rw [overlay_deliver hwaits] at h
    cases result <;> simp [Overlay.ofOutcome] at h
  rw [deliver_of_ne hne] at h
  exact ⟨h, fun heq => hne (heq ▸ h)⟩

/-! ### The turns of the box -/

/-- **How the box changes**: the input, what it leaves to be done, and the view after it. -/
inductive Turns (b : Board) : Input → Option Effect → View → Prop where
  /-- The box is opened for the instrument at the cursor. -/
  | opens {key : Key} (hidden : b.view.overlay = .hidden)
      (cursor : b.store.keyAt? b.view.row = some key) :
      Turns b (.command .toggleDepth) (some (.fetchDepth key)) { b.view with overlay := .pending key }
  /-- The box is closed, whatever is in it. -/
  | closes (opened : b.view.overlay ≠ .hidden) :
      Turns b (.command .toggleDepth) none { b.view with overlay := .hidden }
  /-- The box gets the book for which it waits. -/
  | shows {key : Key} {book : Book} (waiting : b.view.overlay = .pending key) :
      Turns b (.outcome key (.ok book)) none { b.view with overlay := .shown key book }
  /-- The request for which the box waits has failed; this stays in sight. -/
  | fails {key : Key} {cause : DepthError} (waiting : b.view.overlay = .pending key) :
      Turns b (.outcome key (.error cause)) none
        { b.view with
          overlay := .failed key cause.message
          lastError := some (failureText key cause.message) }

/-- A turn that is possible is taken, and the store stays. -/
lemma Turns.put_eq {i : Input} {effect : Option Effect} {v : View} (h : b.Turns i effect v) :
    (b.put i).1 = effect ∧ (b.put i).2.view = v ∧ (b.put i).2.store = b.store := by
  cases h with
  | opens hidden cursor => simp [put, obey, toggleDepth, hidden, Overlay.isOpen, cursor, refresh]
  | closes opened =>
      have hopen := b.view.overlay.isOpen_iff.mpr opened
      simp [put, obey, toggleDepth, hopen, redraw]
  | shows waiting => simp [put, deliver, waiting, refresh]
  | fails waiting => simp [put, deliver, waiting, refresh]

/-- **Every input turns the box or leaves it alone**, and it asks for a book only when it turns it. -/
lemma put_cases (b : Board) (i : Input) :
    b.Turns i (b.put i).1 (b.put i).2.view ∨
      ((b.put i).2.view.depth = b.view.depth ∧ ∀ key, (b.put i).1 ≠ some (.fetchDepth key)) := by
  -- a turn that is possible settles both what is left to be done and the view
  have hturn : ∀ {effect v}, b.Turns i effect v → b.Turns i (b.put i).1 (b.put i).2.view :=
    fun h => by rwa [h.put_eq.1, h.put_eq.2.1]
  cases i with
  | start => exact .inr ⟨rfl, by simp [put]⟩
  | message m => exact .inr ⟨b.depth_receive m, by simp [put]⟩
  | command c =>
      by_cases hc : c = .toggleDepth
      · subst hc
        by_cases hidden : b.view.overlay = .hidden
        · cases hat : b.store.keyAt? b.view.row with
          | some key => exact .inl (hturn (.opens hidden hat))
          | none => exact .inr (by simp [put, obey, toggleDepth, hidden, Overlay.isOpen, hat])
        · exact .inl (hturn (.closes hidden))
      · exact .inr ⟨depth_obey hc, effect_obey_ne_fetchDepth hc⟩
  | outcome key result =>
      by_cases waiting : b.view.overlay = .pending key
      · cases result with
        | ok book => exact .inl (hturn (.shows waiting))
        | error cause => exact .inl (hturn (.fails waiting))
      · exact .inr ⟨by rw [put, deliver_of_ne waiting], by simp [put]⟩
  | resizeTerminal width height => exact .inr ⟨rfl, by simp [put]⟩

/-- What a command leaves to be done tells what it did to the box: a book is asked for when the box is
opened, and only a command that leaves nothing to be done may have closed it. -/
lemma overlay_obey (b : Board) (c : Command) :
    match (b.obey c).1 with
    | none => (b.obey c).2.view.overlay = b.view.overlay ∨ (b.obey c).2.view.overlay = .hidden
    | some .quit => (b.obey c).2.view.overlay = b.view.overlay
    | some (.fetchDepth key) =>
      b.view.overlay = .hidden ∧ (b.obey c).2.view.overlay = .pending key := by
  obtain hturn | ⟨hstays, hnone⟩ := b.put_cases (.command c)
  · rw [put] at hturn
    generalize (b.obey c).1 = effect, (b.obey c).2.view = v at hturn ⊢
    cases hturn with
    | opens hidden cursor => exact ⟨hidden, rfl⟩
    | closes opened => exact .inr rfl
  · have hoverlay : (b.obey c).2.view.overlay = b.view.overlay := congrArg Prod.fst hstays
    split
    · exact .inl hoverlay
    · exact hoverlay
    · next key h => exact absurd h (hnone key)

/-! ### The instrument of the box -/

/-- The box is about an instrument of the store. -/
def HasBoxKey (b : Board) : Prop :=
  ∀ key, b.view.overlay.key? = some key → (b.store.get? key).isSome

/-- **The box stays with an instrument of the store**: it is opened for one, and the store loses
none. -/
lemma HasBoxKey.put (h : b.HasBoxKey) (hsound : b.store.IsSound) (i : Input) :
    (b.put i).2.HasBoxKey := by
  intro key hkey
  suffices hold : (b.store.get? key).isSome by
    obtain ⟨more, hmore⟩ := b.store_put i
    rw [hmore]
    exact Store.isSome_get?_run more hold
  obtain hturn | ⟨hstays, -⟩ := b.put_cases i
  · generalize (b.put i).1 = effect, (b.put i).2.view = v at hturn hkey
    cases hturn with
    | opens hidden cursor =>
        obtain rfl := Option.some.inj hkey
        obtain ⟨instrument, hget, -⟩ := hsound.row_of_keyAt? cursor
        rw [hget]
        rfl
    | closes opened => exact absurd hkey (by simp [Overlay.key?])
    | shows waiting =>
        refine h key ?_
        rw [waiting]
        exact hkey
    | fails waiting =>
        refine h key ?_
        rw [waiting]
        exact hkey
  · have hoverlay : (b.put i).2.view.overlay = b.view.overlay := congrArg Prod.fst hstays
    exact h key (hoverlay ▸ hkey)

/-! ### Failures -/

/-- The failure that the box takes from an input. -/
def failure? (b : Board) : Input → Option (Key × DepthError)
  | .outcome key (.error cause) => if b.view.overlay = .pending key then some (key, cause) else none
  | _ => none

/-- The failures that the box takes in a run, oldest first. -/
def failures (b : Board) : List Input → List (Key × DepthError)
  | [] => []
  | i :: rest => (b.failure? i).toList ++ (b.put i).2.failures rest

/-- The words for a failure. -/
def failureWords (failure : Key × DepthError) : String :=
  failureText failure.1 failure.2.message

/-- **The last failure in sight** changes exactly when the box takes one. -/
lemma lastError_put (b : Board) (i : Input) :
    (b.put i).2.view.lastError = ((b.failure? i).map failureWords).or b.view.lastError := by
  obtain hturn | ⟨hstays, -⟩ := b.put_cases i
  · generalize (b.put i).1 = effect, (b.put i).2.view = v at hturn ⊢
    cases hturn with
    | opens hidden cursor => rfl
    | closes opened => rfl
    | shows waiting => rfl
    | fails waiting => simp [failure?, waiting, failureWords]
  · have hlast : (b.put i).2.view.lastError = b.view.lastError := congrArg Prod.snd hstays
    have hnone : b.failure? i = none := by
      cases i with
      | outcome key result =>
          cases result with
          | ok book => rfl
          | error cause =>
              refine if_neg fun waiting => ?_
              -- a failure that is taken would have changed the box
              have hoverlay : (b.deliver key (.error cause)).view.overlay = b.view.overlay :=
                congrArg Prod.fst hstays
              rw [overlay_deliver waiting, waiting] at hoverlay
              exact absurd hoverlay (by simp [Overlay.ofOutcome])
      | _ => rfl
    rw [hlast, hnone]
    rfl

/-- **After a run** the last failure in sight is the last one that the box took. -/
lemma lastError_after (b : Board) (inputs : List Input) :
    (b.after inputs).view.lastError =
      ((b.failures inputs).getLast?.map failureWords).or b.view.lastError := by
  induction inputs generalizing b with
  | nil => rfl
  | cons i rest ih =>
      have hlast : (b.failures (i :: rest)).getLast? =
          ((b.put i).2.failures rest).getLast?.or (b.failure? i) := by
        rw [failures, List.getLast?_append]
        cases b.failure? i <;> rfl
      calc (b.after (i :: rest)).view.lastError
          = (((b.put i).2.failures rest).getLast?.map failureWords).or
              (b.put i).2.view.lastError := ih _
        _ = ((b.failures (i :: rest)).getLast?.map failureWords).or b.view.lastError := by
            rw [lastError_put, hlast, Option.map_or, Option.or_assoc]

/-- A box that shows a failure agrees with the last failure in sight. -/
def FailureAgrees (b : Board) : Prop :=
  ∀ key reason, b.view.overlay = .failed key reason →
    b.view.lastError = some (failureText key reason)

lemma FailureAgrees.put (h : b.FailureAgrees) (i : Input) : (b.put i).2.FailureAgrees := by
  intro key reason hfailed
  obtain hturn | ⟨hstays, -⟩ := b.put_cases i
  · generalize (b.put i).1 = effect, (b.put i).2.view = v at hturn hfailed ⊢
    cases hturn with
    | opens hidden cursor => exact absurd hfailed (by simp)
    | closes opened => exact absurd hfailed (by simp)
    | shows waiting => exact absurd hfailed (by simp)
    | fails waiting =>
        obtain ⟨rfl, rfl⟩ := Overlay.failed.inj hfailed
        rfl
  · have hoverlay : (b.put i).2.view.overlay = b.view.overlay := congrArg Prod.fst hstays
    have hlast : (b.put i).2.view.lastError = b.view.lastError := congrArg Prod.snd hstays
    rw [hlast]
    exact h key reason (hoverlay ▸ hfailed)

/-! ### Runs -/

/-- **The life of the depth box.**
After every run of a new board the box changes in its turns alone: each one that is possible is taken
with the effect that goes with it, changes nothing else in the view and nothing in the store, and an
input that is no turn leaves the box and the last failure alone and asks for no book. The box is about
an instrument of the store. An outcome for which it does not wait is ignored altogether. The last
failure in sight is the last one that the box took, if it took any, and the box agrees with it as long
as it shows a failure. -/
theorem lifecycle_of_run (c : Canvas) (policy : Recoloring) (inputs : List Input) :
    let b := (ofCanvas c policy).after inputs
    (∀ i effect v, b.Turns i effect v →
      (b.put i).1 = effect ∧ (b.put i).2.view = v ∧ (b.put i).2.store = b.store) ∧
    (∀ i, b.Turns i (b.put i).1 (b.put i).2.view ∨
      ((b.put i).2.view.overlay = b.view.overlay ∧
        (b.put i).2.view.lastError = b.view.lastError ∧
          ∀ key, (b.put i).1 ≠ some (.fetchDepth key))) ∧
    (∀ key, b.view.overlay.key? = some key → (b.store.get? key).isSome) ∧
    (∀ key result, b.view.overlay ≠ .pending key → (b.put (.outcome key result)).2 = b) ∧
    b.view.lastError = ((ofCanvas c policy).failures inputs).getLast?.map failureWords ∧
    (∀ key reason, b.view.overlay = .failed key reason →
      b.view.lastError = some (failureText key reason)) := by
  intro b
  have hkey : b.store.IsSound ∧ b.HasBoxKey := by
    refine after_induction (P := fun b => b.store.IsSound ∧ b.HasBoxKey) (fun b i h => ?_)
      ⟨Store.isSound_empty policy, fun _ h => absurd h (by simp [ofCanvas, View.ofSize, Overlay.key?])⟩
      inputs
    obtain ⟨more, hmore⟩ := b.store_put i
    exact ⟨hmore ▸ h.1.run more, h.2.put h.1 i⟩
  have hagrees : b.FailureAgrees :=
    after_induction (fun _ i h => h.put i)
      (fun _ _ h => absurd h (by simp [ofCanvas, View.ofSize])) inputs
  refine ⟨fun i effect v h => h.put_eq, fun i => ?_, hkey.2, fun key result h => deliver_of_ne h result,
    ?_, hagrees⟩
  · refine (b.put_cases i).imp id fun ⟨hstays, hnone⟩ => ?_
    exact ⟨congrArg Prod.fst hstays, congrArg Prod.snd hstays, hnone⟩
  · exact (lastError_after (ofCanvas c policy) inputs).trans (Option.or_none)

end Board

end MarketBoard

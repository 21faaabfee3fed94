import MarketBoard.Proofs.Feed.Receiver
import MarketBoard.Session.Basic
import Mathlib.Data.List.Induction

/-!
What each step of a session does, and when it is possible.

* `Session.Advance`: the steps as a relation, with a rule for each.
* `Session.advance?_eq_some_iff`: the rules are those of the session.
* `Session.handle_cases`: what an event can do.
* `Session.run_induction`: what each step of a run adds to the steps before it.
-/

namespace MarketBoard.Session

variable {s s' : Session}

/-- **The rules of a session**: what each step does, and when it is possible. -/
inductive Advance (s : Session) : Step → Session → Prop where
  | arrive {a : Arrival} (going : s.receiver.result = none) :
      Advance s (.arrive a) { s with receiver := s.receiver.take a }
  | endReceiver (going : s.receiver.result = none) (asked : s.receiver.cancelled = true) :
      Advance s .endReceiver
        { s with receiver := { s.receiver with result := some (.ok s.receiver.intake.stats) } }
  | cancel : Advance s .cancel { s with receiver := { s.receiver with cancelled := true } }
  | press {e : Event} (more : s.keysEnded = false) :
      Advance s (.press e) { s with keys := s.keys ++ [e] }
  | endKeys : Advance s .endKeys { s with keysEnded := true }
  | resizeTerminal {width height : Nat} (unclosed : s.isClosed = false) :
      Advance s (.resizeTerminal width height)
        { s with board := { s.board with canvas := { s.board.canvas with
            terminal := { s.board.canvas.terminal with
              device := s.board.canvas.terminal.device.resize width height } } } }
  | finish {fetch : Nat} {outcome : DepthOutcome} {f : Fetch}
      (found : s.fetches[fetch]? = some f) (running : f.state = .running) :
      Advance s (.finish fetch outcome)
        { s with
          fetches := s.fetches.set fetch { f with state := .finished }
          deliveries := s.deliveries ++ [⟨fetch, f.key, outcome.result⟩]
          requests :=
            if outcome.written.isEmpty then s.requests else s.requests ++ [outcome.written] }
  | takeMessage {m : Message} {rest : List Message} (running : s.isRunning = true)
      (inbox : s.inbox = m :: rest) :
      Advance s .takeMessage { s with board := s.board.receive m, applied := s.applied + 1 }
  | takeKey {e : Event} {keys : List Event} (running : s.isRunning = true)
      (pressed : s.keys = e :: keys) : Advance s .takeKey ({ s with keys }.handle e)
  | takeDelivery {d : Delivery} {deliveries : List Delivery} (running : s.isRunning = true)
      (finished : s.deliveries = d :: deliveries) :
      Advance s .takeDelivery { s with board := s.board.deliver d.key d.result, deliveries }
  | seeFeedEnd (running : s.isRunning = true) (inbox : s.inbox = [])
      (ended : s.receiver.result ≠ none) : Advance s .seeFeedEnd (s.leave .feedEnded)
  | seeKeysEnd (running : s.isRunning = true) (pressed : s.keys = [])
      (ended : s.keysEnded = true) : Advance s .seeKeysEnd (s.leave .keysEnded)
  | seeCancel (running : s.isRunning = true) (asked : s.receiver.cancelled = true) :
      Advance s .seeCancel (s.leave .cancelled)
  | closeWell {why : Exit} {stats : FeedStats} (left : s.loop = .left why)
      (ended : s.receiver.result = some (.ok stats)) :
      Advance s .close { s with loop := .closed why (.ok ()) }
  | closeLost {why : Exit} {e : FeedError} (left : s.loop = .left why)
      (ended : s.receiver.result = some (.error e)) :
      Advance s .close
        { s with loop := .closed why (.error e), journal := s.journal ++ [.feedLost e.message] }

/-- Every step follows its rule. -/
lemma Advance.of_advance? {t : Step} (h : s.advance? t = some s') : s.Advance t s' := by
  cases t with
  | arrive a =>
      obtain ⟨r, hr, rfl⟩ := Option.map_eq_some_iff.mp h
      obtain ⟨hgoing, rfl⟩ := Receiver.step?_take_eq_some.mp hr
      exact .arrive hgoing
  | endReceiver =>
      obtain ⟨r, hr, rfl⟩ := Option.map_eq_some_iff.mp h
      obtain ⟨hgoing, hasked, rfl⟩ := Receiver.step?_obey_eq_some.mp hr
      exact .endReceiver hgoing hasked
  | cancel =>
      obtain rfl := Option.some.inj h
      exact .cancel
  | press e =>
      simp only [advance?, Option.ite_none_left_eq_some, Option.some.injEq] at h
      obtain ⟨hmore, rfl⟩ := h
      exact .press (Bool.eq_false_iff.mpr hmore)
  | endKeys =>
      obtain rfl := Option.some.inj h
      exact .endKeys
  | resizeTerminal width height =>
      simp only [advance?, Option.ite_none_left_eq_some, Option.some.injEq] at h
      obtain ⟨hunclosed, rfl⟩ := h
      exact .resizeTerminal (Bool.eq_false_iff.mpr hunclosed)
  | finish fetch outcome =>
      simp only [advance?, finish?] at h
      split at h
      · next f hf =>
        simp only [Option.ite_none_right_eq_some, Option.some.injEq] at h
        obtain ⟨hrunning, rfl⟩ := h
        exact .finish hf hrunning
      · exact absurd h (by simp)
  | takeMessage =>
      simp only [advance?] at h
      split at h
      · next m rest hrunning hinbox =>
        obtain rfl := Option.some.inj h
        exact .takeMessage hrunning hinbox
      · exact absurd h (by simp)
  | takeKey =>
      simp only [advance?] at h
      split at h
      · next e keys hrunning hpressed =>
        obtain rfl := Option.some.inj h
        exact .takeKey hrunning hpressed
      · exact absurd h (by simp)
  | takeDelivery =>
      simp only [advance?] at h
      split at h
      · next d deliveries hrunning hfinished =>
        obtain rfl := Option.some.inj h
        exact .takeDelivery hrunning hfinished
      · exact absurd h (by simp)
  | seeFeedEnd =>
      simp only [advance?, Option.ite_none_right_eq_some, Option.some.injEq, Bool.and_eq_true,
        List.isEmpty_iff, Receiver.isOver] at h
      obtain ⟨⟨⟨hrunning, hinbox⟩, hended⟩, rfl⟩ := h
      exact .seeFeedEnd hrunning hinbox (Option.isSome_iff_ne_none.mp hended)
  | seeKeysEnd =>
      simp only [advance?, Option.ite_none_right_eq_some, Option.some.injEq, Bool.and_eq_true,
        List.isEmpty_iff] at h
      obtain ⟨⟨⟨hrunning, hpressed⟩, hended⟩, rfl⟩ := h
      exact .seeKeysEnd hrunning hpressed hended
  | seeCancel =>
      simp only [advance?, Option.ite_none_right_eq_some, Option.some.injEq, Bool.and_eq_true] at h
      obtain ⟨⟨hrunning, hasked⟩, rfl⟩ := h
      exact .seeCancel hrunning hasked
  | close =>
      simp only [advance?, close?] at h
      split at h
      · next hleft hended =>
        obtain rfl := Option.some.inj h
        exact .closeWell hleft hended
      · next hleft hended =>
        obtain rfl := Option.some.inj h
        exact .closeLost hleft hended
      · exact absurd h (by simp)

/-- Every rule is a step. -/
lemma Advance.advance?_eq {t : Step} (h : s.Advance t s') : s.advance? t = some s' := by
  cases h with
  | arrive going => simp [advance?, Receiver.step?, Receiver.isOver, going]
  | endReceiver going asked => simp [advance?, Receiver.step?, Receiver.isOver, going, asked]
  | cancel => rfl
  | press more => simp [advance?, more]
  | endKeys => rfl
  | resizeTerminal unclosed => simp [advance?, unclosed]
  | finish found running => simp [advance?, finish?, found, running]
  | takeMessage running inbox => simp [advance?, running, inbox]
  | takeKey running pressed => simp [advance?, running, pressed]
  | takeDelivery running finished => simp [advance?, running, finished]
  | seeFeedEnd running inbox ended =>
      simp [advance?, running, inbox, Receiver.isOver, Option.isSome_iff_ne_none.mpr ended]
  | seeKeysEnd running pressed ended => simp [advance?, running, pressed, ended]
  | seeCancel running asked => simp [advance?, running, asked]
  | closeWell left ended => simp [advance?, close?, left, ended]
  | closeLost left ended => simp [advance?, close?, left, ended]

/-- **The steps of a session are those of the rules.** -/
theorem advance?_eq_some_iff {t : Step} : s.advance? t = some s' ↔ s.Advance t s' :=
  ⟨Advance.of_advance?, Advance.advance?_eq⟩

/-- As long as the program has not ended in a draw, every rule is a step, after which the journals are
moved. -/
theorem step?_eq_some_iff {t : Step} :
    s.step? t = some s' ↔ s.board.canvas.stopped = false ∧ ∃ s₁, s.Advance t s₁ ∧ s₁.collect = s' := by
  simp only [step?, Option.ite_none_left_eq_some, Bool.not_eq_true, Option.map_eq_some_iff,
    advance?_eq_some_iff]

/-- **What an event can do**: nothing, or what its command does to the board; then the session goes
on, or it is quit, or a request is started. -/
lemma handle_cases (s : Session) (e : Event) :
    s.handle e = s ∨ ∃ c, Command.ofEvent? e = some c ∧
      let s₁ : Session := { s with board := (s.board.obey c).2 }
      ((s.board.obey c).1 = none ∧ s.handle e = s₁) ∨
      ((s.board.obey c).1 = some .quit ∧ s.handle e = s₁.leave .quit) ∨
      ∃ key, (s.board.obey c).1 = some (.fetchDepth key) ∧ s.handle e = s₁.startFetch key := by
  rw [handle]
  split
  · exact .inl rfl
  · next c hc =>
    refine .inr ⟨c, hc, ?_⟩
    split
    · next h => exact .inl ⟨by rw [h], by rw [h]⟩
    · next h => exact .inr (.inl ⟨by rw [h], by rw [h]⟩)
    · next key _ h => exact .inr (.inr ⟨key, by rw [h], by rw [h]⟩)

/-- **Runs grow at their end**: what holds before the first step, and after one step more whenever it
held before this step, holds after the run. -/
lemma run_induction {first : Session} {P : List Step → Session → Prop} (start : P [] first)
    (more : ∀ {steps s t s'}, first.run? steps = some s → P steps s → s.step? t = some s' →
      P (steps ++ [t]) s')
    {steps : List Step} (hs : first.run? steps = some s) : P steps s := by
  induction steps using List.reverseRecOn generalizing s with
  | nil =>
      obtain rfl := Option.some.inj hs
      exact start
  | append_singleton steps t ih =>
      rw [run?_append] at hs
      obtain ⟨s₁, hsteps, hlast⟩ := Option.bind_eq_some_iff.mp hs
      obtain ⟨s₂, ht, hend⟩ := Option.bind_eq_some_iff.mp hlast
      obtain rfl := Option.some.inj hend
      exact more hsteps (ih hsteps) ht

end MarketBoard.Session

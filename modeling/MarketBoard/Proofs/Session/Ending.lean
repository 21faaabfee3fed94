import MarketBoard.Proofs.Session.InOrder

/-!
How a session ends.

* `Session.exit?`: why the loop of the board was left.
* `Session.Ending`: the loop is left for want of messages only when none waits and none will come,
  and the session has the result of the receive loop. Every step keeps it.
* `Session.result_of_run`: the result of a session is a loss exactly if something that arrived ended
  the subscription. Whatever was decoded and not given to the board still waits for it, and nothing
  waits if the loop was left for want of messages.
* `Session.quit_after_loss`: a session that is quit after its subscription was lost ends with the
  loss, and what waited then is never given to the board.
-/

namespace MarketBoard.Session

/-- Why the loop of the board was left, if it was. -/
def exit? (s : Session) : Option Exit :=
  match s.loop with
  | .running => none
  | .left why => some why
  | .closed why _ => some why

/-- **The ending of a session**: the loop is left for want of messages only when none waits and the
receive loop has ended; and the result is that of the receive loop. -/
structure Ending (s : Session) : Prop where
  fed : s.exit? = some .feedEnded → s.inbox = [] ∧ s.receiver.result ≠ none
  result : ∀ result, s.result? = some result →
    ∃ r, s.receiver.result = some r ∧ result = r.map fun _ => ()

namespace Ending

variable {s s' : Session}

/-- As long as the loop goes on, there is nothing to show. -/
lemma of_running (h : s.isRunning = true) : s.Ending := by
  have hloop : s.loop = .running := by
    rw [isRunning] at h
    split at h
    · assumption
    · exact absurd h (by simp)
  exact ⟨by simp [exit?, hloop], by simp [result?, hloop]⟩

/-- The ending depends on the loop, on the messages that wait and on the result of the receive
loop. -/
lemma congr (h : s.Ending) (hloop : s'.loop = s.loop) (hinbox : s'.inbox = s.inbox)
    (hresult : s'.receiver.result = s.receiver.result) : s'.Ending := by
  refine ⟨fun hexit => ?_, fun result hr => ?_⟩
  · rw [hinbox, hresult]
    refine h.fed ?_
    rwa [exit?, ← hloop]
  · rw [hresult]
    refine h.result result ?_
    rwa [result?, ← hloop]

/-- What the receive loop does before it ends cannot come after an ending. -/
lemma of_going (h : s.Ending) (hgoing : s.receiver.result = none) (hloop : s'.loop = s.loop) :
    s'.Ending := by
  refine ⟨fun hexit => ?_, fun result hr => ?_⟩
  · have hexit' : s.exit? = some .feedEnded := by rwa [exit?, ← hloop]
    exact absurd hgoing (h.fed hexit').2
  · have hr' : s.result? = some result := by rwa [result?, ← hloop]
    obtain ⟨r, hsome, -⟩ := h.result result hr'
    exact absurd (hgoing.symm.trans hsome) (by simp)

/-- Leaving the loop for want of messages needs that none waits and none will come. -/
lemma of_leave {why : Exit}
    (hwhy : why = .feedEnded → s.inbox = [] ∧ s.receiver.result ≠ none) : (s.leave why).Ending :=
  ⟨fun hexit => hwhy (Option.some.inj hexit), fun _ hr => absurd hr (by simp [result?, leave])⟩

/-- An event leaves the loop as it is, or it is quit. -/
lemma handle (h : s.Ending) (e : Event) : (s.handle e).Ending := by
  obtain hs | ⟨c, -, ⟨-, hs⟩ | ⟨-, hs⟩ | ⟨key, -, hs⟩⟩ := s.handle_cases e
  · rwa [hs]
  · exact hs ▸ h.congr rfl rfl rfl
  · exact hs ▸ of_leave (by simp)
  · exact hs ▸ h.congr rfl rfl rfl

/-- The session gets the result of the receive loop. -/
lemma close (h : s.Ending) {why : Exit} (hleft : s.loop = .left why)
    {r : Except FeedError FeedStats} (hr : s.receiver.result = some r) (journal : List Notice) :
    ({ s with loop := .closed why (r.map fun _ => ()), journal } : Session).Ending := by
  refine ⟨fun hexit => h.fed ?_, fun result hresult => ⟨r, hr, (Option.some.inj hresult).symm⟩⟩
  rw [exit?, hleft]
  exact hexit

/-- **Every step keeps the ending.** -/
lemma step (h : s.Ending) {t : Step} (ht : s.step? t = some s') : s'.Ending := by
  obtain ⟨-, s₁, hadvance, rfl⟩ := step?_eq_some_iff.mp ht
  suffices h₁ : s₁.Ending from h₁.congr rfl rfl rfl
  cases hadvance with
  | arrive going => exact h.of_going going rfl
  | endReceiver going asked => exact h.of_going going rfl
  | cancel => exact h.congr rfl rfl rfl
  | press more => exact h.congr rfl rfl rfl
  | endKeys => exact h.congr rfl rfl rfl
  | resizeTerminal unclosed => exact h.congr rfl rfl rfl
  | finish found running => exact h.congr rfl rfl rfl
  | takeMessage running inbox => exact of_running running
  | @takeKey e keys running pressed =>
      have hkeys : ({ s with keys } : Session).Ending := of_running running
      exact hkeys.handle e
  | takeDelivery running finished => exact of_running running
  | seeFeedEnd running inbox ended => exact of_leave fun _ => ⟨inbox, ended⟩
  | seeKeysEnd running pressed ended => exact of_leave (by simp)
  | seeCancel running asked => exact of_leave (by simp)
  | closeWell left ended => exact h.close left ended s.journal
  | closeLost left ended => exact h.close left ended _

/-- **Every run keeps the ending.** -/
lemma run (h : s.Ending) {steps : List Step} (hs : s.run? steps = some s') : s'.Ending :=
  run_induction (P := fun _ s => s.Ending) h (fun _ hbefore ht => hbefore.step ht) hs

end Ending

/-- **How a session ends.**
Whatever order the steps take, a session ends with a loss exactly if something that arrived ended the
subscription, and then with this loss; so it ends well after a loop that was quit, ran out of events
or was asked to end exactly if the receive loop was asked to end before anything ended the
subscription. What was decoded and not given to the board waits for it in vain. Nothing waits if the
loop was left for want of messages: then everything that was decoded was given to the board. -/
theorem result_of_run (b : Board) (steps : List Step) {s : Session}
    (hs : (start b).run? steps = some s) {result : Except FeedError Unit}
    (hresult : s.result? = some result) :
    result = Arrival.outcome (arrivals steps) ∧
      (start b).handed steps ++ s.inbox = (arrivals steps).filterMap Arrival.message? ∧
      (s.exit? = some .feedEnded → s.inbox = []) := by
  have horder := (inOrder_start b).run hs
  rw [List.nil_append, List.nil_append] at horder
  have hending : s.Ending := (Ending.of_running rfl : (start b).Ending).run hs
  obtain ⟨r, hr, rfl⟩ := hending.result result hresult
  refine ⟨(horder.receiver.outcome_eq hr).symm, ?_, fun hexit => (hending.fed hexit).1⟩
  rw [horder.sent, horder.receiver.sent]

/-- **A loss may be overtaken**: the user quits after the subscription was lost, and the loop of the
board takes this event first. Then the session ends with the loss although it was quit, and the trade
that waits is never given to the board. -/
theorem quit_after_loss :
    let trade : Arrival :=
      .binary [2, 0, 0, 0, 0, 0, 0, 0, 0, 0, 0, 0, 0, 0, 1, 0, 0, 0, 0, 0, 0, 0, 2]
    let steps : List Step :=
      [.arrive trade, .arrive .close, .press (.key { code := .char 'q' }), .takeKey, .close]
    let b := Board.ofCanvas (.ofTerminal (.ofDevice (.blank 20 5)) 3) .trades
    ((start b).run? steps).any (fun s =>
        s.exit? = some .quit && s.result?.any (· matches .error .closed) &&
          s.inbox = [.trade ⟨⟨"", 0⟩, 1, 2⟩]) = true ∧
      (start b).handed steps = [] := by
  intro trade steps b
  exact ⟨by decide +kernel, by decide +kernel⟩

end MarketBoard.Session

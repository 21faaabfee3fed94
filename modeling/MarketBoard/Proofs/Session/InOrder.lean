import MarketBoard.Proofs.Board.Market
import MarketBoard.Proofs.Board.View
import MarketBoard.Proofs.Session.Steps

/-!
Messages are applied in order, each once, and none is lost.

* `Session.arrivals`: what the receive loop took in a run; `Session.handed`: the messages that the
  board was given.
* `Session.InOrder`: what was given to the board and what waits for it is what was handed on, and the
  store of the board took what the board was given. It holds at the start and is kept by every step,
  whichever comes next.
* `Session.handed_of_run`: what follows for every run of a session.
-/

namespace MarketBoard.Session

/-! ### What a run tells -/

/-- What the receive loop takes in a step. -/
def Step.arrival? : Step → Option Arrival
  | .arrive a => some a
  | _ => none

/-- What the receive loop took, in order. -/
def arrivals (steps : List Step) : List Arrival := steps.filterMap Step.arrival?

/-- The message that the board is given in a step. -/
def handed? (s : Session) : Step → Option Message
  | .takeMessage => s.inbox.head?
  | _ => none

/-- The messages that the board is given in a run, in order. -/
def handed (s : Session) : List Step → List Message
  | [] => []
  | t :: rest =>
    match s.step? t with
    | none => []
    | some s' => (s.handed? t).toList ++ s'.handed rest

/-! ### The account of a session -/

/-- **The account of a session**, given the board with which it began, what the receive loop took and
what the board was given: the messages that were handed on are those the board was given, followed by
those that wait for it; the board has counted what it was given, and its store took just this. -/
structure InOrder (b : Board) (arrived : List Arrival) (given : List Message) (s : Session) :
    Prop where
  receiver : s.receiver.HasTaken arrived
  sent : given ++ s.inbox = s.receiver.sent
  applied : given.length = s.applied
  messages : s.board.view.messages = b.view.messages + given.length
  store : b.store.Takes given s.board.store

/-- A session that begins has given nothing to its board. -/
lemma inOrder_start (b : Board) : (start b).InOrder b [] [] :=
  ⟨Receiver.HasTaken.nil, rfl, rfl, rfl, Store.Takes.refl b.store⟩

namespace InOrder

variable {s s' : Session} {b : Board} {arrived : List Arrival} {given : List Message}

/-- Journals do not matter. -/
lemma collect (h : s.InOrder b arrived given) : s.collect.InOrder b arrived given :=
  ⟨h.receiver.withIntake _, h.sent, h.applied, h.messages, h.store⟩

/-- Leaving the loop gives nothing to the board. -/
lemma leave (h : s.InOrder b arrived given) (why : Exit) :
    (s.leave why).InOrder b arrived given :=
  ⟨h.receiver.cancel, h.sent, h.applied, h.messages, h.store⟩

/-- The board may change as long as its count stays and its store takes nothing. -/
lemma withBoard (h : s.InOrder b arrived given) {board : Board}
    (hmessages : board.view.messages = s.board.view.messages)
    (hstore : s.board.store.Takes [] board.store) :
    ({ s with board } : Session).InOrder b arrived given :=
  ⟨h.receiver, h.sent, h.applied, hmessages.trans h.messages,
    by simpa using h.store.trans hstore⟩

/-- Events are no messages. -/
lemma handle (h : s.InOrder b arrived given) (e : Event) :
    (s.handle e).InOrder b arrived given := by
  obtain hs | ⟨c, -, ⟨-, hs⟩ | ⟨-, hs⟩ | ⟨key, -, hs⟩⟩ := s.handle_cases e
  · rwa [hs]
  · exact hs ▸ h.withBoard (s.board.messages_obey c) (s.board.store_obey c)
  · exact hs ▸ (h.withBoard (s.board.messages_obey c) (s.board.store_obey c)).leave .quit
  · have hboard := h.withBoard (s.board.messages_obey c) (s.board.store_obey c)
    exact hs ▸ ⟨hboard.receiver, hboard.sent, hboard.applied, hboard.messages, hboard.store⟩

/-- **The board takes a message**: the first of those that wait. -/
lemma takeMessage (h : s.InOrder b arrived given) {m : Message} {rest : List Message}
    (hinbox : s.inbox = m :: rest) :
    ({ s with board := s.board.receive m, applied := s.applied + 1 } : Session).InOrder b
      arrived (given ++ [m]) := by
  have hrest : s.receiver.sent.drop (s.applied + 1) = rest := by
    have hdrop : s.receiver.sent.drop s.applied = m :: rest := hinbox
    rw [← List.drop_drop, hdrop]
    rfl
  refine ⟨h.receiver, ?_, ?_, ?_, h.store.trans ⟨[.message m], rfl, rfl⟩⟩
  · rw [List.append_assoc, ← h.sent, hinbox, inbox, hrest]
    rfl
  · rw [List.length_append, h.applied, List.length_singleton]
  · rw [Board.messages_receive, h.messages, List.length_append, List.length_singleton, Nat.add_assoc]

/-- What the receive loop does gives nothing to the board. -/
lemma receive (h : s.InOrder b arrived given) {r : Receiver} {arrived' : List Arrival}
    (hr : r.HasTaken arrived') (hmore : arrived <+: arrived') :
    ({ s with receiver := r } : Session).InOrder b arrived' given := by
  obtain ⟨more, rfl⟩ := hmore
  refine ⟨hr, ?_, h.applied, h.messages, h.store⟩
  have hsent : r.sent = s.receiver.sent ++ more.filterMap Arrival.message? := by
    rw [hr.sent, h.receiver.sent, List.filterMap_append]
  have hle : s.applied ≤ s.receiver.sent.length := by
    rw [← h.sent, List.length_append, h.applied]
    omega
  show given ++ r.sent.drop s.applied = r.sent
  rw [hsent, List.drop_append_of_le_length hle, ← List.append_assoc]
  exact congrArg (· ++ _) h.sent

/-- **Every step keeps the account**: what arrives and what the board is given are added to it. -/
lemma step (h : s.InOrder b arrived given) {t : Step} (ht : s.step? t = some s') :
    s'.InOrder b (arrived ++ t.arrival?.toList) (given ++ (s.handed? t).toList) := by
  obtain ⟨-, s₁, hadvance, rfl⟩ := step?_eq_some_iff.mp ht
  refine InOrder.collect ?_
  -- a step in which nothing arrives and nothing is given leaves both lists as they are
  have hquiet : ∀ {s₁ : Session}, s₁.InOrder b arrived given →
      s₁.InOrder b (arrived ++ []) (given ++ []) := fun h₁ => by
    rwa [List.append_nil, List.append_nil]
  cases hadvance with
  | arrive going =>
      show Session.InOrder b _ (given ++ []) _
      rw [List.append_nil]
      exact h.receive (h.receiver.take going _) (List.prefix_append _ _)
  | takeMessage running inbox =>
      show Session.InOrder b (arrived ++ []) _ _
      rw [List.append_nil, handed?, inbox]
      exact h.takeMessage inbox
  | endReceiver going asked =>
      exact hquiet (h.receive (h.receiver.obey going asked) (List.prefix_refl _))
  | cancel => exact hquiet (h.receive h.receiver.cancel (List.prefix_refl _))
  | press more => exact hquiet ⟨h.receiver, h.sent, h.applied, h.messages, h.store⟩
  | endKeys => exact hquiet ⟨h.receiver, h.sent, h.applied, h.messages, h.store⟩
  | resizeTerminal unclosed => exact hquiet (h.withBoard rfl (Store.Takes.refl _))
  | finish found running => exact hquiet ⟨h.receiver, h.sent, h.applied, h.messages, h.store⟩
  | @takeKey e keys running pressed =>
      have hkeys : ({ s with keys } : Session).InOrder b arrived given :=
        ⟨h.receiver, h.sent, h.applied, h.messages, h.store⟩
      exact hquiet (hkeys.handle e)
  | @takeDelivery d deliveries running finished =>
      have hstore : s.board.store.Takes [] (s.board.deliver d.key d.result).store := by
        rw [s.board.store_deliver]
        exact Store.Takes.refl s.board.store
      have hboard := h.withBoard (s.board.messages_deliver d.key d.result) hstore
      exact hquiet ⟨hboard.receiver, hboard.sent, hboard.applied, hboard.messages, hboard.store⟩
  | seeFeedEnd running inbox ended => exact hquiet (h.leave .feedEnded)
  | seeKeysEnd running pressed ended => exact hquiet (h.leave .keysEnded)
  | seeCancel running asked => exact hquiet (h.leave .cancelled)
  | closeWell left ended => exact hquiet ⟨h.receiver, h.sent, h.applied, h.messages, h.store⟩
  | closeLost left ended => exact hquiet ⟨h.receiver, h.sent, h.applied, h.messages, h.store⟩

/-- **Every run keeps the account.** -/
lemma run (h : s.InOrder b arrived given) {steps : List Step} (hs : s.run? steps = some s') :
    s'.InOrder b (arrived ++ arrivals steps) (given ++ s.handed steps) := by
  induction steps generalizing s arrived given with
  | nil =>
      obtain rfl := Option.some.inj hs
      rw [arrivals, List.filterMap_nil, handed, List.append_nil, List.append_nil]
      exact h
  | cons t rest ih =>
      obtain ⟨s₁, ht, hrest⟩ := Option.bind_eq_some_iff.mp hs
      have harrivals : arrivals (t :: rest) = t.arrival?.toList ++ arrivals rest := by
        rw [arrivals, arrivals]
        cases ha : t.arrival? <;> simp [ha]
      rw [harrivals, handed, ht, ← List.append_assoc, ← List.append_assoc]
      exact ih (h.step ht) hrest

end InOrder

end MarketBoard.Session

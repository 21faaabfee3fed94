import MarketBoard.Feed
import Mathlib.Tactic.Lemma

/-!
The receive loop and what it has taken.

* `Arrival.message?`, `Arrival.message?_eq_some_iff`: the message that an arrival carries;
  `Arrival.isFrame`: an arrival that may carry one.
* `Arrival.IsLive`, `Arrival.ending?_eq_closed_iff`, `Arrival.ending?_eq_broken_iff`: what ends a
  subscription, and how; `Arrival.outcome`: how one ends on which several things arrive.
* `Receiver.take_of_ending`, `Receiver.take_of_wanted`, `Receiver.take_of_gone`,
  `Receiver.take_of_silent`: what the loop does with an arrival.
* `Receiver.HasTaken`: what the loop has handed on, and how it ended, as long as its messages are
  wanted.
* `HasTaken.take`, `HasTaken.obey`, `HasTaken.cancel`: each step of the loop keeps this account.
-/

namespace MarketBoard

/-! ### Arrivals -/

namespace Arrival

/-- The message that an arrival carries: its bytes are those of one. -/
def message? (a : Arrival) : Option Message :=
  a.payload? >>= fun bytes => (Message.decode bytes).toOption

/-- **A message comes in a binary frame or in a text**, as its bytes. -/
lemma message?_eq_some_iff {a : Arrival} {m : Message} :
    a.message? = some m ↔ (∃ bytes, a = .binary bytes ∧ Message.decode bytes = .ok m) ∨
      ∃ s, a = .text s ∧ Message.decode s.toUTF8.data.toList = .ok m := by
  have hread : ∀ bytes, (Message.decode bytes).toOption = some m ↔ Message.decode bytes = .ok m :=
    fun bytes => by cases Message.decode bytes <;> simp [Except.toOption]
  cases a <;> simp [message?, payload?, hread]

/-- Binary frames and texts, whatever is in them. -/
def isFrame : Arrival → Bool
  | binary _ => true
  | text _ => true
  | _ => false

/-- The frames are what may hold a message. -/
lemma isSome_payload? (a : Arrival) : a.payload?.isSome = a.isFrame := by
  cases a <;> rfl

/-- How a subscription ends on which this arrives: with the first thing that ends it, or well. -/
def outcome (arrived : List Arrival) : Except FeedError Unit :=
  match arrived.findSome? ending? with
  | some e => .error e
  | none => .ok ()

/-- **The subscription goes on**: the other side does not close it, it does not break, and it has not
run dry. -/
def IsLive (a : Arrival) : Prop := a ≠ .close ∧ a ≠ .nothing ∧ ∀ reason, a ≠ .fault reason

lemma ending?_eq_none_iff {a : Arrival} : a.ending? = none ↔ a.IsLive := by
  cases a <;> simp [ending?, IsLive]

/-- A subscription is closed by the other side, or because nothing comes any more. -/
lemma ending?_eq_closed_iff {a : Arrival} : a.ending? = some .closed ↔ a = .close ∨ a = .nothing := by
  cases a <;> simp [ending?]

/-- A subscription breaks for the reason that the connection gives. -/
lemma ending?_eq_broken_iff {a : Arrival} {reason : String} :
    a.ending? = some (.broken reason) ↔ a = .fault reason := by
  cases a <;> simp [ending?]

/-- A subscription that was opened ends in no other way. -/
lemma eq_of_ending? {a : Arrival} {e : FeedError} (h : a.ending? = some e) :
    e = .closed ∨ ∃ reason, e = .broken reason := by
  cases a <;> simp [ending?] at h <;> simp [← h]

/-- Nothing that ends a subscription is a frame. -/
lemma payload?_of_ending {a : Arrival} {e : FeedError} (h : a.ending? = some e) :
    a.payload? = none := by
  cases a with
  | binary bytes => exact absurd h (by simp [ending?])
  | text s => exact absurd h (by simp [ending?])
  | ping bytes => rfl
  | pong bytes => rfl
  | raw bytes => rfl
  | close => rfl
  | fault reason => rfl
  | nothing => rfl

/-- Nothing that ends a subscription carries a message. -/
lemma message?_of_ending {a : Arrival} {e : FeedError} (h : a.ending? = some e) :
    a.message? = none := by
  rw [message?, payload?_of_ending h]
  rfl

/-- A message does not end the subscription. -/
lemma ending?_of_message {a : Arrival} {m : Message} (h : a.message? = some m) :
    a.ending? = none := by
  cases ha : a.ending? with
  | none => rfl
  | some e => exact absurd (h.symm.trans (message?_of_ending ha)) (by simp)

end Arrival

/-- The counters and the journal after an arrival: a frame is counted, and nothing else is. -/
def Intake.after (i : Intake) (a : Arrival) : Intake :=
  match a.payload? with
  | none => i
  | some bytes => (i.take bytes).2

/-- Nothing that ends a subscription is counted. -/
lemma Intake.after_of_ending (i : Intake) {a : Arrival} {e : FeedError} (h : a.ending? = some e) :
    i.after a = i := by
  rw [after, Arrival.payload?_of_ending h]

namespace Receiver

variable {r r' : Receiver} {arrived : List Arrival} {a : Arrival}

/-! ### Steps -/

/-- The loop takes what has arrived as long as it goes on. -/
lemma step?_take_eq_some :
    r.step? (.take a) = some r' ↔ r.result = none ∧ r' = r.take a := by
  rw [step?, isOver]
  cases r.result <;> simp [eq_comm]

/-- The loop ends on demand as long as it goes on. -/
lemma step?_obey_eq_some :
    r.step? .obey = some r' ↔
      r.result = none ∧ r.cancelled = true ∧ r' = { r with result := some (.ok r.intake.stats) } := by
  rw [step?, isOver]
  cases r.result <;> cases r.cancelled <;> simp [eq_comm]

/-- An arrival that ends the subscription ends the loop. -/
lemma take_of_ending {e : FeedError} (ha : a.ending? = some e) :
    r.take a = { r with result := some (.error e) } := by
  rw [take, ha]

/-- A message is counted and handed on. -/
lemma take_of_message {m : Message} (hm : a.message? = some m) :
    r.take a = { r with intake := r.intake.after a }.handOn m := by
  have hending := Arrival.ending?_of_message hm
  obtain ⟨bytes, hp, hd⟩ := Option.bind_eq_some_iff.mp hm
  have htake : ∃ intake, r.intake.take bytes = (some m, intake) := by
    rw [Intake.take]
    cases hdecode : Message.decode bytes with
    | error cause => simp [hdecode, Except.toOption] at hd
    | ok m' =>
        obtain rfl : m' = m := by simpa [hdecode, Except.toOption] using hd
        exact ⟨_, rfl⟩
  obtain ⟨intake, htake⟩ := htake
  simp only [take, hending, hp, htake, Intake.after]

/-- A message for a consumer that is there is passed on. -/
lemma take_of_wanted {m : Message} (hm : a.message? = some m) (h : r.consumerGone = false) :
    r.take a = { r with intake := r.intake.after a, sent := r.sent ++ [m] } := by
  simp [take_of_message hm, handOn, h]

/-- A message for a consumer that is gone ends the loop. -/
lemma take_of_gone {m : Message} (hm : a.message? = some m) (h : r.consumerGone = true) :
    r.take a =
      { r with intake := r.intake.after a, result := some (.ok (r.intake.after a).stats) } := by
  simp [take_of_message hm, handOn, h]

/-- Everything else is passed over. -/
lemma take_of_silent (ha : a.ending? = none) (hm : a.message? = none) :
    r.take a = { r with intake := r.intake.after a } := by
  rw [take, ha, Intake.after]
  cases hp : a.payload? with
  | none => rfl
  | some bytes =>
      have hd : (Message.decode bytes).toOption = none := by simpa [Arrival.message?, hp] using hm
      cases hdecode : Message.decode bytes with
      | error cause => simp [Intake.take, hdecode]
      | ok m => simp [hdecode, Except.toOption] at hd

/-! ### What the loop has taken -/

/-- **What the loop has taken**: its messages are wanted and were handed on, each once and in order.
It goes on, or ended on demand, as long as nothing that it took ended the subscription; it ended with
a loss when it took what was lost last. -/
structure HasTaken (r : Receiver) (arrived : List Arrival) : Prop where
  wanted : r.consumerGone = false
  sent : r.sent = arrived.filterMap Arrival.message?
  going : r.result = none → ∀ a ∈ arrived, a.ending? = none
  obeyed : ∀ stats, r.result = some (.ok stats) →
    r.cancelled = true ∧ ∀ a ∈ arrived, a.ending? = none
  lost : ∀ e, r.result = some (.error e) →
    ∃ before a, arrived = before ++ [a] ∧ (∀ x ∈ before, x.ending? = none) ∧ a.ending? = some e

namespace HasTaken

/-- A new loop has taken nothing. -/
lemma nil : ({} : Receiver).HasTaken [] :=
  ⟨rfl, rfl, by simp, by simp, by simp⟩

/-- Counters and journal do not matter. -/
lemma withIntake (h : r.HasTaken arrived) (intake : Intake) :
    ({ r with intake } : Receiver).HasTaken arrived :=
  ⟨h.wanted, h.sent, h.going, h.obeyed, h.lost⟩

/-- The loop may be asked to end at any time. -/
lemma cancel (h : r.HasTaken arrived) : ({ r with cancelled := true } : Receiver).HasTaken arrived :=
  ⟨h.wanted, h.sent, h.going, fun stats hr => ⟨rfl, (h.obeyed stats hr).2⟩, h.lost⟩

/-- The loop ends on demand. -/
lemma obey (h : r.HasTaken arrived) (hgoing : r.result = none) (hcancelled : r.cancelled = true) :
    ({ r with result := some (.ok r.intake.stats) } : Receiver).HasTaken arrived := by
  refine ⟨h.wanted, h.sent, ?_, fun stats _ => ⟨hcancelled, h.going hgoing⟩, ?_⟩
  · exact fun hnone => absurd hnone (by simp)
  · exact fun e herror => absurd herror (by simp)

/-- Another message was handed on. -/
lemma snoc (h : r.HasTaken arrived) (hgoing : r.result = none) {a : Arrival}
    (ha : a.ending? = none) (intake : Intake) :
    ({ r with intake, sent := r.sent ++ a.message?.toList } : Receiver).HasTaken
      (arrived ++ [a]) := by
  have hall : ∀ x ∈ arrived ++ [a], x.ending? = none := by
    intro x hx
    rcases List.mem_append.mp hx with hx | hx
    · exact h.going hgoing x hx
    · rw [List.mem_singleton.mp hx, ha]
  refine ⟨h.wanted, ?_, fun _ => hall, ?_, ?_⟩
  · rw [h.sent, List.filterMap_append]
    cases hm : a.message? <;> simp [hm]
  · exact fun stats hok => absurd (hgoing.symm.trans hok) (by simp)
  · exact fun e herror => absurd (hgoing.symm.trans herror) (by simp)

/-- **The loop takes an arrival**: it hands on the message, if there is one, or ends. -/
lemma take (h : r.HasTaken arrived) (hgoing : r.result = none) (a : Arrival) :
    (r.take a).HasTaken (arrived ++ [a]) := by
  cases ha : a.ending? with
  | some e =>
      rw [take_of_ending ha]
      refine ⟨h.wanted, ?_, by simp, by simp, ?_⟩
      · rw [List.filterMap_append, ← h.sent]
        simp [Arrival.message?_of_ending ha]
      · rintro e' he
        obtain rfl : e = e' := by simpa using he
        exact ⟨arrived, a, rfl, h.going hgoing, ha⟩
  | none =>
      cases hm : a.message? with
      | none =>
          rw [take_of_silent ha hm]
          simpa [hm] using h.snoc hgoing ha (r.intake.after a)
      | some m =>
          rw [take_of_wanted hm h.wanted]
          simpa [hm] using h.snoc hgoing ha (r.intake.after a)

/-- **The result of the loop is a loss exactly if something that it took ended the subscription.** -/
lemma outcome_eq (h : r.HasTaken arrived) {result : Except FeedError FeedStats}
    (hr : r.result = some result) : Arrival.outcome arrived = result.map fun _ => () := by
  have hnothing : ∀ {before : List Arrival}, (∀ a ∈ before, a.ending? = none) →
      before.findSome? Arrival.ending? = none := fun hbefore =>
    List.findSome?_eq_none_iff.mpr hbefore
  rw [Arrival.outcome]
  cases result with
  | ok stats =>
      rw [hnothing (h.obeyed stats hr).2]
      rfl
  | error e =>
      obtain ⟨before, a, rfl, hbefore, ha⟩ := h.lost e hr
      rw [List.findSome?_append, hnothing hbefore]
      simp [ha, Except.map]

end HasTaken

end Receiver

end MarketBoard

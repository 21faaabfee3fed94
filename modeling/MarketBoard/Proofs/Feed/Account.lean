import MarketBoard.Proofs.Feed.Receiver

/-!
The whole account of the receive loop: what it took, what it counted, what it handed on, and why it
ended.

* `Intake.Counts`: the counters are those of what arrived.
* `Receiver.arrivals`: what a run took. `Receiver.Stands`: how the loop stands after a run.
* `Receiver.Account`, `Account.step`, `Account.run`: the account of a run, and what keeps it.
* `Receiver.Outline`: all of the loop but its counters and journal. `outline.run_filter`: what neither
  is a message nor ends the subscription can be left out of a run.
* `Receiver.account_of_run`: the account of every run.
-/

namespace MarketBoard

/-! ### Counting -/

namespace Intake

variable {i : Intake} {arrived : List Arrival}

/-- **The counters are those of what arrived**: every frame is counted, and either as a message or as an
error. -/
structure Counts (i : Intake) (arrived : List Arrival) : Prop where
  frames : i.stats.frames = (arrived.filterMap Arrival.payload?).length
  messages : i.stats.messages = (arrived.filterMap Arrival.message?).length
  total : i.stats.frames = i.stats.messages + i.stats.errors

/-- Nothing arrived and nothing is counted. -/
lemma counts_nil : ({} : Intake).Counts [] := ⟨rfl, rfl, rfl⟩

/-- **An arrival is counted once.** -/
lemma Counts.after (h : i.Counts arrived) (a : Arrival) : (i.after a).Counts (arrived ++ [a]) := by
  obtain ⟨hframes, hmessages, htotal⟩ := h
  rw [Intake.after]
  cases hp : a.payload? with
  | none =>
      have hm : a.message? = none := by simp [Arrival.message?, hp]
      exact ⟨by simp [hframes, hp], by simp [hmessages, hm], htotal⟩
  | some bytes =>
      cases hd : Message.decode bytes with
      | ok m =>
          have hm : a.message? = some m := by simp [Arrival.message?, hp, hd, Except.toOption]
          dsimp only
          rw [Intake.take, hd]
          exact ⟨by simp [hframes, hp], by simp [hmessages, hm], by dsimp only; omega⟩
      | error cause =>
          have hm : a.message? = none := by simp [Arrival.message?, hp, hd, Except.toOption]
          dsimp only
          rw [Intake.take, hd]
          exact ⟨by simp [hframes, hp], by simp [hmessages, hm], by dsimp only; omega⟩

end Intake

namespace Receiver

/-! ### Runs -/

/-- What a step takes. -/
def Step.arrival? : Step → Option Arrival
  | take a => some a
  | _ => none

/-- **What a run takes**, in order. -/
def arrivals (steps : List Step) : List Arrival := steps.filterMap Step.arrival?

/-- A run in two parts. -/
lemma arrivals_append (before after : List Step) :
    arrivals (before ++ after) = arrivals before ++ arrivals after := List.filterMap_append

/-- The last step may take something. -/
lemma arrivals_concat (steps : List Step) (s : Step) :
    arrivals (steps ++ [s]) = arrivals steps ++ s.arrival?.toList := by
  rw [arrivals_append]
  cases s <;> rfl

/-- **The loop saw that it was asked to end.** -/
def EndedOnDemand (steps : List Step) : Prop :=
  ∃ before after, steps = before ++ .obey :: after ∧ .cancel ∈ before

/-- **The loop had a message for a consumer that was gone.** -/
def FoundGone (steps : List Step) (m : Message) : Prop :=
  ∃ before a after, steps = before ++ .take a :: after ∧ .dropConsumer ∈ before ∧ a.message? = some m

/-- This comes about when a message is taken. -/
lemma foundGone_concat {steps : List Step} {s : Step} {m : Message} (h : FoundGone (steps ++ [s]) m) :
    FoundGone steps m ∨ ∃ a, s = .take a ∧ .dropConsumer ∈ steps ∧ a.message? = some m := by
  obtain ⟨before, a, after, hsteps, hgone, hm⟩ := h
  rcases List.eq_nil_or_concat after with rfl | ⟨after, last, rfl⟩
  · obtain ⟨rfl, hlast⟩ := List.append_inj' hsteps rfl
    exact .inr ⟨a, List.head_eq_of_cons_eq hlast, hgone, hm⟩
  · rw [List.concat_eq_append, ← List.cons_append, ← List.append_assoc] at hsteps
    obtain ⟨rfl, -⟩ := List.append_inj' hsteps rfl
    exact .inl ⟨before, a, after, rfl, hgone, hm⟩

/-- The arrival that was the last one. -/
lemma arrivals_of_take {before after : List Step} {a : Arrival} (hquiet : arrivals after = []) :
    arrivals (before ++ .take a :: after) = arrivals before ++ [a] := by
  have hlast : arrivals (.take a :: after) = a :: arrivals after := rfl
  rw [arrivals_append, hlast, hquiet]

/-- Nothing is taken on demand. -/
lemma arrivals_of_obey {before after : List Step} (hquiet : arrivals after = []) :
    arrivals (before ++ .obey :: after) = arrivals before := by
  have hlast : arrivals (.obey :: after) = arrivals after := rfl
  rw [arrivals_append, hlast, hquiet, List.append_nil]

/-- **How the loop stands** after a run, and the message that nobody took, if there is one. -/
inductive Stands (r : Receiver) : List Step → Option Message → Prop where
  /-- It goes on: nothing ended the subscription. -/
  | going {steps : List Step} (live : ∀ a ∈ arrivals steps, a.ending? = none)
      (result : r.result = none) : Stands r steps none
  /-- It ended on demand. -/
  | obeyed {before after : List Step} (live : ∀ a ∈ arrivals before, a.ending? = none)
      (demand : .cancel ∈ before) (quiet : arrivals after = [])
      (result : r.result = some (.ok r.intake.stats)) : Stands r (before ++ .obey :: after) none
  /-- It ended because it had a message for a consumer that was gone. -/
  | refused {before after : List Step} {a : Arrival} {m : Message}
      (live : ∀ a ∈ arrivals before, a.ending? = none) (gone : .dropConsumer ∈ before)
      (message : a.message? = some m) (quiet : arrivals after = [])
      (result : r.result = some (.ok r.intake.stats)) :
      Stands r (before ++ .take a :: after) (some m)
  /-- It ended with the subscription. -/
  | lost {before after : List Step} {a : Arrival} {e : FeedError}
      (live : ∀ a ∈ arrivals before, a.ending? = none) (ending : a.ending? = some e)
      (quiet : arrivals after = []) (result : r.result = some (.error e)) :
      Stands r (before ++ .take a :: after) none

variable {r r' : Receiver} {steps : List Step} {refused : Option Message}

/-- Something done to the loop from outside leaves it as it stands. -/
lemma Stands.outside (h : r.Stands steps refused) {s : Step} (hs : s.arrival? = none)
    (hresult : r'.result = r.result) (hintake : r'.intake = r.intake) :
    r'.Stands (steps ++ [s]) refused := by
  have hnothing {after : List Step} (hquiet : arrivals after = []) :
      arrivals (after ++ [s]) = [] := by
    rw [arrivals_concat, hquiet, hs]
    rfl
  cases h with
  | going live result =>
      refine .going ?_ (hresult.trans result)
      rwa [arrivals_concat, hs, Option.toList_none, List.append_nil]
  | obeyed live demand quiet result =>
      rw [List.append_assoc, List.cons_append]
      exact .obeyed live demand (hnothing quiet) (by rw [hresult, result, hintake])
  | refused live gone message quiet result =>
      rw [List.append_assoc, List.cons_append]
      exact .refused live gone message (hnothing quiet) (by rw [hresult, result, hintake])
  | lost live ending quiet result =>
      rw [List.append_assoc, List.cons_append]
      exact .lost live ending (hnothing quiet) (hresult.trans result)

/-- A loop that goes on has found nothing that ends the subscription, and nobody refused a message. -/
lemma Stands.of_result_none (h : r.Stands steps refused) (hresult : r.result = none) :
    (∀ a ∈ arrivals steps, a.ending? = none) ∧ refused = none := by
  cases h with
  | going live _ => exact ⟨live, rfl⟩
  | obeyed _ _ _ result => exact absurd (hresult.symm.trans result) (by simp)
  | refused _ _ _ _ result => exact absurd (hresult.symm.trans result) (by simp)
  | lost _ _ _ result => exact absurd (hresult.symm.trans result) (by simp)

/-- **The account of a run.** -/
structure Account (r : Receiver) (steps : List Step) (refused : Option Message) : Prop where
  demand : r.cancelled = true → .cancel ∈ steps
  gone : r.consumerGone = true ↔ .dropConsumer ∈ steps
  found : ∀ m, FoundGone steps m → refused = some m
  counts : r.intake.Counts (arrivals steps)
  passed : r.sent ++ refused.toList = (arrivals steps).filterMap Arrival.message?
  stands : r.Stands steps refused

namespace Account

/-- A new loop. -/
lemma start : ({} : Receiver).Account [] none :=
  ⟨by simp, by simp, fun m ⟨before, a, after, hsteps, _⟩ => by simp at hsteps, Intake.counts_nil, rfl,
    .going (by simp [arrivals]) rfl⟩

/-- Something done to the loop from outside changes nothing but what it was told. -/
lemma outside (h : r.Account steps refused) {s : Step} (hs : s.arrival? = none)
    (hdemand : r'.cancelled = true → .cancel ∈ steps ++ [s])
    (hgone : r'.consumerGone = true ↔ .dropConsumer ∈ steps ++ [s])
    (hintake : r'.intake = r.intake) (hsent : r'.sent = r.sent)
    (hstands : r'.Stands (steps ++ [s]) refused) : r'.Account (steps ++ [s]) refused := by
  have harrivals : arrivals (steps ++ [s]) = arrivals steps := by
    rw [arrivals_concat, hs, Option.toList_none, List.append_nil]
  refine ⟨hdemand, hgone, fun m hfound => ?_, ?_, ?_, hstands⟩
  · obtain hfound | ⟨a, rfl, -⟩ := foundGone_concat hfound
    · exact h.found m hfound
    · exact absurd hs (by simp [Step.arrival?])
  · rw [harrivals, hintake]
    exact h.counts
  · rw [harrivals, hsent]
    exact h.passed

/-- Another arrival is counted, and its message, if it has one, was handed on or refused. -/
lemma taken (h : r.Account steps none) {a : Arrival} (hcancelled : r'.cancelled = r.cancelled)
    (hgone : r'.consumerGone = r.consumerGone) (hintake : r'.intake = r.intake.after a)
    (hsent : r'.sent ++ refused.toList = r.sent ++ a.message?.toList)
    (hrefused : r.consumerGone = true → refused = a.message?)
    (hstands : r'.Stands (steps ++ [.take a]) refused) :
    r'.Account (steps ++ [.take a]) refused := by
  have harrivals : arrivals (steps ++ [.take a]) = arrivals steps ++ [a] := arrivals_concat _ _
  have hpassed : r.sent = (arrivals steps).filterMap Arrival.message? := by simpa using h.passed
  refine ⟨fun hc => ?_, ?_, fun m hfound => ?_, ?_, ?_, hstands⟩
  · exact List.mem_append_left _ (h.demand (hcancelled ▸ hc))
  · rw [hgone, h.gone]
    simp
  · -- no message was refused before, so it is this one
    obtain hbefore | ⟨a', hlast, hdropped, hm⟩ := foundGone_concat hfound
    · exact absurd (h.found m hbefore) (by simp)
    · obtain rfl := Step.take.inj hlast
      exact (hrefused (h.gone.mpr hdropped)).trans hm
  · rw [harrivals, hintake]
    exact h.counts.after a
  · rw [hsent, harrivals, List.filterMap_append, ← hpassed]
    cases hm : a.message? <;> simp [hm]

/-- **The loop takes an arrival**: it ends, passes it over, or has a message for its consumer. -/
lemma take (h : r.Account steps refused) (hgoing : r.result = none) (a : Arrival) :
    ∃ refused', (r.take a).Account (steps ++ [.take a]) refused' := by
  obtain ⟨hlive, rfl⟩ := h.stands.of_result_none hgoing
  have hlive' (ha : a.ending? = none) : ∀ x ∈ arrivals (steps ++ [.take a]), x.ending? = none := by
    rw [arrivals_concat]
    intro x hx
    rcases List.mem_append.mp hx with hx | hx
    · exact hlive x hx
    · rw [List.mem_singleton.mp hx, ha]
  cases hm : a.message? with
  | none =>
      cases ha : a.ending? with
      | some e =>
          rw [take_of_ending ha]
          exact ⟨none, h.taken rfl rfl (Intake.after_of_ending _ ha).symm (by rw [hm])
            (fun _ => hm.symm) (.lost hlive ha rfl rfl)⟩
      | none =>
          rw [take_of_silent ha hm]
          exact ⟨none, h.taken rfl rfl rfl (by rw [hm]) (fun _ => hm.symm)
            (.going (hlive' ha) hgoing)⟩
  | some m =>
      have ha := Arrival.ending?_of_message hm
      cases hconsumer : r.consumerGone with
      | false =>
          rw [take_of_wanted hm hconsumer]
          exact ⟨none, h.taken rfl rfl rfl (by simp [hm]) (fun hg => by simp [hconsumer] at hg)
            (.going (hlive' ha) hgoing)⟩
      | true =>
          rw [take_of_gone hm hconsumer]
          exact ⟨some m, h.taken rfl rfl rfl (by rw [hm]) (fun _ => hm.symm)
            (.refused hlive (h.gone.mp hconsumer) hm rfl rfl)⟩

/-- **Every step of the loop keeps the account.** -/
lemma step (h : r.Account steps refused) {s : Step} (hs : r.step? s = some r') :
    ∃ refused', r'.Account (steps ++ [s]) refused' := by
  cases s with
  | cancel =>
      obtain rfl := Option.some.inj hs
      exact ⟨refused, h.outside rfl (by simp) (by simpa using h.gone) rfl rfl
        (h.stands.outside rfl rfl rfl)⟩
  | dropConsumer =>
      obtain rfl := Option.some.inj hs
      exact ⟨refused, h.outside rfl (by simpa using h.demand) (by simp) rfl rfl
        (h.stands.outside rfl rfl rfl)⟩
  | obey =>
      obtain ⟨hgoing, hcancelled, rfl⟩ := step?_obey_eq_some.mp hs
      obtain ⟨hlive, rfl⟩ := h.stands.of_result_none hgoing
      exact ⟨none, h.outside rfl (by simpa using h.demand) (by simpa using h.gone) rfl rfl
        (.obeyed hlive (h.demand hcancelled) rfl rfl)⟩
  | take a =>
      obtain ⟨hgoing, rfl⟩ := step?_take_eq_some.mp hs
      exact h.take hgoing a

/-- **Every run keeps the account.** -/
lemma run (h : r.Account steps refused) {more : List Step} (hs : r.run? more = some r') :
    ∃ refused', r'.Account (steps ++ more) refused' := by
  induction more generalizing r steps refused with
  | nil =>
      obtain rfl := Option.some.inj hs
      exact ⟨refused, by rwa [List.append_nil]⟩
  | cons s rest ih =>
      obtain ⟨next, hnext, hrest⟩ := Option.bind_eq_some_iff.mp hs
      obtain ⟨refused', h'⟩ := h.step hnext
      obtain ⟨last, hlast⟩ := ih h' hrest
      exact ⟨last, by rwa [List.append_cons]⟩

end Account

/-! ### Silent arrivals -/

/-- **The outline of the loop**: all but the counters and the journal. -/
structure Outline where
  sent : List Message
  cancelled : Bool
  consumerGone : Bool
  result : Option (Except FeedError Unit)

/-- The outline of the loop. -/
def outline (r : Receiver) : Outline :=
  ⟨r.sent, r.cancelled, r.consumerGone, r.result.map (Except.map fun _ => ())⟩

namespace outline

variable {a : Arrival}

/-- Whether the loop goes on can be told from its outline. -/
lemma result_eq_none (h : r.outline = r'.outline) (hgoing : r.result = none) : r'.result = none := by
  have hresult : r.result.map _ = r'.result.map _ := congrArg Outline.result h
  rw [hgoing] at hresult
  exact Option.map_eq_none_iff.mp hresult.symm

/-- What the loop does with an arrival does not depend on what it counted. -/
lemma take_congr (h : r.outline = r'.outline) (a : Arrival) :
    (r.take a).outline = (r'.take a).outline := by
  obtain ⟨hsent, hcancelled, hgone, hresult⟩ := Outline.mk.inj h
  cases ha : a.ending? with
  | some e =>
      rw [take_of_ending ha, take_of_ending ha]
      simp [outline, hsent, hcancelled, hgone]
  | none =>
      cases hm : a.message? with
      | none =>
          rw [take_of_silent ha hm, take_of_silent ha hm]
          exact h
      | some m =>
          cases hconsumer : r.consumerGone with
          | false =>
              rw [take_of_wanted hm hconsumer, take_of_wanted hm (hgone ▸ hconsumer)]
              simp [outline, hsent, hcancelled, hgone, hresult]
          | true =>
              rw [take_of_gone hm hconsumer, take_of_gone hm (hgone ▸ hconsumer)]
              simp [outline, hsent, hcancelled, hgone, Except.map]

/-- **Steps do not depend on what was counted.** -/
lemma step_congr (h : r.outline = r'.outline) {s : Step} {next : Receiver}
    (hs : r.step? s = some next) :
    ∃ next', r'.step? s = some next' ∧ next.outline = next'.outline := by
  obtain ⟨hsent, hcancelled, hgone, hresult⟩ := Outline.mk.inj h
  cases s with
  | cancel =>
      obtain rfl := Option.some.inj hs
      exact ⟨_, rfl, by simp [outline, hsent, hgone, hresult]⟩
  | dropConsumer =>
      obtain rfl := Option.some.inj hs
      exact ⟨_, rfl, by simp [outline, hsent, hcancelled, hresult]⟩
  | obey =>
      obtain ⟨hgoing, hdemand, rfl⟩ := step?_obey_eq_some.mp hs
      refine ⟨_, step?_obey_eq_some.mpr ⟨result_eq_none h hgoing, hcancelled ▸ hdemand, rfl⟩, ?_⟩
      simp [outline, hsent, hcancelled, hgone, Except.map]
  | take a =>
      obtain ⟨hgoing, rfl⟩ := step?_take_eq_some.mp hs
      exact ⟨_, step?_take_eq_some.mpr ⟨result_eq_none h hgoing, rfl⟩, take_congr h a⟩

/-- **Silent arrivals can be left out of a run**, and the loop ends up in the same outline. -/
lemma run_filter {drop : Arrival → Bool}
    (hdrop : ∀ a, drop a = true → a.ending? = none ∧ a.message? = none)
    (h : r.outline = r'.outline) {last : Receiver} (hs : r.run? steps = some last) :
    ∃ last', r'.run? (steps.filter fun s => !s.arrival?.any drop) = some last' ∧
      last.outline = last'.outline := by
  induction steps generalizing r r' with
  | nil =>
      obtain rfl := Option.some.inj hs
      exact ⟨r', rfl, h⟩
  | cons s rest ih =>
      obtain ⟨next, hnext, hrest⟩ := Option.bind_eq_some_iff.mp hs
      by_cases hsilent : s.arrival?.any drop = true
      · -- the step is left out, and the loop that does not take it stays where it is
        rw [List.filter_cons_of_neg (by simp [hsilent])]
        refine ih ?_ hrest
        cases s with
        | take a =>
            obtain ⟨ha, hm⟩ := hdrop a (by simpa [Step.arrival?] using hsilent)
            obtain ⟨-, rfl⟩ := step?_take_eq_some.mp hnext
            rw [take_of_silent ha hm]
            exact h
        | _ => exact absurd hsilent (by simp [Step.arrival?])
      · rw [List.filter_cons_of_pos (by simp [hsilent])]
        obtain ⟨next', hnext', houtline⟩ := step_congr h hnext
        obtain ⟨last', hlast', hlast⟩ := ih houtline hrest
        exact ⟨last', Option.bind_eq_some_iff.mpr ⟨next', hnext', hlast'⟩, hlast⟩

end outline

/-! ### Every run -/

/-- What is left if arrivals are left out. -/
lemma arrivals_filter (drop : Arrival → Bool) (steps : List Step) :
    arrivals (steps.filter fun s => !s.arrival?.any drop) =
      (arrivals steps).filter fun a => !drop a := by
  induction steps with
  | nil => rfl
  | cons s rest ih =>
      cases s with
      | take a => cases hdrop : drop a <;> simpa [arrivals, Step.arrival?, hdrop] using ih
      | _ => exact ih

namespace Account

/-- The messages that were counted are those that were handed on, and the one that nobody took. -/
lemma messages_eq (h : r.Account steps refused) :
    r.intake.stats.messages = r.sent.length + refused.toList.length := by
  rw [h.counts.messages, ← h.passed, List.length_append]

/-- A message was refused exactly if there was one for a consumer that was gone. -/
lemma refused_iff (h : r.Account steps refused) (m : Message) :
    refused = some m ↔ FoundGone steps m := by
  refine ⟨fun hm => ?_, h.found m⟩
  have hstands := h.stands
  subst hm
  cases hstands with
  | refused _ gone message _ _ => exact ⟨_, _, _, rfl, gone, message⟩

/-- The loop ended when a message was refused. -/
lemma result_of_refused (h : r.Account steps refused) (hrefused : refused.isSome) :
    r.result = some (.ok r.intake.stats) := by
  cases h.stands with
  | refused _ _ _ _ result => exact result
  | _ => exact absurd hrefused (by simp)

/-- The loop ended with a loss exactly if the last thing that it took ended the subscription. -/
lemma lost_iff (h : r.Account steps refused) (e : FeedError) :
    r.result = some (.error e) ↔ ∃ before a, arrivals steps = before ++ [a] ∧
      (∀ x ∈ before, x.ending? = none) ∧ a.ending? = some e := by
  constructor
  · intro hresult
    cases h.stands with
    | going _ result => exact absurd (hresult.symm.trans result) (by simp)
    | obeyed _ _ _ result => exact absurd (hresult.symm.trans result) (by simp)
    | refused _ _ _ _ result => exact absurd (hresult.symm.trans result) (by simp)
    | lost live ending quiet result =>
        obtain rfl := Except.error.inj (Option.some.inj (hresult.symm.trans result))
        exact ⟨_, _, arrivals_of_take quiet, live, ending⟩
  · rintro ⟨before, a, htaken, -, ha⟩
    have hlast : a ∈ arrivals steps := htaken ▸ List.mem_append_right _ (List.mem_singleton_self a)
    cases h.stands with
    | going live _ => exact absurd ((live a hlast).symm.trans ha) (by simp)
    | obeyed live _ quiet _ =>
        rw [arrivals_of_obey quiet] at hlast
        exact absurd ((live a hlast).symm.trans ha) (by simp)
    | refused _ _ message quiet _ =>
        rw [arrivals_of_take quiet] at htaken
        obtain ⟨-, hsame⟩ := List.append_inj' htaken rfl
        obtain rfl := List.head_eq_of_cons_eq hsame
        exact absurd ((Arrival.ending?_of_message message).symm.trans ha) (by simp)
    | lost _ ending quiet result =>
        rw [arrivals_of_take quiet] at htaken
        obtain ⟨-, hsame⟩ := List.append_inj' htaken rfl
        obtain rfl := List.head_eq_of_cons_eq hsame
        obtain rfl := Option.some.inj (ending.symm.trans ha)
        exact result

/-- The loop ended well on demand, or because a message was refused; it returned its counters then. -/
lemma result_ok (h : r.Account steps refused) {stats : FeedStats}
    (hresult : r.result = some (.ok stats)) :
    stats = r.intake.stats ∧ (∀ a ∈ arrivals steps, a.ending? = none) ∧
      (EndedOnDemand steps ∨ ∃ m, FoundGone steps m) := by
  cases h.stands with
  | going _ result => exact absurd (hresult.symm.trans result) (by simp)
  | obeyed live demand quiet result =>
      rw [arrivals_of_obey quiet]
      exact ⟨Except.ok.inj (Option.some.inj (hresult.symm.trans result)), live,
        .inl ⟨_, _, rfl, demand⟩⟩
  | refused live gone message quiet result =>
      rw [arrivals_of_take quiet]
      refine ⟨Except.ok.inj (Option.some.inj (hresult.symm.trans result)), fun x hx => ?_,
        .inr ⟨_, _, _, _, rfl, gone, message⟩⟩
      rcases List.mem_append.mp hx with hx | hx
      · exact live x hx
      · rw [List.mem_singleton.mp hx, Arrival.ending?_of_message message]
  | lost _ _ _ result => exact absurd (hresult.symm.trans result) (by simp)

end Account

/-- The loop ends only in the ways in which a subscription ends. -/
lemma Account.eq_of_lost (h : r.Account steps refused) {e : FeedError}
    (hresult : r.result = some (.error e)) : e = .closed ∨ ∃ reason, e = .broken reason := by
  obtain ⟨_, _, -, -, ha⟩ := (h.lost_iff e).mp hresult
  exact Arrival.eq_of_ending? ha

/-- **A consumer that stays refuses nothing**: everything that was decoded was handed on. -/
lemma sent_of_stays (hpassed : r.sent ++ refused.toList = (arrivals steps).filterMap Arrival.message?)
    (hrefused : ∀ m, refused = some m ↔ FoundGone steps m) (hstays : .dropConsumer ∉ steps) :
    r.sent = (arrivals steps).filterMap Arrival.message? := by
  cases refused with
  | none => rwa [Option.toList_none, List.append_nil] at hpassed
  | some m =>
      obtain ⟨before, a, after, rfl, hgone, -⟩ := (hrefused m).mp rfl
      exact absurd (List.mem_append_left _ hgone) hstays

/-- **The account of every run of the receive loop.**
Whatever arrives, whenever the loop is asked to end or its consumer goes away, and whichever possible
step comes next: the messages that it handed on, and one more if that was refused, are the messages of
the binary frames and the texts that it took, each once and in order. A message is refused exactly if it
comes for a consumer that is gone, and the loop ends with that. Its counters are those of what it took:
every frame is counted, and either as a message or as an error. As long as it goes on, nothing ended the
subscription. It ends because the subscription is closed exactly if the last thing that it took is a
close or the end of everything, and because the connection broke exactly if the last thing is this
fault, and nothing before that ended the subscription; it ends with no other failure, and well only on
demand or because a message was refused, when it returns its counters. Arrivals that neither are
messages nor end the subscription can be left out: the same messages are handed on, and the loop ends in
the same way. -/
theorem account_of_run (steps : List Step) {r : Receiver}
    (hs : ({} : Receiver).run? steps = some r) :
    (∀ (a : Arrival) m, a.message? = some m ↔ (∃ bytes, a = .binary bytes ∧ Message.decode bytes = .ok m) ∨
      ∃ s, a = .text s ∧ Message.decode s.toUTF8.data.toList = .ok m) ∧
    (∃ refused : Option Message,
      r.sent ++ refused.toList = (arrivals steps).filterMap Arrival.message? ∧
      r.intake.stats.messages = r.sent.length + refused.toList.length ∧
      (∀ m, refused = some m ↔ FoundGone steps m) ∧
      (refused.isSome → r.result = some (.ok r.intake.stats))) ∧
    (r.intake.stats.frames = (arrivals steps).countP Arrival.isFrame ∧
      r.intake.stats.frames = r.intake.stats.messages + r.intake.stats.errors) ∧
    (r.result = none → ∀ a ∈ arrivals steps, a.IsLive) ∧
    (r.result = some (.error .closed) ↔ ∃ before a, arrivals steps = before ++ [a] ∧
      (∀ x ∈ before, x.IsLive) ∧ (a = .close ∨ a = .nothing)) ∧
    (∀ reason, r.result = some (.error (.broken reason)) ↔
      ∃ before, arrivals steps = before ++ [.fault reason] ∧ ∀ x ∈ before, x.IsLive) ∧
    (∀ e, r.result = some (.error e) → e = .closed ∨ ∃ reason, e = .broken reason) ∧
    (∀ stats, r.result = some (.ok stats) → stats = r.intake.stats ∧
      (∀ a ∈ arrivals steps, a.IsLive) ∧ (EndedOnDemand steps ∨ ∃ m, FoundGone steps m)) ∧
    ∀ drop : Arrival → Bool, (∀ a, drop a = true → a.IsLive ∧ a.message? = none) →
      ∃ r', ({} : Receiver).run? (steps.filter fun s => !s.arrival?.any drop) = some r' ∧
        arrivals (steps.filter fun s => !s.arrival?.any drop) =
          (arrivals steps).filter (fun a => !drop a) ∧
        r'.sent = r.sent ∧
        r'.result.map (Except.map fun _ => ()) = r.result.map (Except.map fun _ => ()) := by
  obtain ⟨refused, h⟩ := Account.start.run hs
  rw [List.nil_append] at h
  simp only [← Arrival.ending?_eq_none_iff, ← Arrival.ending?_eq_closed_iff]
  refine ⟨fun _ _ => Arrival.message?_eq_some_iff,
    ⟨refused, h.passed, h.messages_eq, h.refused_iff, h.result_of_refused⟩,
    ⟨?_, h.counts.total⟩, fun hgoing => (h.stands.of_result_none hgoing).1, h.lost_iff .closed,
    fun reason => ?_, fun _ => h.eq_of_lost, fun _ => h.result_ok, fun drop hdrop => ?_⟩
  · rw [h.counts.frames, List.length_filterMap_eq_countP]
    simp only [Arrival.isSome_payload?]
  · rw [h.lost_iff]
    simp only [Arrival.ending?_eq_broken_iff]
    constructor
    · rintro ⟨before, a, htaken, hbefore, rfl⟩
      exact ⟨before, htaken, hbefore⟩
    · rintro ⟨before, htaken, hbefore⟩
      exact ⟨before, _, htaken, hbefore, rfl⟩
  · obtain ⟨r', hr', houtline⟩ := outline.run_filter hdrop rfl hs
    obtain ⟨hsent, -, -, hresult⟩ := Outline.mk.inj houtline
    exact ⟨r', hr', arrivals_filter drop steps, hsent.symm, hresult.symm⟩

/-- A text that is no message, a ping, and two trades, before the second of which the loop is asked to
end and its consumer goes away: it takes the second trade nevertheless, counts it and ends. And one trade
each before a close, before the end of everything, and before a fault. -/
theorem account_of_run_endings :
    let trade : Arrival :=
      .binary [2, 0, 0, 0, 0, 0, 0, 0, 0, 0, 0, 0, 0, 0, 1, 0, 0, 0, 0, 0, 0, 0, 2]
    let told : Message := .trade ⟨⟨"", 0⟩, 1, 2⟩
    let steps : List Step :=
      [.take (.text "?"), .take (.ping [1]), .take trade, .cancel, .dropConsumer, .take trade]
    (∃ r, ({} : Receiver).run? steps = some r ∧ r.intake.stats.frames = 3 ∧
      r.sent = [told] ∧ r.intake.stats.messages = 2 ∧
      r.result = some (.ok r.intake.stats) ∧
      ∃ r', ({} : Receiver).run? [.take trade, .cancel, .dropConsumer, .take trade] = some r' ∧
        r'.sent = r.sent) ∧
    (∃ r, ({} : Receiver).run? [.take trade, .take .close] = some r ∧ r.sent = [told] ∧
      r.result = some (.error .closed)) ∧
    (∃ r, ({} : Receiver).run? [.take trade, .take .nothing] = some r ∧ r.sent = [told] ∧
      r.result = some (.error .closed)) ∧
    ∃ r, ({} : Receiver).run? [.take trade, .cancel, .take (.fault "reset")] = some r ∧
      r.sent = [told] ∧ r.result = some (.error (.broken "reset")) := by
  intro trade told steps
  have hm : trade.message? = some told := by decide +kernel
  have hquestion : (Arrival.text "?").message? = none := by decide +kernel
  have hlive : ∀ x ∈ [trade], x.IsLive := by simp [trade, Arrival.IsLive]
  refine ⟨?_, ?_, ?_, ?_⟩
  · obtain ⟨r, hs⟩ : ∃ r, ({} : Receiver).run? steps = some r :=
      Option.isSome_iff_exists.mp (by decide +kernel)
    obtain ⟨-, ⟨refused, hpassed, hmessages, hrefused, hended⟩, ⟨hframes, -⟩, -, -, -, -, -, hdrop⟩ :=
      account_of_run steps hs
    obtain rfl := (hrefused _).mpr ⟨steps.take 5, trade, [], rfl, by decide, hm⟩
    have hsent : r.sent = [told] := List.append_cancel_right (hpassed.trans (by decide +kernel))
    obtain ⟨r', hs', -, hsame, -⟩ := hdrop (fun a => a = .text "?" ∨ a = .ping [1]) fun a ha => by
      obtain rfl | rfl := of_decide_eq_true ha
      · exact ⟨by simp [Arrival.IsLive], hquestion⟩
      · exact ⟨by simp [Arrival.IsLive], rfl⟩
    exact ⟨r, hs, hframes.trans (by decide), hsent, by rw [hmessages, hsent]; rfl, hended rfl, r', hs',
      hsame⟩
  · obtain ⟨r, hs⟩ : ∃ r, ({} : Receiver).run? [.take trade, .take .close] = some r :=
      Option.isSome_iff_exists.mp (by decide +kernel)
    obtain ⟨-, ⟨refused, hpassed, -, hrefused, -⟩, -, -, hclosed, -, -, -, -⟩ := account_of_run _ hs
    exact ⟨r, hs, (sent_of_stays hpassed hrefused (by decide)).trans (by decide +kernel),
      hclosed.mpr ⟨[trade], .close, rfl, hlive, .inl rfl⟩⟩
  · obtain ⟨r, hs⟩ : ∃ r, ({} : Receiver).run? [.take trade, .take .nothing] = some r :=
      Option.isSome_iff_exists.mp (by decide +kernel)
    obtain ⟨-, ⟨refused, hpassed, -, hrefused, -⟩, -, -, hclosed, -, -, -, -⟩ := account_of_run _ hs
    exact ⟨r, hs, (sent_of_stays hpassed hrefused (by decide)).trans (by decide +kernel),
      hclosed.mpr ⟨[trade], .nothing, rfl, hlive, .inr rfl⟩⟩
  · obtain ⟨r, hs⟩ : ∃ r, ({} : Receiver).run? [.take trade, .cancel, .take (.fault "reset")] = some r :=
      Option.isSome_iff_exists.mp (by decide +kernel)
    obtain ⟨-, ⟨refused, hpassed, -, hrefused, -⟩, -, -, -, hbroken, -, -, -⟩ := account_of_run _ hs
    exact ⟨r, hs, (sent_of_stays hpassed hrefused (by decide)).trans (by decide +kernel),
      (hbroken "reset").mpr ⟨[trade], rfl, hlive⟩⟩

end Receiver

end MarketBoard

import MarketBoard.Proofs.Instrument.Market
import MarketBoard.Proofs.Store.Rows

/-!
What a store tells of every instrument is what this instrument's own messages say.

* `about`: the messages of one key among those of all.
* `Store.market?`: the market data under a key; marks and sorts do not touch it.
* `Store.Tells`: every key has the data of its own messages. It holds of an empty store and is kept by
  every step (`Tells.step`), hence by every run (`Tells.run`).
* `Store.Takes`: one store becomes another by a run in which just these messages are applied.
-/

namespace MarketBoard

/-- The messages about an instrument, in order. -/
def about (key : Key) (messages : List Message) : List Message :=
  messages.filter fun m => m.key = key

lemma about_concat_self (messages : List Message) (m : Message) :
    about m.key (messages ++ [m]) = about m.key messages ++ [m] := by
  simp [about, List.filter_append]

lemma about_concat_of_ne (messages : List Message) {m : Message} {key : Key} (h : key ≠ m.key) :
    about key (messages ++ [m]) = about key messages := by
  simp [about, List.filter_append, Ne.symm h]

/-- The market data that a history determines, if there is any: without messages there is no
instrument. -/
def Market.ofHistory? (policy : Recoloring) (history : List Message) : Option Market :=
  if history = [] then none else some (.ofHistory policy history)

namespace Store

/-! ### Market data under a key -/

/-- The market data under a key. -/
def market? (s : Store) (k : Key) : Option Market := (s.get? k).map Instrument.market

/-- Sorting moves instruments and leaves their data alone. -/
@[simp] lemma market?_sort (s : Store) (descending : Bool) (k : Key) :
    (s.sort descending).market? k = s.market? k := by
  rw [market?, get?_sort, Option.map_map]
  rfl

/-- Marks are not market data. -/
@[simp] lemma market?_toggleMark (s : Store) (row : Nat) (k : Key) :
    (s.toggleMark row).market? k = s.market? k := by
  rw [market?, get?_toggleMark]
  split
  · rw [Option.map_map]
    rfl
  · rfl

/-- A message leaves the data of all other instruments alone. -/
lemma market?_apply_of_ne (s : Store) {m : Message} {k : Key} (h : k ≠ m.key) :
    (s.apply m).market? k = s.market? k := by
  rw [market?, get?_apply, if_neg h, market?]

@[simp] lemma policy_sort (s : Store) (descending : Bool) :
    (s.sort descending).policy = s.policy := rfl

@[simp] lemma policy_toggleMark (s : Store) (row : Nat) :
    (s.toggleMark row).policy = s.policy := by
  rw [toggleMark]
  split <;> rfl

/-! ### What a store tells -/

/-- **The store tells what it heard**: of every instrument, the data of the messages about it. -/
def Tells (s : Store) (heard : List Message) : Prop :=
  ∀ k, s.market? k = Market.ofHistory? s.policy (about k heard)

lemma tells_empty (policy : Recoloring) : (empty policy).Tells [] := fun _ => rfl

namespace Tells

variable {s : Store} {heard : List Message}

/-- The instrument to which a message goes, a fresh one if the key is new, has the data of the
messages so far. -/
lemma market_getD (h : s.Tells heard) (key : Key) (row : Nat) :
    ((s.get? key).getD (.fresh key row)).market = .ofHistory s.policy (about key heard) := by
  have hheard := h key
  rw [market?, Market.ofHistory?] at hheard
  cases hget : s.get? key with
  | none =>
      rw [hget, Option.map_none] at hheard
      split at hheard
      · next hnone =>
        rw [hnone]
        exact Instrument.market_fresh _ _ _
      · exact absurd hheard (by simp)
  | some i =>
      rw [hget, Option.map_some] at hheard
      split at hheard
      · exact absurd hheard (by simp)
      · exact Option.some.inj hheard

/-- **A message** changes the data of its own instrument, and no other data. -/
lemma apply (h : s.Tells heard) (m : Message) : (s.apply m).Tells (heard ++ [m]) := by
  intro k
  rw [policy_apply]
  by_cases hk : k = m.key
  · -- a key that is new starts from the data of no messages, which `market_getD` covers as well
    subst hk
    have hne : about m.key heard ++ [m] ≠ [] := by simp
    rw [market?, get?_apply, if_pos rfl, Option.map_some, about_concat_self, Market.ofHistory?,
      if_neg hne]
    exact congrArg some (Instrument.market_after (h.market_getD m.key _) m)
  · rw [market?_apply_of_ne s hk, about_concat_of_ne heard hk]
    exact h k

lemma sort (h : s.Tells heard) (descending : Bool) : (s.sort descending).Tells heard := by
  intro k
  rw [market?_sort, policy_sort]
  exact h k

lemma toggleMark (h : s.Tells heard) (row : Nat) : (s.toggleMark row).Tells heard := by
  intro k
  rw [market?_toggleMark, policy_toggleMark]
  exact h k

end Tells

/-! ### Runs -/

/-- The message that is applied in a step. -/
def Step.message? : Step → Option Message
  | .message m => some m
  | .sort _ => none
  | .mark _ => none

/-- The messages that are applied in a run. -/
def messages (steps : List Step) : List Message := steps.filterMap Step.message?

lemma messages_cons (t : Step) (rest : List Step) :
    messages (t :: rest) = t.message?.toList ++ messages rest := by
  simp only [messages, List.filterMap_eq_flatMap_toList, List.flatMap_cons]

lemma messages_append (steps more : List Step) :
    messages (steps ++ more) = messages steps ++ messages more :=
  List.filterMap_append

/-- A store becomes another by taking messages: there is a run between them in which just these
messages are applied, with sorts and marks between them or none. -/
def Takes (s : Store) (given : List Message) (s' : Store) : Prop :=
  ∃ steps, s' = s.run steps ∧ messages steps = given

/-- A store that takes nothing may stay what it is. -/
lemma Takes.refl (s : Store) : s.Takes [] s := ⟨[], rfl, rfl⟩

/-- A store that took some messages takes more. -/
lemma Takes.trans {s s' s'' : Store} {given more : List Message} (h : s.Takes given s')
    (h' : s'.Takes more s'') : s.Takes (given ++ more) s'' := by
  obtain ⟨steps, rfl, rfl⟩ := h
  obtain ⟨steps', rfl, rfl⟩ := h'
  exact ⟨steps ++ steps', List.foldl_append.symm, messages_append steps steps'⟩

lemma Tells.step {s : Store} {heard : List Message} (h : s.Tells heard) (t : Step) :
    (s.step t).Tells (heard ++ t.message?.toList) := by
  cases t with
  | message m => exact h.apply m
  | sort descending =>
      rw [Step.message?, Option.toList_none, List.append_nil]
      exact h.sort descending
  | mark row =>
      rw [Step.message?, Option.toList_none, List.append_nil]
      exact h.toggleMark row

lemma Tells.run {s : Store} {heard : List Message} (h : s.Tells heard) (steps : List Step) :
    (s.run steps).Tells (heard ++ messages steps) := by
  induction steps generalizing s heard with
  | nil => rwa [messages, List.filterMap_nil, List.append_nil]
  | cons t rest ih =>
      rw [messages_cons, ← List.append_assoc]
      exact ih (h.step t)

/-- No step changes the policy. -/
@[simp] lemma policy_run (s : Store) (steps : List Step) : (s.run steps).policy = s.policy := by
  induction steps generalizing s with
  | nil => rfl
  | cons t rest ih =>
      refine (ih (s.step t)).trans ?_
      cases t with
      | message m => exact policy_apply s m
      | sort descending => rfl
      | mark row => exact policy_toggleMark s row

/-- **After every run the data of an instrument is that of its own messages**, however they were
mixed with those of others, with sorts and with marks. -/
theorem market?_run (policy : Recoloring) (steps : List Step) (k : Key) :
    ((empty policy).run steps).market? k = Market.ofHistory? policy (about k (messages steps)) := by
  have h := (tells_empty policy).run steps k
  rwa [policy_run, List.nil_append] at h

end Store

end MarketBoard

import MarketBoard.Proofs.Session.InOrder
import MarketBoard.Proofs.Session.Requests

/-!
Where the keys of a session come from.

* `Store.isSome_get?_of_run`: a key of a store was there before, or a message brought it.
* `Board.KnowsOnly`: every instrument of a board, and the one of its box, is that of a message that was
  heard. Every input keeps this.
* `Session.inputs_of_step?`: what a step of a session does to store and view, inputs of the board do.
* `Session.Keyed`, `Session.keyed_of_run`: in every session, books are asked for instruments of the
  store alone, and these came with messages that arrived.
-/

namespace MarketBoard

/-! ### Stores and boards -/

lemma Store.isSome_get?_of_run {s : Store} {steps : List Store.Step} {k : Key}
    (h : ((s.run steps).get? k).isSome) :
    (s.get? k).isSome ∨ ∃ m ∈ Store.messages steps, m.key = k := by
  induction steps generalizing s with
  | nil => exact .inl h
  | cons t rest ih =>
      rw [Store.messages_cons]
      obtain hstep | ⟨m, hm, hk⟩ := ih h
      · cases t with
        | message m =>
            rw [Store.step, Store.get?_apply] at hstep
            split at hstep
            · next hk => exact .inr ⟨m, by simp [Store.Step.message?], hk.symm⟩
            · exact .inl hstep
        | sort descending =>
            rw [Store.step, Store.get?_sort, Option.isSome_map] at hstep
            exact .inl hstep
        | mark row =>
            rw [Store.step, Store.get?_toggleMark] at hstep
            split at hstep
            · exact .inl (by rwa [Option.isSome_map] at hstep)
            · exact .inl hstep
      · exact .inr ⟨m, List.mem_append_right _ hm, hk⟩

namespace Board

variable {b : Board} {heard : List Message}

/-- A key of the store was there before an input, or the input is a message about it. -/
lemma isSome_get?_of_put {i : Input} {k : Key} (h : ((b.put i).2.store.get? k).isSome) :
    (b.store.get? k).isSome ∨ ∃ m, i = .message m ∧ m.key = k := by
  cases i with
  | start => exact .inl h
  | message m =>
      have hrun : ((b.store.run [.message m]).get? k).isSome := by
        rw [put, store_receive] at h
        exact h
      obtain hold | ⟨m', hm', hk⟩ := Store.isSome_get?_of_run hrun
      · exact .inl hold
      · obtain rfl : m' = m := by simpa [Store.messages, Store.Step.message?] using hm'
        exact .inr ⟨m', rfl, hk⟩
  | command c =>
      obtain ⟨more, hmore, hquiet⟩ := b.store_obey c
      rw [put, hmore] at h
      obtain hold | ⟨m, hm, -⟩ := Store.isSome_get?_of_run h
      · exact .inl hold
      · rw [hquiet] at hm
        exact absurd hm (by simp)
  | outcome key result =>
      rw [put, store_deliver] at h
      exact .inl h
  | resizeTerminal width height => exact .inl h

/-- **A board knows only what it heard**: the instruments of its store are those of messages, and its
box is about one of them. -/
structure KnowsOnly (b : Board) (heard : List Message) : Prop where
  sound : b.store.IsSound
  keys : ∀ k, (b.store.get? k).isSome → ∃ m ∈ heard, m.key = k
  box : b.HasBoxKey

namespace KnowsOnly

lemma put (h : b.KnowsOnly heard) {i : Input} (hi : ∀ m, i = .message m → m ∈ heard) :
    (b.put i).2.KnowsOnly heard where
  sound := by
    obtain ⟨more, hmore⟩ := b.store_put i
    exact hmore ▸ h.sound.run more
  keys k hk := by
    obtain hold | ⟨m, him, hkey⟩ := isSome_get?_of_put hk
    · exact h.keys k hold
    · exact ⟨m, hi m him, hkey⟩
  box := h.box.put h.sound i

lemma after (h : b.KnowsOnly heard) {inputs : List Input}
    (hinputs : ∀ m, .message m ∈ inputs → m ∈ heard) : (b.after inputs).KnowsOnly heard := by
  induction inputs generalizing b with
  | nil => exact h
  | cons i rest ih =>
      refine ih (h.put fun m hm => hinputs m (hm ▸ List.mem_cons_self)) fun m hm => ?_
      exact hinputs m (List.mem_cons_of_mem i hm)

/-- Only store and view matter. -/
lemma congr {b' : Board} (h : b.KnowsOnly heard) (hstore : b'.store = b.store)
    (hview : b'.view = b.view) : b'.KnowsOnly heard := by
  refine ⟨hstore ▸ h.sound, hstore ▸ h.keys, ?_⟩
  rw [HasBoxKey, hstore, hview]
  exact h.box

lemma mono {heard' : List Message} (h : b.KnowsOnly heard) (hmore : ∀ m ∈ heard, m ∈ heard') :
    b.KnowsOnly heard' :=
  ⟨h.sound, fun k hk => (h.keys k hk).imp fun m hm => ⟨hmore m hm.1, hm.2⟩, h.box⟩

end KnowsOnly

/-- No input loses an instrument. -/
lemma isSome_get?_after (b : Board) (inputs : List Input) {k : Key} (hk : (b.store.get? k).isSome) :
    ((b.after inputs).store.get? k).isSome := by
  refine after_induction (P := fun b => (b.store.get? k).isSome) (fun b i h => ?_) hk inputs
  obtain ⟨more, hmore⟩ := b.store_put i
  rw [hmore]
  exact Store.isSome_get?_run more h

/-- A new board knows nothing. -/
lemma knowsOnly_ofCanvas (c : Canvas) (policy : Recoloring) : (ofCanvas c policy).KnowsOnly [] where
  sound := Store.isSound_empty policy
  keys k hk := absurd hk (by simp [ofCanvas, Store.empty, Store.get?])
  box key hkey := absurd hkey (by simp [ofCanvas, View.ofSize, Overlay.key?])

end Board

/-! ### Sessions -/

namespace Session

variable {s s' : Session} {heard : List Message}

/-- **What a step does to store and view, inputs of the board do**; a message among them waited for the
board. -/
lemma inputs_of_step? {t : Step} (ht : s.step? t = some s') :
    ∃ inputs : List Board.Input, s'.board.store = (s.board.after inputs).store ∧
      s'.board.view = (s.board.after inputs).view ∧
        ∀ m, .message m ∈ inputs → m ∈ s.receiver.sent := by
  obtain ⟨-, s₁, hadvance, rfl⟩ := step?_eq_some_iff.mp ht
  cases hadvance with
  | @takeMessage m rest running inbox =>
      refine ⟨[.message m], rfl, rfl, fun m' hm' => ?_⟩
      obtain rfl : m' = m := by simpa using hm'
      have hwaits : m' ∈ s.inbox := inbox ▸ List.mem_cons_self
      exact List.mem_of_mem_drop hwaits
  | @takeKey e keys running pressed =>
      obtain hs | ⟨c, -, ⟨-, hs⟩ | ⟨-, hs⟩ | ⟨key, -, hs⟩⟩ := handle_cases { s with keys } e
      · exact ⟨[], by rw [hs]; rfl, by rw [hs]; rfl, by simp⟩
      · exact ⟨[.command c], by rw [hs]; rfl, by rw [hs]; rfl, by simp⟩
      · exact ⟨[.command c], by rw [hs]; rfl, by rw [hs]; rfl, by simp⟩
      · exact ⟨[.command c], by rw [hs]; rfl, by rw [hs]; rfl, by simp⟩
  | @takeDelivery d deliveries running finished =>
      exact ⟨[.outcome d.key d.result], rfl, rfl, by simp⟩
  | _ => exact ⟨[], rfl, rfl, by simp⟩

lemma key_of_mem_abortLast : ∀ {l : List Fetch} {f : Fetch}, f ∈ abortLast l →
    ∃ g ∈ l, g.key = f.key
  | [], f, hf => absurd hf (by simp [abortLast])
  | [g], f, hf => by
      obtain rfl : f = Fetch.abort g := by simpa [abortLast] using hf
      refine ⟨g, List.mem_singleton_self g, ?_⟩
      rw [Fetch.abort]
      split <;> rfl
  | g :: g' :: rest, f, hf => by
      obtain rfl | hf := List.mem_cons.mp hf
      · exact ⟨f, List.mem_cons_self, rfl⟩
      · obtain ⟨g'', hg'', hkey⟩ := key_of_mem_abortLast hf
        exact ⟨g'', List.mem_cons_of_mem g hg'', hkey⟩

/-- **The keys of a session are those that it heard**: its board knows only what was heard, and all
requests that were started are for instruments of the store. -/
structure Keyed (s : Session) (heard : List Message) : Prop where
  board : s.board.KnowsOnly heard
  fetches : ∀ f ∈ s.fetches, (s.board.store.get? f.key).isSome

/-- **Every step keeps this**, as long as only what was heard waits for the board. -/
lemma Keyed.step (h : s.Keyed heard) (hsent : ∀ m ∈ s.receiver.sent, m ∈ heard) {t : Step}
    (ht : s.step? t = some s') : s'.Keyed heard := by
  obtain ⟨inputs, hstore, hview, hmessages⟩ := inputs_of_step? ht
  have hboard : s'.board.KnowsOnly heard :=
    (h.board.after fun m hm => hsent m (hmessages m hm)).congr hstore hview
  have hold : ∀ k, (s.board.store.get? k).isSome → (s'.board.store.get? k).isSome := fun k hk => by
    rw [hstore]
    exact s.board.isSome_get?_after inputs hk
  have haborted : ∀ f ∈ abortLast s.fetches, (s'.board.store.get? f.key).isSome := fun f hf => by
    obtain ⟨g, hg, hkey⟩ := key_of_mem_abortLast hf
    exact hkey ▸ hold g.key (h.fetches g hg)
  refine ⟨hboard, fun f hf => ?_⟩
  cases treats_of_step? ht with
  | keeps fetches deliveries running overlay =>
      rw [fetches] at hf
      exact hold f.key (h.fetches f hf)
  | leaves fetches deliveries left overlay => exact haborted f (fetches ▸ hf)
  | @opens key _ hidden fetches deliveries overlay =>
      rw [fetches] at hf
      obtain hf | hf := List.mem_append.mp hf
      · exact haborted f hf
      · -- the box is open for the instrument that is asked for
        obtain rfl := List.mem_singleton.mp hf
        refine hboard.box key ?_
        rw [show s'.board.view.overlay = .pending key from overlay]
        rfl
  | @finishes _ _ g _ found running fetches deliveries loop overlay =>
      rw [fetches] at hf
      obtain hf | rfl := List.mem_or_eq_of_mem_set hf
      · exact hold f.key (h.fetches f hf)
      · exact hold g.key (h.fetches g (List.mem_of_getElem? found))
  | delivers running fetches deliveries overlay =>
      rw [fetches] at hf
      exact hold f.key (h.fetches f hf)

/-- **In every run books are asked for instruments of the store alone, and these came with messages
that arrived.** -/
lemma keyed_of_run {c : Canvas} {policy : Recoloring} {steps : List Step}
    (hs : (start (.ofCanvas c policy)).run? steps = some s) :
    s.Keyed ((arrivals steps).filterMap Arrival.message?) := by
  refine run_induction (P := fun steps s => s.Keyed ((arrivals steps).filterMap Arrival.message?))
    ⟨(Board.knowsOnly_ofCanvas c policy).congr rfl rfl, by simp [start, collect]⟩ ?_ hs
  intro steps s t s' hsteps hkeyed ht
  have hmore : ∀ m ∈ (arrivals steps).filterMap Arrival.message?,
      m ∈ (arrivals (steps ++ [t])).filterMap Arrival.message? := by
    intro m hm
    rw [arrivals, List.filterMap_append, List.filterMap_append]
    exact List.mem_append_left _ hm
  have hsent := ((inOrder_start (.ofCanvas c policy)).run hsteps).receiver.sent
  exact Keyed.step ⟨hkeyed.board.mono hmore, hkeyed.fetches⟩ (fun m hm => hmore m (hsent ▸ hm)) ht

end Session

end MarketBoard

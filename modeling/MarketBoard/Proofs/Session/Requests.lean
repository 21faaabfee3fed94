import MarketBoard.Proofs.Board.Stopping
import MarketBoard.Proofs.Session.Steps

/-!
A box that waits is never forgotten.

* `Session.Treats`: what a step does to the requests, to the outcomes that wait to be delivered, and
  to the box.
* `Session.Requests`: only the last request can be running, the outcomes that wait are those of
  finished requests, and a box that waits does so for the last request. Every step keeps this.
* `Session.GoesOnWaiting`: as long as the box waits, the program has not ended in a draw.
* `Session.exists_deliver`: an outcome that waits reaches the box.
* `Session.awaited_of_run`: what follows for every run of a session.
-/

namespace MarketBoard.Session

/-- What the depth box shows. -/
def overlay (s : Session) : Overlay := s.board.view.overlay

/-! ### Stopping the last request -/

lemma length_abortLast : ∀ l : List Fetch, (abortLast l).length = l.length
  | [] => rfl
  | [_] => rfl
  | _ :: f :: rest => congrArg (· + 1) (length_abortLast (f :: rest))

/-- Only the last request is stopped. -/
lemma getElem?_abortLast : ∀ (l : List Fetch) (n : Nat),
    (abortLast l)[n]? = if n + 1 = l.length then l[n]?.map Fetch.abort else l[n]?
  | [], n => by simp [abortLast]
  | [f], n => by cases n <;> simp [abortLast]
  | f :: g :: rest, n => by
      cases n with
      | zero => simp [abortLast]
      | succ n =>
          rw [abortLast, List.getElem?_cons_succ, getElem?_abortLast (g :: rest) n]
          · simp
          · simp

/-- A request that was stopped does not run. -/
lemma Fetch.state_abort (f : Fetch) : (Fetch.abort f).state ≠ .running := by
  rw [Fetch.abort]
  split
  · simp
  · next h => exact h

/-- A request that has come to its end stays as it is. -/
lemma Fetch.abort_of_finished {f : Fetch} (h : f.state = .finished) : Fetch.abort f = f := by
  rw [Fetch.abort, h]

/-- Once the last request is stopped, a request that has come to its end is still where it was. -/
lemma finished_abortLast {l : List Fetch} {n : Nat} {f : Fetch} (hf : l[n]? = some f)
    (hfinished : f.state = .finished) : (abortLast l)[n]? = some f := by
  rw [getElem?_abortLast, hf, Option.map_some, Fetch.abort_of_finished hfinished, ite_self]

/-! ### Steps -/

variable {s s' : Session}

/-- **What a step does to requests**: to those that were started, to the outcomes that wait to be
delivered, and to the box. -/
inductive Treats (s : Session) : Step → Session → Prop where
  /-- Nothing, except that the box may be closed. -/
  | keeps {t : Step} {s' : Session} (fetches : s'.fetches = s.fetches)
      (deliveries : s'.deliveries = s.deliveries)
      (running : s'.isRunning = true → s.isRunning = true)
      (overlay : s'.overlay = s.overlay ∨ s'.overlay = .hidden) : Treats s t s'
  /-- The loop is left, and the last request is stopped. -/
  | leaves {t : Step} {s' : Session} (fetches : s'.fetches = abortLast s.fetches)
      (deliveries : s'.deliveries = s.deliveries) (left : s'.isRunning = false)
      (overlay : s'.overlay = s.overlay) : Treats s t s'
  /-- The box is opened: the last request is stopped, and another one is started. -/
  | opens {key : Key} {s' : Session} (hidden : s.overlay = .hidden)
      (fetches : s'.fetches = abortLast s.fetches ++ [⟨key, .running⟩])
      (deliveries : s'.deliveries = s.deliveries) (overlay : s'.overlay = .pending key) :
      Treats s .takeKey s'
  /-- A request comes to its end. -/
  | finishes {fetch : Nat} {outcome : DepthOutcome} {f : Fetch} {s' : Session}
      (found : s.fetches[fetch]? = some f) (running : f.state = .running)
      (fetches : s'.fetches = s.fetches.set fetch { f with state := .finished })
      (deliveries : s'.deliveries = s.deliveries ++ [⟨fetch, f.key, outcome.result⟩])
      (loop : s'.isRunning = s.isRunning) (overlay : s'.overlay = s.overlay) :
      Treats s (.finish fetch outcome) s'
  /-- The first outcome that waits is delivered. -/
  | delivers {d : Delivery} {s' : Session} (running : s.isRunning = true)
      (fetches : s'.fetches = s.fetches) (deliveries : s.deliveries = d :: s'.deliveries)
      (overlay : s'.overlay = (s.board.deliver d.key d.result).view.overlay) :
      Treats s .takeDelivery s'

/-- An event is treated in one of these ways. -/
lemma treats_handle (s : Session) (keys : List Event) (e : Event) :
    s.Treats .takeKey ({ s with keys }.handle e).collect := by
  obtain hs | ⟨c, -, hcases⟩ := Session.handle_cases { s with keys } e
  · rw [hs]
    exact .keeps rfl rfl id (.inl rfl)
  have hbox := s.board.overlay_obey c
  obtain ⟨heffect, hs⟩ | ⟨heffect, hs⟩ | ⟨key, heffect, hs⟩ := hcases <;>
    rw [heffect] at hbox <;> rw [hs]
  · exact .keeps rfl rfl id hbox
  · exact .leaves rfl rfl rfl hbox
  · exact .opens hbox.1 rfl rfl hbox.2

/-- **Every step treats requests in one of these ways.** -/
lemma treats_of_step? {t : Step} (ht : s.step? t = some s') : s.Treats t s' := by
  obtain ⟨-, s₁, hadvance, rfl⟩ := step?_eq_some_iff.mp ht
  cases hadvance with
  | arrive going => exact .keeps rfl rfl id (.inl rfl)
  | endReceiver going asked => exact .keeps rfl rfl id (.inl rfl)
  | cancel => exact .keeps rfl rfl id (.inl rfl)
  | press more => exact .keeps rfl rfl id (.inl rfl)
  | endKeys => exact .keeps rfl rfl id (.inl rfl)
  | resizeTerminal unclosed => exact .keeps rfl rfl id (.inl rfl)
  | finish found running => exact .finishes found running rfl rfl rfl rfl
  | @takeMessage m rest running inbox =>
      exact .keeps rfl rfl id (.inl (congrArg Prod.fst (s.board.depth_receive m)))
  | @takeKey e keys running pressed => exact s.treats_handle keys e
  | takeDelivery running finished => exact .delivers running rfl finished rfl
  | seeFeedEnd running inbox ended => exact .leaves rfl rfl rfl rfl
  | seeKeysEnd running pressed ended => exact .leaves rfl rfl rfl rfl
  | seeCancel running asked => exact .leaves rfl rfl rfl rfl
  | closeWell left ended => exact .keeps rfl rfl (by simp [isRunning, collect]) (.inl rfl)
  | closeLost left ended => exact .keeps rfl rfl (by simp [isRunning, collect]) (.inl rfl)

/-! ### The account of the requests -/

/-- The last request is for an instrument, and it is running, or its outcome waits. -/
def Awaits (s : Session) (key : Key) : Prop :=
  s.fetches.getLast? = some ⟨key, .running⟩ ∨
    s.fetches.getLast? = some ⟨key, .finished⟩ ∧
      ∃ d ∈ s.deliveries, d.fetch + 1 = s.fetches.length ∧ d.key = key

/-- **The account of the requests**: only the last one can be running; an outcome that waits is that
of a request that has come to its end; and while the loop goes on, a box that waits does so for the
last request, whose outcome is not lost. -/
structure Requests (s : Session) : Prop where
  last : ∀ n f, s.fetches[n]? = some f → f.state = .running → n + 1 = s.fetches.length
  finished : ∀ d ∈ s.deliveries, s.fetches[d.fetch]? = some ⟨d.key, .finished⟩
  waits : s.isRunning = true → ∀ key, s.overlay = .pending key → s.Awaits key

/-- A new session has started no request. -/
lemma requests_start (c : Canvas) (policy : Recoloring) :
    (start (.ofCanvas c policy)).Requests := by
  have hhidden : (start (.ofCanvas c policy)).overlay = .hidden := rfl
  refine ⟨fun _ _ hf => absurd hf (by simp [start, collect]),
    fun _ hd => absurd hd (by simp [start, collect]), fun _ _ hpending => ?_⟩
  exact absurd (hhidden.symm.trans hpending) (by simp)

namespace Requests

/-- Once the last request is stopped, none is running. -/
lemma state_of_abortLast (h : s.Requests) {n : Nat} {f : Fetch}
    (hf : (abortLast s.fetches)[n]? = some f) : f.state ≠ .running := by
  rw [getElem?_abortLast] at hf
  split at hf
  · obtain ⟨g, -, rfl⟩ := Option.map_eq_some_iff.mp hf
    exact Fetch.state_abort g
  · next hn => exact fun hrunning => hn (h.last n f hf hrunning)

lemma keeps (h : s.Requests) (hfetches : s'.fetches = s.fetches)
    (hdeliveries : s'.deliveries = s.deliveries)
    (hrunning : s'.isRunning = true → s.isRunning = true)
    (hoverlay : s'.overlay = s.overlay ∨ s'.overlay = .hidden) : s'.Requests := by
  refine ⟨by rw [hfetches]; exact h.last, by rw [hfetches, hdeliveries]; exact h.finished,
    fun hgoes key hpending => ?_⟩
  rw [Awaits, hfetches, hdeliveries]
  obtain hsame | hhidden := hoverlay
  · exact h.waits (hrunning hgoes) key (hsame ▸ hpending)
  · exact absurd (hhidden.symm.trans hpending) (by simp)

lemma leaves (h : s.Requests) (hfetches : s'.fetches = abortLast s.fetches)
    (hdeliveries : s'.deliveries = s.deliveries) (hleft : s'.isRunning = false) : s'.Requests := by
  refine ⟨fun n f hf hrunning => ?_, fun d hd => ?_, fun hgoes => ?_⟩
  · rw [hfetches] at hf
    exact absurd hrunning (h.state_of_abortLast hf)
  · rw [hdeliveries] at hd
    rw [hfetches]
    exact finished_abortLast (h.finished d hd) rfl
  · exact absurd (hleft.symm.trans hgoes) (by simp)

/-- The request that is started is the last one. -/
lemma opens (h : s.Requests) {key : Key}
    (hfetches : s'.fetches = abortLast s.fetches ++ [⟨key, .running⟩])
    (hdeliveries : s'.deliveries = s.deliveries) (hoverlay : s'.overlay = .pending key) :
    s'.Requests := by
  refine ⟨fun n f hf hrunning => ?_, fun d hd => ?_, fun _ key' hpending => .inl ?_⟩
  · rw [hfetches] at hf ⊢
    rw [List.length_append, List.length_singleton]
    by_cases hn : n < (abortLast s.fetches).length
    · rw [List.getElem?_append_left hn] at hf
      exact absurd hrunning (h.state_of_abortLast hf)
    · obtain ⟨hlt, -⟩ := List.getElem?_eq_some_iff.mp hf
      rw [List.length_append, List.length_singleton] at hlt
      omega
  · rw [hdeliveries] at hd
    have hold := finished_abortLast (h.finished d hd) rfl
    obtain ⟨hlt, -⟩ := List.getElem?_eq_some_iff.mp hold
    rw [hfetches, List.getElem?_append_left hlt, hold]
  · obtain rfl := Overlay.pending.inj (hoverlay.symm.trans hpending)
    rw [hfetches, List.getLast?_concat]

/-- The request that comes to its end was the last one, and its outcome waits from then on. -/
lemma finishes (h : s.Requests) {fetch : Nat} {outcome : DepthOutcome} {f : Fetch}
    (hfound : s.fetches[fetch]? = some f) (hrunning : f.state = .running)
    (hfetches : s'.fetches = s.fetches.set fetch { f with state := .finished })
    (hdeliveries : s'.deliveries = s.deliveries ++ [⟨fetch, f.key, outcome.result⟩])
    (hloop : s'.isRunning = s.isRunning) (hoverlay : s'.overlay = s.overlay) : s'.Requests := by
  have hlast : fetch + 1 = s.fetches.length := h.last fetch f hfound hrunning
  have hset : s'.fetches[fetch]? = some ⟨f.key, .finished⟩ := by
    rw [hfetches, List.getElem?_set_self (by omega)]
  have hlength : s'.fetches.length = s.fetches.length := by rw [hfetches, List.length_set]
  have hother : ∀ n, n ≠ fetch → s'.fetches[n]? = s.fetches[n]? := fun n hn => by
    rw [hfetches, List.getElem?_set_ne hn.symm]
  refine ⟨fun n g hg hgoes => ?_, fun d hd => ?_, fun hgoes key hpending => .inr ?_⟩
  · rw [hlength]
    by_cases hn : n = fetch
    · rw [hn, hlast]
    · exact h.last n g (hother n hn ▸ hg) hgoes
  · rw [hdeliveries, List.mem_append, List.mem_singleton] at hd
    obtain hd | rfl := hd
    · have hold := h.finished d hd
      have hne : d.fetch ≠ fetch := fun heq => by
        rw [heq, hfound, Option.some.injEq] at hold
        rw [hold] at hrunning
        exact absurd hrunning (by simp)
      rw [hother _ hne, hold]
    · exact hset
  · have hat : ∀ {l : List Fetch}, fetch + 1 = l.length → l.getLast? = l[fetch]? := fun hl => by
      rw [List.getLast?_eq_getElem?, ← hl, Nat.add_sub_cancel]
    have hkey : f.key = key := by
      obtain hwaits | ⟨hwaits, -⟩ := h.waits (hloop ▸ hgoes) key (hoverlay ▸ hpending)
      all_goals
        rw [hat hlast, hfound, Option.some.injEq] at hwaits
        rw [hwaits]
    rw [hat (hlast.trans hlength.symm), hset, hdeliveries, hlength, hkey]
    exact ⟨rfl, _, List.mem_append_right _ (List.mem_singleton_self _), hlast, rfl⟩

/-- An outcome that is delivered and not shown was not the one for which the box waits. -/
lemma delivers (h : s.Requests) {d : Delivery} (hrunning : s.isRunning = true)
    (hfetches : s'.fetches = s.fetches) (hdeliveries : s.deliveries = d :: s'.deliveries)
    (hoverlay : s'.overlay = (s.board.deliver d.key d.result).view.overlay) : s'.Requests := by
  refine ⟨by rw [hfetches]; exact h.last, fun e he => ?_, fun _ key hpending => ?_⟩
  · rw [hfetches]
    exact h.finished e (hdeliveries ▸ List.mem_cons_of_mem d he)
  · obtain ⟨hsame, hne⟩ := Board.pending_of_deliver (hoverlay.symm.trans hpending)
    rw [Awaits, hfetches]
    obtain hgoes | ⟨hlast, e, he, hfetch, hkey⟩ := h.waits hrunning key hsame
    · exact .inl hgoes
    · rw [hdeliveries, List.mem_cons] at he
      obtain rfl | he := he
      · exact absurd hkey hne
      · exact .inr ⟨hlast, e, he, hfetch, hkey⟩

/-- **Every step keeps the account of the requests.** -/
lemma step (h : s.Requests) {t : Step} (ht : s.step? t = some s') : s'.Requests := by
  cases treats_of_step? ht with
  | keeps fetches deliveries running overlay => exact h.keeps fetches deliveries running overlay
  | leaves fetches deliveries left overlay => exact h.leaves fetches deliveries left
  | opens hidden fetches deliveries overlay => exact h.opens fetches deliveries overlay
  | finishes found running fetches deliveries loop overlay =>
      exact h.finishes found running fetches deliveries loop overlay
  | delivers running fetches deliveries overlay =>
      exact h.delivers running fetches deliveries overlay

/-- **Every run keeps the account of the requests.** -/
lemma run (h : s.Requests) {steps : List Step} (hs : s.run? steps = some s') : s'.Requests :=
  run_induction (P := fun _ s => s.Requests) h (fun _ hbefore ht => hbefore.step ht) hs

/-- At most one request is running. -/
lemma countP_running (h : s.Requests) : s.fetches.countP (·.state = .running) ≤ 1 := by
  obtain hnil | ⟨others, f, hothers⟩ := List.eq_nil_or_concat' s.fetches
  · simp [hnil]
  · have hzero : others.countP (·.state = .running) = 0 := by
      refine List.countP_eq_zero.mpr fun g hg hrunning => ?_
      obtain ⟨n, hn, rfl⟩ := List.getElem_of_mem hg
      have hat : s.fetches[n]? = some others[n] := by
        rw [hothers, List.getElem?_append_left hn, List.getElem?_eq_getElem hn]
      have hlast := h.last n _ hat (of_decide_eq_true hrunning)
      rw [hothers, List.length_append, List.length_singleton] at hlast
      omega
    rw [hothers, List.countP_append, hzero, Nat.zero_add]
    exact List.countP_le_length

end Requests

/-! ### A box that waits can go on waiting -/

/-- The program has not ended in a draw, unless the box no longer waits. -/
def GoesOnWaiting (s : Session) : Prop :=
  s.board.canvas.stopped = true → ∀ key, s.overlay ≠ .pending key

lemma GoesOnWaiting.not_stopped (h : s.GoesOnWaiting) {key : Key}
    (hpending : s.overlay = .pending key) : s.board.canvas.stopped = false :=
  Bool.eq_false_iff.mpr fun hstopped => h hstopped key hpending

/-- A box that waits can be drawn, so a board that changes rightly goes on waiting. -/
lemma goesOnWaiting_of_board {b : Board} (hgoes : b.canvas.stopped = false)
    (hstops : b.StopsAfter s.board) : s.GoesOnWaiting := by
  intro hstopped key hpending
  obtain hbefore | hplaceless := hstops hstopped
  · exact absurd (hgoes.symm.trans hbefore) (by simp)
  · have hplaceable : s.board.view.overlay.isPlaceable = true := by
      rw [show s.board.view.overlay = _ from hpending]
      rfl
    exact absurd (hplaceable.symm.trans hplaceless) (by simp)

/-- **Every step goes on waiting**: it is possible only before the end, and ends the program only with a
box that has no place. -/
lemma goesOnWaiting_of_step? {t : Step} (ht : s.step? t = some s') : s'.GoesOnWaiting := by
  obtain ⟨hgoes, s₁, hadvance, rfl⟩ := step?_eq_some_iff.mp ht
  suffices hstops : s.board.StopsAfter s₁.board from goesOnWaiting_of_board hgoes hstops
  cases hadvance with
  | @takeMessage m rest running inbox => exact s.board.stopped_put (.message m)
  | @takeKey e keys running pressed =>
      obtain hsame | ⟨c, -, hhandled⟩ := handle_cases { s with keys } e
      · rw [hsame]
        exact .inl
      · have hput := s.board.stopped_put (.command c)
        obtain ⟨-, hs⟩ | ⟨-, hs⟩ | ⟨key, -, hs⟩ := hhandled <;> rw [hs] <;> exact hput
  | @takeDelivery d deliveries running finished => exact s.board.stopped_put (.outcome d.key d.result)
  | _ => exact .inl

/-- **Every run goes on waiting.** -/
lemma goesOnWaiting_of_run (c : Canvas) (policy : Recoloring) {steps : List Step}
    (hs : (start (.ofCanvas c policy)).run? steps = some s) : s.GoesOnWaiting := by
  have hhidden : (start (.ofCanvas c policy)).overlay = .hidden := rfl
  refine run_induction (P := fun _ s => s.GoesOnWaiting) (fun _ key hpending => ?_)
    (fun _ _ ht => goesOnWaiting_of_step? ht) hs
  exact absurd (hhidden.symm.trans hpending) (by simp)

/-! ### A box that waits is served -/

/-- While the loop goes on, the first outcome that waits can be delivered. -/
lemma step?_takeDelivery (hgoes : s.board.canvas.stopped = false) (hrunning : s.isRunning = true)
    {d : Delivery} {rest : List Delivery} (hdeliveries : s.deliveries = d :: rest) :
    ∃ s', s.step? .takeDelivery = some s' ∧ s'.isRunning = true ∧ s'.deliveries = rest ∧
      s'.overlay = (s.board.deliver d.key d.result).view.overlay :=
  ⟨_, step?_eq_some_iff.mpr ⟨hgoes, _, .takeDelivery hrunning hdeliveries, rfl⟩, hrunning, rfl, rfl⟩

/-- **An outcome that waits reaches the box**: deliveries alone make a box that waits show an
outcome for its instrument. -/
lemma exists_deliver (hwaits : s.GoesOnWaiting) (hrunning : s.isRunning = true) {key : Key}
    (hpending : s.overlay = .pending key) {d : Delivery} (hd : d ∈ s.deliveries)
    (hkey : d.key = key) :
    ∃ n s', s.run? (List.replicate n .takeDelivery) = some s' ∧ s'.isRunning = true ∧
      ∃ result, s'.overlay = .ofOutcome key result := by
  generalize hqueue : s.deliveries = queue at hd
  induction queue generalizing s with
  | nil => exact absurd hd (by simp)
  | cons first rest ih =>
      obtain ⟨s₁, ht, hgoes, hrest, hoverlay⟩ :=
        step?_takeDelivery (hwaits.not_stopped hpending) hrunning hqueue
      by_cases hfirst : first.key = key
      · refine ⟨1, s₁, by rw [List.replicate_one, run?, ht]; rfl, hgoes, first.result, ?_⟩
        rw [hoverlay, ← hfirst]
        exact Board.overlay_deliver (hfirst ▸ hpending) _
      · -- the box ignores this outcome, and the one it gets is further back
        have hne : s.overlay ≠ .pending first.key := fun h =>
          hfirst (Overlay.pending.inj (h.symm.trans hpending))
        have hsame : s₁.overlay = .pending key := by
          rw [hoverlay, Board.deliver_of_ne hne]
          exact hpending
        have hmem : d ∈ rest := (List.mem_cons.mp hd).resolve_left fun h => hfirst (h ▸ hkey)
        obtain ⟨n, s', hrun, hend⟩ := ih (goesOnWaiting_of_step? ht) hgoes hsame hrest hmem
        exact ⟨n + 1, s', by rw [List.replicate_succ, run?, ht]; exact hrun, hend⟩

/-- The last request can come to its end if it is running, with whatever outcome. -/
lemma step?_finish (hgoes : s.board.canvas.stopped = false) {key : Key}
    (hlast : s.fetches.getLast? = some ⟨key, .running⟩) (outcome : DepthOutcome) :
    ∃ s', s.step? (.finish (s.fetches.length - 1) outcome) = some s' ∧
      s'.isRunning = s.isRunning ∧ s'.overlay = s.overlay ∧
        ⟨s.fetches.length - 1, key, outcome.result⟩ ∈ s'.deliveries := by
  rw [List.getLast?_eq_getElem?] at hlast
  exact ⟨_, step?_eq_some_iff.mpr ⟨hgoes, _, .finish hlast rfl, rfl⟩, rfl, rfl,
    List.mem_append_right _ (List.mem_singleton_self _)⟩

/-- **A box that waits is served**: nothing else is needed than that the last request comes to its
end, if it is still running, and that outcomes are delivered. -/
lemma Awaits.exists_deliver {key : Key} (h : s.Awaits key) (hwaits : s.GoesOnWaiting)
    (hrunning : s.isRunning = true) (hpending : s.overlay = .pending key) (outcome : DepthOutcome) :
    ∃ more s', s.run? more = some s' ∧
      (∀ t ∈ more, t = .finish (s.fetches.length - 1) outcome ∨ t = .takeDelivery) ∧
        s'.isRunning = true ∧ ∃ result, s'.overlay = .ofOutcome key result := by
  obtain hlast | ⟨-, d, hd, -, hkey⟩ := h
  · obtain ⟨s₁, ht, hgoes, hsame, hmem⟩ :=
      step?_finish (hwaits.not_stopped hpending) hlast outcome
    obtain ⟨n, s', hrun, hend⟩ := Session.exists_deliver (goesOnWaiting_of_step? ht)
      (hgoes.trans hrunning) (hsame.trans hpending) hmem rfl
    refine ⟨.finish (s.fetches.length - 1) outcome :: List.replicate n .takeDelivery, s', ?_, ?_,
      hend⟩
    · rw [run?, ht]
      exact hrun
    · intro t ht
      obtain rfl | ht := List.mem_cons.mp ht
      · exact .inl rfl
      · exact .inr (List.eq_of_mem_replicate ht)
  · obtain ⟨n, s', hrun, hend⟩ := Session.exists_deliver hwaits hrunning hpending hd hkey
    exact ⟨_, s', hrun, fun t ht => .inr (List.eq_of_mem_replicate ht), hend⟩

/-- **A box that waits is never forgotten.**
Whatever order the steps take, as long as the loop of a new board goes on, at most one request is
running; and if the box waits, then for the last request, which was not stopped: it is running, or
it has come to its end and its outcome waits to be delivered. So the box can always be served,
whatever the outcome of the request, by its end and by deliveries alone. -/
theorem awaited_of_run (c : Canvas) (policy : Recoloring) (steps : List Step) {s : Session}
    (hs : (start (.ofCanvas c policy)).run? steps = some s) (hrunning : s.isRunning = true) :
    s.fetches.countP (·.state = .running) ≤ 1 ∧
      ∀ key, s.board.view.overlay = .pending key →
        (s.fetches.getLast? = some ⟨key, .running⟩ ∨
          s.fetches.getLast? = some ⟨key, .finished⟩ ∧
            ∃ d ∈ s.deliveries, d.fetch + 1 = s.fetches.length ∧ d.key = key) ∧
        ∀ outcome, ∃ more s', s.run? more = some s' ∧
          (∀ t ∈ more, t = .finish (s.fetches.length - 1) outcome ∨ t = .takeDelivery) ∧
            s'.isRunning = true ∧ ∃ result, s'.board.view.overlay = .ofOutcome key result := by
  have h : s.Requests := (requests_start c policy).run hs
  refine ⟨h.countP_running, fun key hpending => ?_⟩
  have hwaits : s.Awaits key := h.waits hrunning key hpending
  exact ⟨hwaits, hwaits.exists_deliver (goesOnWaiting_of_run c policy hs) hrunning hpending⟩

/-- The box is opened for an instrument, closed and opened again: the first request was stopped, and
the second one is running. -/
theorem awaited_of_run_reopened :
    let trade : Arrival :=
      .binary [2, 0, 0, 0, 0, 0, 0, 0, 0, 0, 0, 0, 0, 0, 1, 0, 0, 0, 0, 0, 0, 0, 2]
    let toggle : List Step := [.press (.key { code := .char 'b' }), .takeKey]
    let steps : List Step := [.arrive trade, .takeMessage] ++ toggle ++ toggle ++ toggle
    let first := start (.ofCanvas (.ofTerminal (.ofDevice (.blank 20 5)) 3) .trades)
    ∃ s, first.run? steps = some s ∧ s.isRunning = true ∧
      s.fetches = [⟨⟨"", 0⟩, .aborted⟩, ⟨⟨"", 0⟩, .running⟩] ∧
        s.board.view.overlay = .pending ⟨"", 0⟩ ∧
          ∃ more s', s.run? more = some s' ∧
            ∃ result, s'.board.view.overlay = .ofOutcome ⟨"", 0⟩ result := by
  intro trade toggle steps first
  obtain ⟨s, hs⟩ : ∃ s, first.run? steps = some s := Option.isSome_iff_exists.mp (by decide +kernel)
  have hend : (first.run? steps).any (fun s => s.isRunning &&
      s.fetches = [⟨⟨"", 0⟩, .aborted⟩, ⟨⟨"", 0⟩, .running⟩] &&
        s.board.view.overlay = .pending ⟨"", 0⟩) = true := by decide +kernel
  simp only [hs, Option.any_some, Bool.and_eq_true, decide_eq_true_eq] at hend
  obtain ⟨⟨hrunning, hfetches⟩, hpending⟩ := hend
  obtain ⟨-, hbox⟩ := awaited_of_run _ _ steps hs hrunning
  obtain ⟨more, s', hrun, -, -, hfilled⟩ := (hbox _ hpending).2 ⟨.error (.unresolved ""), []⟩
  exact ⟨s, hs, hrunning, hfetches, hpending, more, s', hrun, hfilled⟩

end MarketBoard.Session

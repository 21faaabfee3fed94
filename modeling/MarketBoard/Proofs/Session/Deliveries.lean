import MarketBoard.Proofs.Session.Requests

/-!
Whose outcome a box shows.

* `Session.WaitsSince`: the part of a run through which a box waits, from the step that opened it.
* `Session.waitsSince_of_run`: a box that waits was opened in the run, and waits since then.
* `Session.finish_mem_of_run`: an outcome that waits comes from a request that ended in the run.
* `Session.delivered_of_run`: the outcome that a box takes is that of the request that was started
  when the box was opened, or it waited already when the box was opened.
* `Session.overtaken_delivery`: the latter happens when a box is closed and opened again at once.
-/

namespace MarketBoard.Session

variable {s s' s₀ first : Session} {key : Key} {steps since : List Step} {t : Step}

/-! ### Single steps -/

/-- **A box begins to wait when it is opened**, which starts a request; as long as it waits, no
request is started. -/
lemma Treats.pending (h : s.Treats t s') (hpending : s'.overlay = .pending key) :
    s.overlay = .pending key ∧ s'.fetches.length = s.fetches.length ∨
      t = .takeKey ∧ s.overlay = .hidden ∧ s'.fetches.length = s.fetches.length + 1 := by
  cases h with
  | keeps fetches deliveries running overlay =>
      rcases overlay with hsame | hhidden
      · exact .inl ⟨hsame.symm.trans hpending, congrArg List.length fetches⟩
      · exact absurd (hhidden.symm.trans hpending) (by simp)
  | leaves fetches deliveries left overlay =>
      exact .inl ⟨overlay.symm.trans hpending, by rw [fetches, length_abortLast]⟩
  | opens hidden fetches deliveries overlay =>
      refine .inr ⟨rfl, hidden, ?_⟩
      rw [fetches, List.length_append, length_abortLast, List.length_singleton]
  | finishes found running fetches deliveries loop overlay =>
      exact .inl ⟨overlay.symm.trans hpending, by rw [fetches, List.length_set]⟩
  | delivers running fetches deliveries overlay =>
      have hbefore := (Board.pending_of_deliver (overlay.symm.trans hpending)).1
      exact .inl ⟨hbefore, congrArg List.length fetches⟩

/-- An outcome that waits has waited before, or its request has just come to its end. -/
lemma Treats.mem_deliveries (h : s.Treats t s') {d : Delivery} (hd : d ∈ s'.deliveries) :
    d ∈ s.deliveries ∨ ∃ outcome f, t = .finish d.fetch outcome ∧ d.result = outcome.result ∧
      s.fetches[d.fetch]? = some f ∧ f.state = .running := by
  cases h with
  | keeps fetches deliveries running overlay => exact .inl (deliveries ▸ hd)
  | leaves fetches deliveries left overlay => exact .inl (deliveries ▸ hd)
  | opens hidden fetches deliveries overlay => exact .inl (deliveries ▸ hd)
  | @finishes fetch outcome f s' found running fetches deliveries loop overlay =>
      rw [deliveries, List.mem_append, List.mem_singleton] at hd
      rcases hd with hold | rfl
      · exact .inl hold
      · exact .inr ⟨outcome, f, rfl, rfl, found, running⟩
  | delivers running fetches deliveries overlay =>
      exact .inl (deliveries ▸ List.mem_cons_of_mem _ hd)

/-! ### A box that waits -/

/-- **A box that waits since it was opened**: the steps begin with the one that opens the box for an
instrument, and the box waits after each of them. -/
inductive WaitsSince (s₀ : Session) (key : Key) : List Step → Session → Prop where
  | opened {s : Session} (hidden : s₀.overlay = .hidden) (taken : s₀.step? .takeKey = some s)
      (pending : s.overlay = .pending key) : WaitsSince s₀ key [.takeKey] s
  | still {since : List Step} {s s' : Session} {t : Step} (waits : WaitsSince s₀ key since s)
      (taken : s.step? t = some s') (pending : s'.overlay = .pending key) :
      WaitsSince s₀ key (since ++ [t]) s'

/-- **A box that waits was opened in the run**, and waits since then. -/
lemma waitsSince_of_run (hs : first.run? steps = some s) (hfirst : first.overlay = .hidden)
    (hpending : s.overlay = .pending key) :
    ∃ before since s₀, steps = before ++ since ∧ first.run? before = some s₀ ∧
      WaitsSince s₀ key since s := by
  refine run_induction (P := fun steps s => s.overlay = .pending key →
    ∃ before since s₀, steps = before ++ since ∧ first.run? before = some s₀ ∧
      WaitsSince s₀ key since s) ?_ ?_ hs hpending
  · intro hnow
    exact absurd (hfirst.symm.trans hnow) (by simp)
  · intro steps s t s' hrun ih ht hnow
    rcases (treats_of_step? ht).pending hnow with ⟨hbefore, -⟩ | ⟨rfl, hhidden, -⟩
    · obtain ⟨before, since, s₀, rfl, hbefore, hwaits⟩ := ih hbefore
      exact ⟨before, since ++ [t], s₀, List.append_assoc .., hbefore, hwaits.still ht hnow⟩
    · exact ⟨steps, [.takeKey], s, rfl, hrun, .opened hhidden ht hnow⟩

namespace WaitsSince

/-- The box waits. -/
lemma pending (h : WaitsSince s₀ key since s) : s.overlay = .pending key := by
  cases h with
  | opened hidden taken pending => exact pending
  | still waits taken pending => exact pending

/-- The account of the requests is kept meanwhile. -/
lemma requests (h : WaitsSince s₀ key since s) (h₀ : s₀.Requests) : s.Requests := by
  induction h with
  | opened hidden taken pending => exact h₀.step taken
  | still waits taken pending ih => exact ih.step taken

/-- **The request that was started when the box was opened is still the last one.** -/
lemma length_fetches (h : WaitsSince s₀ key since s) :
    s.fetches.length = s₀.fetches.length + 1 := by
  induction h with
  | opened hidden taken pending =>
      rcases (treats_of_step? taken).pending pending with ⟨hwaits, -⟩ | ⟨-, -, hmore⟩
      · exact absurd (hidden.symm.trans hwaits) (by simp)
      · exact hmore
  | still waits taken pending ih =>
      rcases (treats_of_step? taken).pending pending with ⟨-, hsame⟩ | ⟨-, hhidden, -⟩
      · exact hsame.trans ih
      · exact absurd (hhidden.symm.trans waits.pending) (by simp)

/-- **Whose outcomes wait**: those that waited already when the box was opened, and that of the
request that was started then. -/
lemma mem_deliveries (h : WaitsSince s₀ key since s) (h₀ : s₀.Requests) {d : Delivery}
    (hd : d ∈ s.deliveries) :
    d ∈ s₀.deliveries ∨ d.fetch = s₀.fetches.length ∧
      ∃ outcome, .finish d.fetch outcome ∈ since ∧ d.result = outcome.result := by
  induction h with
  | opened hidden taken pending =>
      rcases (treats_of_step? taken).mem_deliveries hd with hold | ⟨outcome, f, hfinish, -⟩
      · exact .inl hold
      · exact absurd hfinish (by simp)
  | still waits taken pending ih =>
      rcases (treats_of_step? taken).mem_deliveries hd with hold |
        ⟨outcome, f, hfinish, hresult, hfound, hrunning⟩
      · refine (ih hold).imp id fun ⟨hfetch, outcome, hmem, hresult⟩ => ?_
        exact ⟨hfetch, outcome, List.mem_append_left _ hmem, hresult⟩
      · -- a request that ends while the box waits is the last one
        have hlast := (waits.requests h₀).last d.fetch f hfound hrunning
        rw [waits.length_fetches] at hlast
        refine .inr ⟨Nat.succ.inj hlast, outcome, ?_, hresult⟩
        exact List.mem_append_right _ (List.mem_singleton.mpr hfinish.symm)

end WaitsSince

/-- An outcome that waits comes from a request that came to its end in the run. -/
lemma finish_mem_of_run (hs : first.run? steps = some s) (hfirst : first.deliveries = [])
    {d : Delivery} (hd : d ∈ s.deliveries) :
    ∃ outcome, .finish d.fetch outcome ∈ steps ∧ d.result = outcome.result := by
  refine run_induction (P := fun steps s => d ∈ s.deliveries →
    ∃ outcome, .finish d.fetch outcome ∈ steps ∧ d.result = outcome.result) ?_ ?_ hs hd
  · intro hnow
    rw [hfirst] at hnow
    exact absurd hnow (by simp)
  · intro steps s t s' _ ih ht hnow
    rcases (treats_of_step? ht).mem_deliveries hnow with hold | ⟨outcome, f, rfl, hresult, -⟩
    · obtain ⟨outcome, hmem, hresult⟩ := ih hold
      exact ⟨outcome, List.mem_append_left _ hmem, hresult⟩
    · exact ⟨outcome, List.mem_append_right _ (List.mem_singleton_self _), hresult⟩

/-- **The box takes the outcome of a request that was not stopped.**
Whatever order the steps of the session of a new board take, when a delivery turns the box, the box
has been waiting since it was opened in this run, and the request that was started then is the last
one. The box takes the outcome of a request for its instrument that has come to its end: of the
request that was started when it was opened, which ended since; or of an earlier one that had ended,
and whose outcome was still waiting, when the box was opened. -/
theorem delivered_of_run (c : Canvas) (policy : Recoloring) (steps : List Step) {s s' : Session}
    (hs : (start (.ofCanvas c policy)).run? steps = some s)
    (ht : s.step? .takeDelivery = some s')
    (hturned : s'.board.view.overlay ≠ s.board.view.overlay) :
    ∃ key d outcome before since s₀,
      s.deliveries.head? = some d ∧ d.result = outcome.result ∧
      s'.board.view.overlay = .ofOutcome key outcome.result ∧
      steps = before ++ since ∧ (start (.ofCanvas c policy)).run? before = some s₀ ∧
      WaitsSince s₀ key since s ∧ s.fetches.length = s₀.fetches.length + 1 ∧
      s.fetches[d.fetch]? = some ⟨key, .finished⟩ ∧
      (d.fetch = s₀.fetches.length ∧ .finish d.fetch outcome ∈ since ∨
        d ∈ s₀.deliveries ∧ .finish d.fetch outcome ∈ before) := by
  obtain ⟨-, _, hadvance, rfl⟩ := step?_eq_some_iff.mp ht
  cases hadvance with
  | @takeDelivery d rest running finished =>
  -- a delivery that turns the box is one for which it waits
  have hpending : s.overlay = .pending d.key := by
    by_contra hne
    exact hturned (congrArg (·.view.overlay) (Board.deliver_of_ne hne d.result))
  have hd : d ∈ s.deliveries := finished ▸ List.mem_cons_self
  obtain ⟨before, since, s₀, hsteps, hbefore, hwaits⟩ := waitsSince_of_run hs rfl hpending
  have h₀ : s₀.Requests := (requests_start c policy).run hbefore
  suffices hfinish : ∃ outcome : DepthOutcome, d.result = outcome.result ∧
      (d.fetch = s₀.fetches.length ∧ .finish d.fetch outcome ∈ since ∨
        d ∈ s₀.deliveries ∧ .finish d.fetch outcome ∈ before) by
    obtain ⟨outcome, hresult, hwhose⟩ := hfinish
    refine ⟨d.key, d, outcome, before, since, s₀, congrArg List.head? finished, hresult, ?_, hsteps,
      hbefore, hwaits, hwaits.length_fetches, (hwaits.requests h₀).finished d hd, hwhose⟩
    rw [← hresult]
    exact Board.overlay_deliver hpending d.result
  rcases hwaits.mem_deliveries h₀ hd with hold | ⟨hfetch, outcome, hmem, hresult⟩
  · obtain ⟨outcome, hmem, hresult⟩ := finish_mem_of_run hbefore rfl hold
    exact ⟨outcome, hresult, .inr ⟨hold, hmem⟩⟩
  · exact ⟨outcome, hresult, .inl ⟨hfetch, hmem⟩⟩

/-- The box is opened, and its request fails: the box shows the failure of a request that ended in
the run. -/
theorem delivered_of_run_failed :
    let trade : Arrival :=
      .binary [2, 0, 0, 0, 0, 0, 0, 0, 0, 0, 0, 0, 0, 0, 1, 0, 0, 0, 0, 0, 0, 0, 2]
    let steps : List Step :=
      [.arrive trade, .takeMessage, .press (.key { code := .char 'b' }), .takeKey,
        .finish 0 ⟨.error (.unresolved ""), []⟩]
    let first := start (.ofCanvas (.ofTerminal (.ofDevice (.blank 20 5)) 3) .trades)
    ∃ s s', first.run? steps = some s ∧ s.step? .takeDelivery = some s' ∧
      s'.board.view.overlay ≠ s.board.view.overlay ∧
        ∃ (key : Key) (d : Delivery) (outcome : DepthOutcome),
          s'.board.view.overlay = .ofOutcome key outcome.result ∧
          s.fetches[d.fetch]? = some ⟨key, .finished⟩ ∧ .finish d.fetch outcome ∈ steps := by
  intro trade steps first
  obtain ⟨s, hs⟩ : ∃ s, first.run? steps = some s := Option.isSome_iff_exists.mp (by decide +kernel)
  have hend : (first.run? steps).any (fun s => (s.step? .takeDelivery).any fun s' =>
      s'.board.view.overlay ≠ s.board.view.overlay) = true := by decide +kernel
  simp only [hs, Option.any_some, Option.any_eq_true, decide_eq_true_eq] at hend
  obtain ⟨s', ht, hturned⟩ := hend
  obtain ⟨key, d, outcome, before, since, s₀, -, -, hshown, hsteps, -, -, -, hfetch, hwhose⟩ :=
    delivered_of_run _ _ steps hs ht hturned
  refine ⟨s, s', hs, ht, hturned, key, d, outcome, hshown, hfetch, ?_⟩
  rw [hsteps, List.mem_append]
  exact hwhose.elim (fun h => .inr h.2) (fun h => .inl h.2)

/-- **An outcome may overtake a request**: the box is opened, and the outcome of its request waits
when the user closes the box and opens it again. Then the box takes the outcome that waits, although
the request that was started last is still running. -/
theorem overtaken_delivery :
    let trade : Arrival :=
      .binary [2, 0, 0, 0, 0, 0, 0, 0, 0, 0, 0, 0, 0, 0, 1, 0, 0, 0, 0, 0, 0, 0, 2]
    let toggle : List Step := [.press (.key { code := .char 'b' }), .takeKey]
    let steps : List Step :=
      [.arrive trade, .takeMessage] ++ toggle ++ [.finish 0 ⟨.ok {}, []⟩] ++ toggle ++ toggle
    let first := start (.ofCanvas (.ofTerminal (.ofDevice (.blank 20 5)) 3) .trades)
    ∃ s s', first.run? steps = some s ∧ s.step? .takeDelivery = some s' ∧
      s.fetches = [⟨⟨"", 0⟩, .finished⟩, ⟨⟨"", 0⟩, .running⟩] ∧
      s.deliveries.map (·.fetch) = [0] ∧
      s.board.view.overlay = .pending ⟨"", 0⟩ ∧ s'.board.view.overlay = .shown ⟨"", 0⟩ {} := by
  intro trade toggle steps first
  obtain ⟨s, hs⟩ : ∃ s, first.run? steps = some s := Option.isSome_iff_exists.mp (by decide +kernel)
  have hend : (first.run? steps).any (fun s =>
      s.fetches = [⟨⟨"", 0⟩, .finished⟩, ⟨⟨"", 0⟩, .running⟩] && s.deliveries.map (·.fetch) = [0] &&
        s.board.view.overlay = .pending ⟨"", 0⟩ && (s.step? .takeDelivery).any (fun s' =>
          s'.board.view.overlay = .shown ⟨"", 0⟩ {})) = true := by decide +kernel
  simp only [hs, Option.any_some, Bool.and_eq_true, decide_eq_true_eq, Option.any_eq_true] at hend
  obtain ⟨⟨⟨hfetches, hdeliveries⟩, hpending⟩, s', ht, hshown⟩ := hend
  exact ⟨s, s', hs, ht, hfetches, hdeliveries, hpending, hshown⟩

end MarketBoard.Session

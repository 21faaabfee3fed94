import MarketBoard.Session.Basic

/-!
One way for a session to go on by itself: what waits is taken in a fixed order, and a request for
depth comes to its end at once.

* `Session.next?`: the step to take next; none if nothing is left to be done.
* `Session.settle`: the session once nothing is left to be done.
-/

namespace MarketBoard.Session

/-- The request that is running. -/
def runningFetch? (s : Session) : Option (Nat × Key) :=
  (s.fetches.zipIdx.find? fun item => item.1.state = .running).map fun item => (item.2, item.1.key)

/-- The step to take next: messages first, then events, requests and their outcomes, and the ends of
all these last. -/
def next? (ask : Key → DepthOutcome) (s : Session) : Option Step :=
  if !s.isRunning then
    if s.isClosed then none
    else if s.receiver.isOver then some .close
    else some .endReceiver
  else if s.receiver.cancelled then some .seeCancel
  else if !s.inbox.isEmpty then some .takeMessage
  else if s.receiver.isOver then some .seeFeedEnd
  else if !s.keys.isEmpty then some .takeKey
  else
    match s.runningFetch? with
    | some (fetch, key) => some (.finish fetch (ask key))
    | none =>
      if !s.deliveries.isEmpty then some .takeDelivery
      else if s.keysEnded then some .seeKeysEnd
      else none

/-- A bound for the number of steps that are left. -/
def work (s : Session) : Nat :=
  s.inbox.length + 4 * s.keys.length + 2 * s.fetches.length + s.deliveries.length + 4

/-- The session after at most so many further steps. -/
def settleWithin (ask : Key → DepthOutcome) : Nat → Session → Session
  | 0, s => s
  | n + 1, s =>
    match s.next? ask >>= s.step? with
    | some s' => settleWithin ask n s'
    | none => s

/-- The session once nothing is left to be done. -/
def settle (ask : Key → DepthOutcome) (s : Session) : Session := settleWithin ask s.work s

/-- The session after something was done to it, once nothing is left to be done. What is not possible
any more has no effect. -/
def after (ask : Key → DepthOutcome) (s : Session) (t : Step) : Session :=
  ((s.step? t).getD s).settle ask

end MarketBoard.Session

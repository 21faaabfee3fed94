import MarketBoard.Board
import MarketBoard.DepthClient
import MarketBoard.Feed

/-!
A board at work: the receive loop, the keyboard, the requests for depth and the loop that changes the
board, all side by side.

* `Session`: the state of all of them between two steps.
* `Session.Step`: the steps that each of them can take, and what can be done to them from outside.
* `Session.step?`: the state after a step, if the step is possible; `Session.run?`: after several. Any
  step that is possible may be the next one.
* `Session.result`: how the session ended.
-/

namespace MarketBoard

/-- What has become of a request for depth. -/
inductive FetchState where
  | running | finished | aborted
deriving DecidableEq, Repr

/-- A request for depth that was started. -/
structure Fetch where
  key : Key
  state : FetchState := .running
deriving DecidableEq, Repr

/-- Why the loop of the board was left. -/
inductive Exit where
  | quit
  | keysEnded
  | cancelled
  | feedEnded
deriving DecidableEq, Repr

/-- Where the loop of the board is. -/
inductive LoopState where
  | running
  /-- It was left, and the receive loop is waited for. -/
  | left (why : Exit)
  /-- All is over. -/
  | closed (why : Exit) (result : Except FeedError Unit)

/-- A finished request that waits to be delivered. -/
structure Delivery where
  /-- The place of the request among all that were started. -/
  fetch : Nat
  key : Key
  result : Except DepthError Book

/-- The state of a session. -/
structure Session where
  board : Board
  receiver : Receiver := {}
  /-- The number of messages that the board has taken from the receive loop. -/
  applied : Nat := 0
  /-- The events of the terminal that are not taken yet, oldest first. -/
  keys : List Event := []
  /-- No event will come any more. -/
  keysEnded : Bool := false
  /-- All requests that were started, oldest first. -/
  fetches : List Fetch := []
  /-- The finished requests that are not delivered yet, oldest first. -/
  deliveries : List Delivery := []
  loop : LoopState := .running
  /-- The requests as they went out. -/
  requests : List (List UInt8) := []
  /-- What went wrong, in order. -/
  journal : List Notice := []

/-- What happens in a session. -/
inductive Session.Step where
  /-- The receive loop takes what has arrived. -/
  | arrive (a : Arrival)
  /-- The receive loop sees that it was asked to end. -/
  | endReceiver
  /-- Somebody asks the session to end. -/
  | cancel
  /-- The terminal has an event. -/
  | press (e : Event)
  /-- The terminal has no more events. -/
  | endKeys
  /-- The user gives the terminal a new size; it belongs to the session until all is over. -/
  | resizeTerminal (width height : Nat)
  /-- A request that is running comes to its end. -/
  | finish (fetch : Nat) (outcome : DepthOutcome)
  /-- The board takes the next message. -/
  | takeMessage
  /-- The board takes the next event. -/
  | takeKey
  /-- The board takes the next finished request. -/
  | takeDelivery
  /-- The board sees that no message will come any more. -/
  | seeFeedEnd
  /-- The board sees that no event will come any more. -/
  | seeKeysEnd
  /-- The board sees that the session is asked to end. -/
  | seeCancel
  /-- The receive loop has ended as well, and the session is over. -/
  | close

namespace Session

/-- The loop of the board was not left. -/
def isRunning (s : Session) : Bool :=
  match s.loop with
  | .running => true
  | _ => false

/-- All is over. -/
def isClosed (s : Session) : Bool :=
  match s.loop with
  | .closed _ _ => true
  | _ => false

/-- The result of a session that is over. -/
def result? (s : Session) : Option (Except FeedError Unit) :=
  match s.loop with
  | .closed _ result => some result
  | _ => none

/-- The messages that wait for the board. -/
def inbox (s : Session) : List Message := s.receiver.sent.drop s.applied

/-- Stops a request, unless it has come to its end. -/
def Fetch.abort (f : Fetch) : Fetch :=
  match f.state with
  | .running => { f with state := .aborted }
  | _ => f

/-- Stops the request that was started last. -/
def abortLast : List Fetch → List Fetch
  | [] => []
  | [f] => [Fetch.abort f]
  | f :: rest => f :: abortLast rest

/-- Leaves the loop of the board: the receive loop is asked to end, and the last request is stopped. -/
def leave (s : Session) (why : Exit) : Session :=
  { s with
    loop := .left why
    receiver := { s.receiver with cancelled := true }
    fetches := abortLast s.fetches }

/-- Starts a request; the one before it is stopped. -/
def startFetch (s : Session) (key : Key) : Session :=
  { s with fetches := abortLast s.fetches ++ [{ key }] }

/-- Lets the board deal with an event. -/
def handle (s : Session) (e : Event) : Session :=
  match Command.ofEvent? e with
  | none => s
  | some command =>
    match s.board.obey command with
    | (none, board) => { s with board }
    | (some .quit, board) => { s with board }.leave .quit
    | (some (.fetchDepth key), board) => { s with board }.startFetch key

/-- Ends a request that is running: its outcome waits to be delivered. -/
def finish? (s : Session) (fetch : Nat) (outcome : DepthOutcome) : Option Session :=
  match s.fetches[fetch]? with
  | some f =>
    if f.state = .running then
      some { s with
        fetches := s.fetches.set fetch { f with state := .finished }
        deliveries := s.deliveries ++ [⟨fetch, f.key, outcome.result⟩]
        requests := if outcome.written.isEmpty then s.requests else s.requests ++ [outcome.written] }
    else none
  | none => none

/-- Ends the session with the result of the receive loop. -/
def close? (s : Session) : Option Session :=
  match s.loop, s.receiver.result with
  | .left why, some (.ok _) => some { s with loop := .closed why (.ok ()) }
  | .left why, some (.error e) =>
    some { s with loop := .closed why (.error e), journal := s.journal ++ [.feedLost e.message] }
  | _, _ => none

/-- The state after a step, with the journals still where the step left them. -/
def advance? (s : Session) : Step → Option Session
  | .arrive a => (s.receiver.step? (.take a)).map fun receiver => { s with receiver }
  | .endReceiver => (s.receiver.step? .obey).map fun receiver => { s with receiver }
  | .cancel => (s.receiver.step? .cancel).map fun receiver => { s with receiver }
  | .press e => if s.keysEnded then none else some { s with keys := s.keys ++ [e] }
  | .endKeys => some { s with keysEnded := true }
  | .resizeTerminal width height =>
    if s.isClosed then none
    else
      let terminal := s.board.canvas.terminal
      let device := terminal.device.resize width height
      some { s with
        board := { s.board with canvas := { s.board.canvas with terminal := { terminal with device } } } }
  | .finish fetch outcome => s.finish? fetch outcome
  | .takeMessage =>
    match s.isRunning, s.inbox with
    | true, m :: _ => some { s with board := s.board.receive m, applied := s.applied + 1 }
    | _, _ => none
  | .takeKey =>
    match s.isRunning, s.keys with
    | true, e :: keys => some ({ s with keys }.handle e)
    | _, _ => none
  | .takeDelivery =>
    match s.isRunning, s.deliveries with
    | true, d :: deliveries => some { s with board := s.board.deliver d.key d.result, deliveries }
    | _, _ => none
  | .seeFeedEnd =>
    if s.isRunning && s.inbox.isEmpty && s.receiver.isOver then some (s.leave .feedEnded) else none
  | .seeKeysEnd =>
    if s.isRunning && s.keys.isEmpty && s.keysEnded then some (s.leave .keysEnded) else none
  | .seeCancel => if s.isRunning && s.receiver.cancelled then some (s.leave .cancelled) else none
  | .close => s.close?

/-- The session with the journals of its parts moved into its own. -/
def collect (s : Session) : Session :=
  { s with
    journal := s.journal ++ s.receiver.intake.journal ++ s.board.canvas.journal
    receiver := { s.receiver with intake := { s.receiver.intake with journal := [] } }
    board := { s.board with canvas := { s.board.canvas with journal := [] } } }

/-- The state after a step; none if the step is not possible. Nothing is possible any more once the
program has ended in a draw; such a session has no result. -/
def step? (s : Session) (t : Step) : Option Session :=
  if s.board.canvas.stopped then none else (s.advance? t).map collect

/-- The state after several steps, all of which have to be possible. -/
def run? (s : Session) : List Step → Option Session
  | [] => some s
  | t :: rest => s.step? t >>= (run? · rest)

/-- A run in two parts. -/
theorem run?_append (s : Session) (a b : List Step) :
    s.run? (a ++ b) = s.run? a >>= (run? · b) := by
  induction a generalizing s with
  | nil => rfl
  | cons t rest ih =>
    simp only [List.cons_append, run?]
    cases s.step? t with
    | none => rfl
    | some s' => exact ih s'

/-- A session with a board that has drawn itself for the first time. -/
def start (b : Board) : Session := { board := b.start : Session }.collect

end Session

end MarketBoard

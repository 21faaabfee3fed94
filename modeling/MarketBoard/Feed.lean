import MarketBoard.Feed.Address
import MarketBoard.Notice
import MarketBoard.Wire.Payload

/-!
The live subscription: its opening, what arrives on it, and the loop that takes messages off it.

* `Subscription.handshake`: the first text that is sent.
* `Arrival`: what can arrive; `FeedError`: how a subscription ends.
* `Intake`: the counters; `Intake.take` decodes one frame and never fails.
* `Receiver`: the loop, one step at a time (`Receiver.step?`), and its runs (`Receiver.run?`). A step is
  either one of its own or something done to it from outside; whenever two steps are possible, a run
  may take either.
-/

namespace MarketBoard

/-! ### Opening -/

/-- How a subscription fails or ends. -/
inductive FeedError where
  /-- The address is none of a feed. -/
  | badUrl (url : String)
  /-- No connection came about, with the system's words. -/
  | unconnected (url reason : String)
  /-- The connection broke, with the system's words. -/
  | broken (reason : String)
  /-- The other side ended it. -/
  | closed
deriving DecidableEq, Repr

/-- The words for a cause. -/
def FeedError.message : FeedError → String
  | badUrl url => s!"invalid stream url {url}"
  | unconnected url reason => s!"connect to {url} failed: {reason}"
  | broken reason => s!"stream transport: {reason}"
  | closed => "stream closed by peer"

/-- A subscription to be opened: where, and from which offset on. -/
structure Subscription where
  url : String
  offset : Option Int := none
deriving DecidableEq, Repr

namespace Subscription

/-- The first text on the connection: it asks for the feed, from the offset on if there is one. -/
def handshake (s : Subscription) : String :=
  match s.offset with
  | none => "\x7b\"cmd\":\"mark\"\x7d"
  | some offset => "\x7b\"cmd\":\"mark\",\"offset\":" ++ toString offset ++ "\x7d"

/-- Opens the subscription, given what comes of connecting to an endpoint: the text that is sent, or
why nothing is. An address with something wrong is not tried. -/
def opening (s : Subscription) (connect : Endpoint → Except String Unit) : Except FeedError String :=
  if !Address.hasScheme s.url then .error (.badUrl s.url)
  else
    match Address.check s.url with
    | .error e => .error (.unconnected s.url s!"HTTP format error: {e.message}")
    | .ok _ =>
      match connect (Address.endpoint s.url) with
      | .ok _ => .ok s.handshake
      | .error reason => .error (.unconnected s.url reason)

end Subscription

/-! ### Arrivals -/

/-- What arrives on a subscription. -/
inductive Arrival where
  | binary (bytes : List UInt8)
  | text (s : String)
  | ping (bytes : List UInt8)
  | pong (bytes : List UInt8)
  /-- A frame as it stands on the wire, which nobody has looked into. -/
  | raw (bytes : List UInt8)
  /-- The other side says that it closes. -/
  | close
  /-- The connection breaks. -/
  | fault (reason : String)
  /-- Nothing will arrive any more. -/
  | nothing
deriving DecidableEq, Repr

/-- The bytes in which an arrival may hold a message. -/
def Arrival.payload? : Arrival → Option (List UInt8)
  | binary bytes => some bytes
  | text s => some s.toUTF8.data.toList
  | _ => none

/-- How an arrival ends the subscription, if it does. -/
def Arrival.ending? : Arrival → Option FeedError
  | close => some .closed
  | fault reason => some (.broken reason)
  | nothing => some .closed
  | _ => none

/-! ### Counting and decoding -/

/-- The counters of a subscription. Counters of 64 bits hold them below `2 ^ 64`; here they have no bound,
like `View.messages`. -/
structure FeedStats where
  frames : Nat := 0
  messages : Nat := 0
  errors : Nat := 0
deriving DecidableEq, Repr, Inhabited

/-- The counters, and the journal of dropped frames. -/
structure Intake where
  stats : FeedStats := {}
  journal : List Notice := []
deriving DecidableEq, Repr, Inhabited

/-- Takes one frame: its message, if it is one. Otherwise the frame is noted and dropped. -/
def Intake.take (i : Intake) (bytes : List UInt8) : Option Message × Intake :=
  let s := i.stats
  match Message.decode bytes with
  | .ok m => (some m, { i with stats := ⟨s.frames + 1, s.messages + 1, s.errors⟩ })
  | .error cause =>
    (none, {
      stats := ⟨s.frames + 1, s.messages, s.errors + 1⟩
      journal := i.journal ++ [.frameDropped (s.frames + 1) bytes.length (s.errors + 1) cause] })

/-! ### The receive loop -/

/-- The receive loop between two of its steps. -/
structure Receiver where
  intake : Intake := {}
  /-- The messages that were handed on, oldest first. -/
  sent : List Message := []
  /-- Somebody wants the loop to end. -/
  cancelled : Bool := false
  /-- Nobody takes messages any more. -/
  consumerGone : Bool := false
  /-- How the loop ended; none as long as it goes on. -/
  result : Option (Except FeedError FeedStats) := none

/-- What happens to the loop, or what it does. -/
inductive Receiver.Step where
  /-- Somebody asks it to end. -/
  | cancel
  /-- The consumer of the messages goes away. -/
  | dropConsumer
  /-- It sees that it was asked to end, and does so. -/
  | obey
  /-- It takes what has arrived. -/
  | take (a : Arrival)
deriving DecidableEq, Repr

namespace Receiver

/-- The loop has ended. -/
def isOver (r : Receiver) : Bool := r.result.isSome

/-- Hands a message on, or ends if nobody takes it. -/
def handOn (r : Receiver) (m : Message) : Receiver :=
  if r.consumerGone then { r with result := some (.ok r.intake.stats) }
  else { r with sent := r.sent ++ [m] }

/-- Takes an arrival. -/
def take (r : Receiver) (a : Arrival) : Receiver :=
  match a.ending? with
  | some e => { r with result := some (.error e) }
  | none =>
    match a.payload? with
    | none => r
    | some bytes =>
      match r.intake.take bytes with
      | (some m, intake) => { r with intake }.handOn m
      | (none, intake) => { r with intake }

/-- The loop after a step; none if the step is not possible. -/
def step? (r : Receiver) : Step → Option Receiver
  | .cancel => some { r with cancelled := true }
  | .dropConsumer => some { r with consumerGone := true }
  | .obey =>
    if r.isOver || !r.cancelled then none
    else some { r with result := some (.ok r.intake.stats) }
  | .take a => if r.isOver then none else some (r.take a)

/-- The loop after several steps, all of which have to be possible. -/
def run? (r : Receiver) : List Step → Option Receiver
  | [] => some r
  | s :: rest => r.step? s >>= (run? · rest)

/-- A run in two parts. -/
theorem run?_append (r : Receiver) (a b : List Step) :
    r.run? (a ++ b) = r.run? a >>= (run? · b) := by
  induction a generalizing r with
  | nil => rfl
  | cons s rest ih =>
    simp only [List.cons_append, run?]
    cases r.step? s with
    | none => rfl
    | some r' => exact ih r'

/-- The loop after the steps of a list that are possible when their turn comes. -/
def follow (r : Receiver) (steps : List Step) : Receiver :=
  steps.foldl (fun r s => (r.step? s).getD r) r

end Receiver

end MarketBoard

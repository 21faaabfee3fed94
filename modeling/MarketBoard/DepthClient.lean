import MarketBoard.DepthError
import MarketBoard.Endpoint
import MarketBoard.Wire.Frame
import MarketBoard.Wire.Payload

/-!
Asking for the depth of an instrument: one request on one connection.

* `Connection`: what comes of connecting to an address.
* `DepthClient.exchange`: request and answer on an open connection.
* `DepthClient.fetch`: the whole of it: find the address, connect, exchange, within a limit of time.
* `DepthClient.ask`: the request that a session makes for an instrument.
-/

namespace MarketBoard

/-- What comes of connecting. -/
inductive Connection where
  /-- Nobody listens there. -/
  | refused
  /-- There is no way there, in the system's words. -/
  | failed (reason : String)
  /-- A connection on which the other side says nothing after its last byte, until it closes or for ever. -/
  | opened (sink : Sink) (source : Source) (stays : Bool)

/-- What a client has to do with: names and connections. -/
structure Network where
  /-- The address of an endpoint, as it is written in messages. -/
  resolve : Endpoint → Option String
  /-- What comes of connecting to an address. -/
  connect : String → Connection

/-- Whom to ask, and how long to wait. -/
structure DepthClient where
  endpoint : String
  limit : Duration
deriving DecidableEq, Repr

/-- What comes of a request: the book or the failure, and the bytes that went out. -/
structure DepthOutcome where
  result : Except DepthError Book
  written : List UInt8 := []

namespace DepthClient

/-- The answer that a frame holds. -/
def answer (source : Source) : Except DepthError Book :=
  match (Frame.read source).1 with
  | .error e => .error (.unframed e)
  | .ok payload =>
    match Book.decode payload with
    | .error e => .error (.undecodable e)
    | .ok book => .ok book

/-- Sends the request and reads the answer on an open connection. -/
def exchange (r : DepthRequest) (sink : Sink) (source : Source) : DepthOutcome :=
  match r.encode with
  | .error e => { result := .error (.unencodable e) }
  | .ok payload =>
    match Frame.write payload sink with
    | (.error e, sink) => { result := .error (.unframed e), written := sink.taken }
    | (.ok _, sink) => { result := answer source, written := sink.taken }

/-- The failure came from waiting for more data. -/
def waited : Except DepthError Book → Bool
  | .error (.unframed (.shortRead _ _)) => true
  | _ => false

/-- Asks for a book. Data that never ends and never suffices is waited for until the limit. -/
def fetch (c : DepthClient) (net : Network) (r : DepthRequest) : DepthOutcome :=
  match Endpoint.parse? c.endpoint >>= net.resolve with
  | none => { result := .error (.unresolved c.endpoint) }
  | some address =>
    match net.connect address with
    | .refused => { result := .error (.refused address) }
    | .failed reason => { result := .error (.failed reason) }
    | .opened sink source stays =>
      let outcome := exchange r sink source
      if stays && waited outcome.result then { outcome with result := .error (.timedOut c.limit) }
      else outcome

/-- Asks for the book of an instrument, with at most so many levels on a side. -/
def ask (c : DepthClient) (maxLevels : UInt16) (net : Network) (key : Key) : DepthOutcome :=
  c.fetch net ⟨key, maxLevels⟩

end DepthClient

end MarketBoard

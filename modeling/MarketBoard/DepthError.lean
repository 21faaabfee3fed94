import MarketBoard.Duration
import MarketBoard.Wire.Error

/-!
Why a request for depth failed, and the words for it. No such failure ends the board.
-/

namespace MarketBoard

/-- Why there is no book. -/
inductive DepthError where
  /-- Nobody listens at the address. -/
  | refused (address : String)
  /-- The exchange took longer than it may. -/
  | timedOut (limit : Duration)
  /-- The endpoint is no address. -/
  | unresolved (endpoint : String)
  /-- The connection failed, with the system's words. -/
  | failed (reason : String)
  /-- The request has no payload. -/
  | unencodable (cause : EncodeError)
  /-- No whole frame came or went. -/
  | unframed (cause : FrameError)
  /-- The payload is no book. -/
  | undecodable (cause : DecodeError)
deriving DecidableEq, Repr

/-- The words for a cause. -/
def DepthError.message : DepthError → String
  | refused address => s!"snapshot server {address} refused the connection"
  | timedOut limit => s!"snapshot request timed out after {limit.text}"
  | unresolved endpoint => s!"cannot resolve snapshot endpoint {endpoint}"
  | failed reason => s!"snapshot i/o: {reason}"
  | unencodable cause => s!"snapshot request encode: {cause.message}"
  | unframed cause => s!"snapshot framing: {cause.message}"
  | undecodable cause => s!"snapshot decode: {cause.message}"

end MarketBoard

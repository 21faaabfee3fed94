import MarketBoard.DepthError
import MarketBoard.Instrument.Key

/-!
What the board reports while it goes on: failures that do not end it, and the loss of the feed.

* `Notice`: the events, each with what it is about.
* `Notice.message`, `Notice.fields`: the words and the named details of an event.
-/

namespace MarketBoard

/-- How grave an event is. -/
inductive Severity where
  | warning | error
deriving DecidableEq, Repr

/-- A reported event. -/
inductive Notice where
  /-- An instrument stands at a row that the pad does not have. -/
  | rowOutside (row : Nat) (label : String) (capacity : Nat)
  /-- A frame could not be sent to the terminal. -/
  | frameUnsent (top : Nat) (fault : String)
  /-- The terminal could not be cleared. -/
  | notCleared (fault : String)
  /-- The size of the terminal is not known. -/
  | sizeUnknown (fault : String)
  /-- The terminal could not follow its new size. -/
  | notResized (fault : String)
  /-- A request for depth failed. -/
  | depthFailed (key : Key) (cause : DepthError)
  /-- Bytes of the feed are no message. -/
  | frameDropped (frame length errors : Nat) (cause : DecodeError)
  /-- The feed ended. -/
  | feedLost (cause : String)
deriving DecidableEq, Repr

namespace Notice

/-- How grave the event is. -/
def severity : Notice → Severity
  | feedLost _ => .error
  | _ => .warning

/-- The event in words. -/
def message : Notice → String
  | rowOutside _ _ _ => "render failed"
  | frameUnsent _ _ => "render failed"
  | notCleared _ => "terminal clear failed"
  | sizeUnknown _ => "cannot query terminal size"
  | notResized _ => "terminal resize failed"
  | depthFailed _ _ => "snapshot fetch failed"
  | frameDropped _ _ _ _ => "dropping undecodable frame"
  | feedLost _ => "stream lost"

/-- The details of the event, each with its name. -/
def fields : Notice → List (String × String)
  | rowOutside row label capacity =>
    [("row", toString row), ("key", label), ("op", "draw_row"),
      ("error", s!"row {row} ({label}) outside pad of {capacity} rows")]
  | frameUnsent top fault =>
    [("op", "refresh_viewport"), ("top", toString top), ("error", s!"terminal write: {fault}")]
  | notCleared fault => [("op", "redraw_all"), ("error", fault)]
  | sizeUnknown fault => [("op", "size"), ("error", fault)]
  | notResized fault => [("op", "resize"), ("error", fault)]
  | depthFailed key cause => [("key", key.label), ("op", "snapshot"), ("error", cause.message)]
  | frameDropped frame length errors cause =>
    [("frame", toString frame), ("len", toString length), ("errors", toString errors),
      ("error", cause.message)]
  | feedLost cause => [("error", cause)]

end Notice

end MarketBoard

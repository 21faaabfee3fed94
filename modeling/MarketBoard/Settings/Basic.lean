import MarketBoard.Duration
import MarketBoard.Instrument.Basic
import MarketBoard.Settings.Arguments

/-!
The settings of a board: what the arguments say, with a default for each option that they leave out.

* `Settings.ofOptions`: the settings of a list of options; two values that can be read cannot be used.
* `Settings.ofArguments`: the settings of the command line.
-/

namespace MarketBoard

/-- The settings of a board. -/
structure Settings where
  streamUrl : String
  depthEndpoint : String
  offset : Option Int
  maxLevels : UInt16
  /-- The limit for a request for depth. -/
  depthTimeout : Duration
  recoloring : Recoloring
  logFile : String
  verbose : Bool
deriving DecidableEq, Repr

/-- Why there are no settings. -/
inductive SettingsError where
  | arguments (cause : ArgumentError)
  /-- Books without levels are asked for. -/
  | noLevels
  /-- Requests for depth get no time. -/
  | noTime
deriving DecidableEq, Repr

/-- The words for a cause, where it has any. -/
def SettingsError.message? : SettingsError → Option String
  | arguments .version => some versionText
  | arguments _ => none
  | noLevels => some "--max-levels must be at least 1"
  | noTime => some "--snapshot-timeout-ms must be positive"

namespace Settings

/-- The text of an option, or its default. -/
def textOf (options : List (OptionName × String)) (o : OptionName) (default : String) : String :=
  (options.lookup o).getD default

/-- The number of an option, if it is given. -/
def numberOf? (options : List (OptionName × String)) (o : OptionName) : Option Int :=
  options.lookup o >>= fun text => integerOf? true text.toList

/-- The number of an option, or its default. -/
def numberOf (options : List (OptionName × String)) (o : OptionName) (default : Nat) : Nat :=
  ((numberOf? options o).map Int.toNat).getD default

/-- A path begins with a slash. -/
def rooted (path : String) : String := if path.startsWith "/" then path else "/" ++ path

/-- The settings that options describe. -/
def ofOptions (options : List (OptionName × String)) : Except SettingsError Settings :=
  let maxLevels := numberOf options .maxLevels 10
  let timeout := numberOf options .depthTimeout 2000
  if maxLevels = 0 then .error .noLevels
  else if timeout = 0 then .error .noTime
  else
    let host := textOf options .host "localhost"
    let port := numberOf options .port 8080
    let path := rooted (textOf options .path "/websocket")
    let depthHost := textOf options .depthHost "localhost"
    let depthPort := numberOf options .depthPort 8081
    .ok {
      streamUrl := s!"ws://{host}:{port}{path}"
      depthEndpoint := s!"{depthHost}:{depthPort}"
      offset := numberOf? options .offset
      maxLevels := UInt16.ofNat maxLevels
      depthTimeout := .ofMilliseconds timeout
      recoloring := if textOf options .recolor "trade" = "tick" then .quotesAndTrades else .trades
      logFile := textOf options .logFile "client.log"
      verbose := (options.lookup .verbose).isSome }

/-- The settings of a command line, without the name of the program. -/
def ofArguments (arguments : List String) : Except SettingsError Settings :=
  match Arguments.collect arguments with
  | .error cause => .error (.arguments cause)
  | .ok options => ofOptions options

end Settings

end MarketBoard

import MarketBoard.Session.Schedule
import MarketBoard.Settings.Basic

/-!
The program: it takes its settings from the command line, plays a recorded feed from standard input on
a board, and prints what the board shows at the end of it. A recorded feed consists of frames, each
with one message. What goes wrong on the way is written to standard error.

* `Record.play`: the session in which the frames of a record have arrived.
* `main`: the program, with 0 for success, 1 for a failure and 2 for arguments that are refused.
-/

namespace MarketBoard

namespace Record

/-- The size of the screen on which a record is shown. -/
def screenSize : Nat × Nat := (lineWidth, 24)

/-- A board without instruments. -/
def board (s : Settings) : Board :=
  let terminal := Terminal.ofDevice (.blank screenSize.1 screenSize.2)
  .ofCanvas (.ofTerminal terminal Canvas.defaultRows) s.recoloring

/-- A record is played without a network: no endpoint has an address. -/
def network : Network where
  resolve _ := none
  connect _ := .refused

/-- What comes of asking for depth. -/
def ask (s : Settings) (key : Key) : DepthOutcome :=
  DepthClient.ask ⟨s.depthEndpoint, s.depthTimeout⟩ s.maxLevels network key

/-- The session in which the frames of a record have arrived, and after which the user has left, with
the failure at which the record ended. -/
def play (s : Settings) (bytes : List UInt8) : Session × FrameError :=
  let (payloads, ending, _) := Frame.readAll { rest := bytes, grant := fun _ room => room }
  let session := payloads.foldl (fun session payload =>
    session.after (ask s) (.arrive (.binary payload))) (Session.start (board s))
  (session.after (ask s) .endKeys, ending)

/-- The lines of the screen. -/
def screenText (s : Session) : List String :=
  s.board.canvas.terminal.device.shown.lines.map fun line => String.ofList line.text

end Record

/-- An event of the journal on one line. -/
def Notice.line (n : Notice) : String :=
  let details := n.fields.map fun field => " " ++ field.1 ++ "=" ++ field.2
  (match n.severity with
    | .warning => "WARN "
    | .error => "ERROR ") ++ n.message ++ String.join details

/-- All bytes that are left in a stream. -/
partial def readToEnd (input : IO.FS.Stream) (before : ByteArray) : IO ByteArray := do
  let bytes ← input.read 65536
  if bytes.isEmpty then pure before else readToEnd input (before ++ bytes)

/-- Plays the record on standard input. -/
def playInput (s : Settings) : IO UInt32 := do
  let bytes ← readToEnd (← IO.getStdin) .empty
  let (session, ending) := Record.play s bytes.data.toList
  for line in Record.screenText session do
    IO.println line
  for notice in session.journal do
    IO.eprintln notice.line
  if ending = .shortRead 4 0 then pure 0
  else
    IO.eprintln ("Error: " ++ ending.message)
    pure 1

end MarketBoard

open MarketBoard in
/-- Runs the program with its arguments. -/
def main (arguments : List String) : IO UInt32 := do
  match Settings.ofArguments arguments with
  | .ok settings => playInput settings
  | .error (.arguments .help) =>
    IO.print usageText
    pure 0
  | .error (.arguments .version) =>
    IO.print versionText
    pure 0
  | .error (.arguments _) =>
    IO.eprint usageText
    pure 2
  | .error cause =>
    IO.eprintln ("Error: " ++ (cause.message?.getD ""))
    pure 1

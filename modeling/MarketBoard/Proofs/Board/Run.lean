import MarketBoard.Board
import Mathlib.Tactic.Lemma

/-!
Runs of a board.

* `Board.opened`: a new board on a terminal, drawn for the first time.
* `Board.Step`, `Board.step`, `Board.run`: messages, commands, outcomes of requests, and new sizes of
  the terminal, in any order.
* `Board.Input`, `Board.put`, `Board.after`: the same one by one, each with the effect that it leaves
  to be done; the board need not be told of a new size.
* `Board.obey_induction`: what all changes keep, every command keeps.
-/

namespace MarketBoard.Board

/-- A new board on a device, with a pad of the given number of rows, drawn for the first time. -/
def opened (d : Device) (rows : Nat) (policy : Recoloring) : Board :=
  (ofCanvas (.ofTerminal (.ofDevice d) rows) policy).start

/-- What happens to a board. -/
inductive Step where
  | message (m : Message)
  | command (c : Command)
  | outcome (key : Key) (result : Except DepthError Book)
  /-- The user gives the terminal a new size, and the board is told so at once. -/
  | resized (width height : Nat)

/-- The terminal has a new size, of which the board does not know. -/
def resizeTerminal (b : Board) (width height : Nat) : Board :=
  { b with canvas := { b.canvas with terminal := { b.canvas.terminal with
      device := b.canvas.terminal.device.resize width height } } }

/-- The board after a step. -/
def step (b : Board) : Step → Board
  | .message m => b.receive m
  | .command c => (b.obey c).2
  | .outcome key result => b.deliver key result
  | .resized width height => ((b.resizeTerminal width height).obey .resize).2

/-- The board after several steps. -/
def run (b : Board) (steps : List Step) : Board := steps.foldl step b

/-! ### Inputs -/

/-- What reaches a board. -/
inductive Input where
  /-- The first drawing. -/
  | start
  | message (m : Message)
  | command (c : Command)
  | outcome (key : Key) (result : Except DepthError Book)
  /-- The user gives the terminal a new size, and the board is not told. -/
  | resizeTerminal (width height : Nat)

/-- What an input does: what is left to be done, and the board after it. -/
def put (b : Board) : Input → Option Effect × Board
  | .start => (none, b.start)
  | .message m => (none, b.receive m)
  | .command c => b.obey c
  | .outcome key result => (none, b.deliver key result)
  | .resizeTerminal width height => (none, b.resizeTerminal width height)

/-- The board after several inputs. -/
def after (b : Board) (inputs : List Input) : Board := inputs.foldl (fun b i => (b.put i).2) b

/-- What several inputs leave to be done, one after another. -/
def effects (b : Board) : List Input → List (Option Effect)
  | [] => []
  | i :: rest => (b.put i).1 :: (b.put i).2.effects rest

/-- What every input keeps holds after all of them. -/
lemma after_induction {P : Board → Prop} (hput : ∀ b i, P b → P (b.put i).2) {b : Board} (h : P b)
    (inputs : List Input) : P (b.after inputs) := by
  induction inputs generalizing b with
  | nil => exact h
  | cons i rest ih => exact ih (hput b i h)

/-! ### Commands -/

/-- Turning the mark draws the row of the cursor, if an instrument stands there. -/
lemma toggleMark_eq (b : Board) :
    b.toggleMark =
      match b.store.atRow? b.view.row with
      | none => b
      | some _ =>
        ({ b with store := b.store.toggleMark b.view.row }.drawRowAt b.view.row false).refresh := by
  rw [toggleMark, Store.turnMark]
  cases b.store.atRow? b.view.row <;> rfl

/-- **What a command can do** to a board: leave it alone, or one of seven changes. What holds after
each of them holds after every command. -/
lemma obey_induction {P : Board → Prop} {b : Board} (c : Command) (stays : P b)
    (toggles : c = .toggleDepth → P b.toggleDepth.2) (sorts : ∀ descending, P (b.sort descending))
    (marks : P b.toggleMark) (moves : ∀ row, P (b.moveTo row))
    (shifts : ∀ column, P (b.moveToColumn column)) (resizes : P b.resize) : P (b.obey c).2 := by
  cases c with
  | quit => exact stays
  | toggleDepth => exact toggles rfl
  | sortAscending => exact sorts false
  | sortDescending => exact sorts true
  | toggleMark => exact marks
  | up =>
      rw [obey]
      split
      · exact moves _
      · exact stays
  | down =>
      rw [obey]
      split
      · exact moves _
      · exact stays
  | top =>
      rw [obey]
      split
      · exact stays
      · exact moves _
  | bottom =>
      rw [obey]
      split
      · exact moves _
      · exact stays
  | left =>
      rw [obey]
      split
      · exact shifts _
      · exact stays
  | right =>
      rw [obey]
      split
      · exact shifts _
      · exact stays
  | resize => exact resizes

/-- Only quitting and opening the box leave something to be done. -/
lemma effect_obey (b : Board) (c : Command) :
    (b.obey c).1 =
      match c with
      | .quit => some .quit
      | .toggleDepth => b.toggleDepth.1
      | _ => none := by
  cases c <;> rfl

end MarketBoard.Board

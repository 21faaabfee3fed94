/-!
What the user does at the terminal, and the commands that it stands for.

* `Event`: keys and the other events of a terminal.
* `Command`: what the board can be told to do.
* `Command.ofEvent?`: the command of an event; most keys have none.
-/

namespace MarketBoard

/-- A key of the keyboard. -/
inductive KeyCode where
  | char (c : Char)
  | function (n : Nat)
  | escape | up | down | left | right | home | end | pageUp | pageDown | tab | backTab | enter
  | backspace | delete | insert | null
deriving DecidableEq, Repr

/-- What happens to a key. -/
inductive KeyAction where
  | press | repetition | release
deriving DecidableEq, Repr, Inhabited

/-- A key event. -/
structure KeyEvent where
  code : KeyCode
  control : Bool := false
  shift : Bool := false
  alt : Bool := false
  action : KeyAction := .press
deriving DecidableEq, Repr

/-- An event of the terminal. -/
inductive Event where
  | key (k : KeyEvent)
  | resize (width height : Nat)
  | focusGained
  | focusLost
  | mouse
  | paste (text : String)
deriving DecidableEq, Repr

/-- What the board can be told to do. -/
inductive Command where
  | quit | toggleDepth | sortAscending | sortDescending | toggleMark | up | down | top | bottom
  | left | right | resize
deriving DecidableEq, Repr, Inhabited

namespace Command

/-- The command of a key that is pressed or held. -/
def ofKey? (k : KeyEvent) : Option Command :=
  if k.action = .release then none
  else
    match k.code with
    | .char 'c' => if k.control then some quit else none
    | .char 'q' | .escape => some quit
    | .char 'b' => some toggleDepth
    | .char 'h' => some sortAscending
    | .char 'H' => some sortDescending
    | .char ' ' => some toggleMark
    | .up | .char 'k' => some up
    | .down | .char 'j' => some down
    | .pageUp | .home => some top
    | .pageDown | .end => some bottom
    | .left => some left
    | .right => some right
    | _ => none

/-- The command of an event. -/
def ofEvent? : Event → Option Command
  | .key k => ofKey? k
  | .resize _ _ => some resize
  | _ => none

end Command

end MarketBoard

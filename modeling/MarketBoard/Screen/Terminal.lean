import MarketBoard.Screen.Grid

/-!
A terminal whose calls may fail, and the drawing of frames on it.

* `Device`: what is on the screen, and which of its calls fail.
* `Terminal`: a device with two frames, the one that was sent last and the one that is being put
  together.
* `Terminal.draw`: follows the size of the device, puts a frame together and sends what differs. Only
  after a success is the work frame blank again: a frame that could not be sent stays there, and the
  next one is put together over it.
* `Terminal.clear`: blanks the screen; the frame that was sent last counts as blank from then on.
-/

namespace MarketBoard

/-- The calls of a terminal that may fail. -/
inductive Call where
  | draw | clear | size
deriving DecidableEq, Repr

/-- The terminal as its calls see it. -/
structure Device where
  /-- What is on the screen. -/
  shown : Grid
  /-- The number of calls so far. -/
  calls : Nat := 0
  /-- The words with which a call fails, by the number of calls before it; none if it succeeds. -/
  fault : Nat → Call → Option String := fun _ _ => none

namespace Device

/-- The shape that a screen of the asked size has: no screen has more than 65535 cells, and a larger
one shrinks to that area in its own proportions. -/
def fitted (width height : Nat) : Nat × Nat :=
  if width * height ≤ 65535 then (width, height)
  else (Nat.sqrt (65535 * width / height), Nat.sqrt (65535 * height / width))

/-- A blank device of the asked size, all of whose calls succeed. -/
def blank (width height : Nat) : Device :=
  let (w, h) := fitted width height
  { shown := .blank w h }

/-- Makes a call: the words of its failure, if it fails. -/
def attempt (d : Device) (c : Call) : Option String × Device :=
  (d.fault d.calls c, { d with calls := d.calls + 1 })

/-- The user gives the screen a new size; what it shows runs on from line to line. -/
def resize (d : Device) (width height : Nat) : Device :=
  let (w, h) := fitted width height
  { d with shown := d.shown.reflow w h }

/-- From now on exactly the given calls fail. -/
def withFaults (d : Device) (fault : Nat → Call → Option String) : Device := { d with fault }

end Device

/-- A device with the frames that are sent to it. -/
structure Terminal where
  device : Device
  /-- The size at which the frames were last brought into step with the device. -/
  known : Nat × Nat
  /-- The frame that is being put together. -/
  work : Grid
  /-- The frame that was sent last. -/
  sent : Grid

namespace Terminal

/-- The terminal of a blank device, with blank frames of its size. -/
def ofDevice (d : Device) : Terminal :=
  { device := d, known := d.shown.size, work := d.shown.cleared, sent := d.shown.cleared }

/-- Asks the device for its size. -/
def size (t : Terminal) : Except String (Nat × Nat) × Terminal :=
  match t.device.attempt .size with
  | (some fault, d) => (.error fault, { t with device := d })
  | (none, d) => (.ok d.shown.size, { t with device := d })

/-- Blanks the screen, and with it the frame that was sent last. -/
def clear (t : Terminal) : Except String Unit × Terminal :=
  match t.device.attempt .clear with
  | (some fault, d) => (.error fault, { t with device := d })
  | (none, d) =>
    (.ok (), { t with device := { d with shown := d.shown.cleared }, sent := t.sent.cleared })

/-- Both frames in a new shape, their cells running on from line to line. -/
def reshape (t : Terminal) (width height : Nat) : Terminal :=
  { t with work := t.work.reflow width height, sent := t.sent.reflow width height }

/-- Follows the size of the device: at a new size both frames take it and the screen is cleared. The
new size counts as known once the screen could be cleared. -/
def follow (t : Terminal) : Except String Unit × Terminal :=
  match t.size with
  | (.error fault, t) => (.error fault, t)
  | (.ok (width, height), t) =>
    if (width, height) = t.known then (.ok (), t)
    else
      match (t.reshape width height).clear with
      | (.error fault, t) => (.error fault, t)
      | (.ok _, t) => (.ok (), { t with known := (width, height) })

/-- A draw comes as far as putting a frame together: the size of the device could be followed. -/
def composes (t : Terminal) : Bool := t.follow.1.isOk

/-- Sends the work frame: the cells in which it differs from the frame that was sent before. -/
def send (t : Terminal) : Except String Unit × Terminal :=
  match t.device.attempt .draw with
  | (some fault, d) => (.error fault, { t with device := d })
  | (none, d) =>
    (.ok (), { t with
      device := { d with shown := d.shown.refresh t.work t.sent }
      work := t.sent.cleared
      sent := t.work })

/-- Puts a frame together and sends it. -/
def draw (t : Terminal) (compose : Grid → Grid) : Except String Unit × Terminal :=
  match t.follow with
  | (.error fault, t) => (.error fault, t)
  | (.ok _, t) => send { t with work := compose t.work }

end Terminal

end MarketBoard

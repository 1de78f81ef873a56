/-!
# The joypad and its connector

A joypad holds eight buttons. Its connector hands them out one per read: while the strobe is on,
every read shows the live state of A; when the strobe goes off, the buttons are caught and the reads
that follow show them in order, A first, and nothing after the eighth.
-/

namespace Famicom

/-- The buttons, in the order in which they are handed out. -/
inductive Button where
  | a
  | b
  | select
  | start
  | up
  | down
  | left
  | right
  deriving DecidableEq, Repr

namespace Button

def all : List Button := [.a, .b, .select, .start, .up, .down, .left, .right]

/-- The bit of the button in the packed state; A comes first. -/
def mask : Button → UInt8
  | .a => 0x80
  | .b => 0x40
  | .select => 0x20
  | .start => 0x10
  | .up => 0x08
  | .down => 0x04
  | .left => 0x02
  | .right => 0x01

def name : Button → String
  | .a => "A"
  | .b => "B"
  | .select => "Select"
  | .start => "Start"
  | .up => "Up"
  | .down => "Down"
  | .left => "Left"
  | .right => "Right"

end Button

/-- The buttons that are held down, packed. -/
structure Joypad where
  held : UInt8
  deriving DecidableEq, Repr

namespace Joypad

/-- A joypad that nobody touches. -/
def released : Joypad := ⟨0⟩

instance : Inhabited Joypad := ⟨released⟩

def press (j : Joypad) (button : Button) : Joypad := ⟨j.held ||| button.mask⟩

def release (j : Joypad) (button : Button) : Joypad := ⟨j.held &&& ~~~button.mask⟩

def set (j : Joypad) (button : Button) (down : Bool) : Joypad :=
  if down then j.press button else j.release button

def isPressed (j : Joypad) (button : Button) : Bool := j.held &&& button.mask != 0

end Joypad

/-- What a joypad is plugged into. The buttons that were caught and not yet handed out begin in the
top bit. -/
structure Connector where
  joypad : Joypad
  caught : UInt8
  strobe : Bool
  deriving DecidableEq, Repr

namespace Connector

def ofJoypad (joypad : Joypad) : Connector := { joypad, caught := 0, strobe := false }

instance : Inhabited Connector := ⟨ofJoypad .released⟩

/-- The bit that a read always shows besides the button. -/
def openBus : UInt8 := 0x40

/-- Bit zero is the strobe. -/
def write (p : Connector) (v : UInt8) : Connector :=
  if v &&& 1 != 0 then { p with strobe := true }
  else { p with strobe := false, caught := p.joypad.held }

def read (p : Connector) : UInt8 × Connector :=
  if p.strobe then ((p.joypad.held >>> 7) ||| openBus, p)
  else ((p.caught >>> 7) ||| openBus, { p with caught := p.caught <<< 1 })

end Connector

end Famicom

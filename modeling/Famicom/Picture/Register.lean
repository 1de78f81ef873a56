/-!
# Registers of the picture unit

The processor sees eight registers. Two of them hold settings, which are read here bit by bit.
-/

namespace Famicom.Picture

inductive Register where
  | control
  | mask
  | status
  | spriteAddress
  | spriteData
  | scroll
  | address
  | data
  deriving DecidableEq, Repr

/-- The register at an address; only its three low bits count. -/
def Register.ofAddress (address : UInt16) : Register :=
  match address &&& 7 with
  | 0 => .control
  | 1 => .mask
  | 2 => .status
  | 3 => .spriteAddress
  | 4 => .spriteData
  | 5 => .scroll
  | 6 => .address
  | _ => .data

/-- Settings of the control register. -/
structure Control where
  bits : UInt8
  deriving DecidableEq, Repr

namespace Control

/-- Whether vertical blank interrupts the processor. -/
def interrupts (c : Control) : Bool := c.bits &&& 0x80 != 0

/-- Whether sprites are sixteen pixels high instead of eight. -/
def tallSprites (c : Control) : Bool := c.bits &&& 0x20 != 0

def spriteHeight (c : Control) : Nat := if c.tallSprites then 16 else 8

/-- The number of the selected nametable. -/
def nametable (c : Control) : Nat := (c.bits &&& 3).toNat

/-- The address of the selected nametable. -/
def nametableBase (c : Control) : Nat := 0x2000 + c.nametable * 0x400

/-- How far the data register moves the video address: one cell across or one row down. -/
def increment (c : Control) : Nat := if c.bits &&& 0x04 != 0 then 32 else 1

/-- The pattern table of the background. -/
def backgroundPatterns (c : Control) : Nat := if c.bits &&& 0x10 != 0 then 0x1000 else 0

/-- The pattern table of sprites that are eight pixels high. -/
def spritePatterns (c : Control) : Nat := if c.bits &&& 0x08 != 0 then 0x1000 else 0

end Control

/-- Settings of the mask register. -/
structure Mask where
  bits : UInt8
  deriving DecidableEq, Repr

namespace Mask

def showsBackground (m : Mask) : Bool := m.bits &&& 0x08 != 0

def showsSprites (m : Mask) : Bool := m.bits &&& 0x10 != 0

end Mask

end Famicom.Picture

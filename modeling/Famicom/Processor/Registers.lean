import Famicom.Text.Numeral

/-!
# The processor registers

The accumulator, two index registers, the stack pointer (an offset into page one), the program
counter and the status: eight flags packed into one byte. The unused bit is stored, and every
reading of the packed byte forces it on. The break bit is stored too, and only `load` and a direct
store change it: it exists for the byte that goes onto the stack.

* `Arithmetic` has the effect of each operation on a byte and the status, apart from where the byte
  comes from and where it goes. Addition is always binary; the decimal flag has no influence.
-/

namespace Famicom.Processor

/-! ## The status -/

/-- One flag of the status byte. -/
inductive Flag where
  | carry
  | zero
  | interruptDisable
  | decimal
  | break
  | unused
  | overflow
  | negative
  deriving DecidableEq, Repr

/-- The bit of the flag in the packed byte. -/
def Flag.mask : Flag → UInt8
  | .carry => 0x01
  | .zero => 0x02
  | .interruptDisable => 0x04
  | .decimal => 0x08
  | .break => 0x10
  | .unused => 0x20
  | .overflow => 0x40
  | .negative => 0x80

/-- The status byte as stored. -/
structure Status where
  bits : UInt8
  deriving DecidableEq, Repr

namespace Status

/-- Status after power-on: interrupts disabled. -/
def initial : Status := ⟨0x24⟩

instance : Inhabited Status := ⟨initial⟩

def get (s : Status) (f : Flag) : Bool := s.bits &&& f.mask != 0

def set (s : Status) (f : Flag) (on : Bool) : Status :=
  ⟨if on then s.bits ||| f.mask else s.bits &&& ~~~f.mask⟩

/-- The packed byte; its unused bit always reads as one. -/
def toByte (s : Status) : UInt8 := s.bits ||| Flag.unused.mask

/-- Takes every flag from `b` except the unused bit, which keeps its stored value. -/
def load (s : Status) (b : UInt8) : Status :=
  ⟨(b &&& ~~~Flag.unused.mask) ||| (s.bits &&& Flag.unused.mask)⟩

/-- Zero and negative as a result `v` sets them. -/
def withResult (s : Status) (v : UInt8) : Status :=
  (s.set .zero (v == 0)).set .negative (v &&& 0x80 != 0)

/-- The flag that a conditional branch tests, chosen by the top two bits of its opcode. -/
def branchFlag (selector : UInt8) : Flag :=
  match selector &&& 3 with
  | 0 => .negative
  | 1 => .overflow
  | 2 => .carry
  | _ => .zero

/-- Whether the branch that tests for `expected` is taken. -/
def branchTaken (s : Status) (selector : UInt8) (expected : Bool) : Bool :=
  s.get (branchFlag selector) == expected

/-- The byte that goes onto the stack: an instruction pushes break as one, a hardware interrupt as
zero. -/
def pushed (s : Status) (fromInstruction : Bool) : UInt8 :=
  if fromInstruction then s.toByte ||| Flag.break.mask else s.toByte &&& ~~~Flag.break.mask

/-- Takes the flags of a pulled byte, keeping the stored break and unused bits. -/
def restore (s : Status) (b : UInt8) : Status :=
  ⟨((s.load b).bits &&& ~~~Flag.break.mask) ||| (s.bits &&& Flag.break.mask)⟩

/-- One binary digit. -/
def bit (on : Bool) : String := if on then "1" else "0"

/-- The flags by letter, most significant first; the unused bit is shown as one. -/
def describe (s : Status) : String :=
  "N:" ++ bit (s.get .negative) ++ " V:" ++ bit (s.get .overflow) ++ " U:1 B:" ++
    bit (s.get .break) ++ " D:" ++ bit (s.get .decimal) ++ " I:" ++
    bit (s.get .interruptDisable) ++ " Z:" ++ bit (s.get .zero) ++ " C:" ++ bit (s.get .carry)

end Status

/-! ## The registers -/

open Text

structure Registers where
  a : UInt8
  x : UInt8
  y : UInt8
  sp : UInt8
  pc : UInt16
  status : Status
  deriving DecidableEq, Repr

namespace Registers

/-- Registers after power-on. -/
def initial : Registers :=
  { a := 0, x := 0, y := 0, sp := 0xFD, pc := 0, status := .initial }

instance : Inhabited Registers := ⟨initial⟩

/-- All registers on one line; the status is shown as its packed byte. -/
def describe (r : Registers) : String :=
  "PC:" ++ Hexadecimal.word r.pc ++ " A:" ++ Hexadecimal.byte r.a ++
    " X:" ++ Hexadecimal.byte r.x ++ " Y:" ++ Hexadecimal.byte r.y ++
    " P:" ++ Hexadecimal.byte r.status.toByte ++ " SP:" ++ Hexadecimal.byte r.sp

end Registers

end Famicom.Processor

namespace Famicom.Processor.Arithmetic

/-! ## Arithmetic on bytes and flags -/

/-- The carry as a number. -/
def carryIn (s : Status) : UInt8 := if s.get .carry then 1 else 0

/-- The bit shifted in from the top. -/
def carryTop (s : Status) : UInt8 := if s.get .carry then 0x80 else 0

/-- `a + b + carry`, with the carry out and the signed overflow. -/
def add (s : Status) (a b : UInt8) : UInt8 × Status :=
  let total := a.toNat + b.toNat + (carryIn s).toNat
  let result := a + b + carryIn s
  let overflow := (a ^^^ b) &&& 0x80 == 0 && (a ^^^ result) &&& 0x80 != 0
  (result, ((s.set .carry (0xFF < total)).set .overflow overflow).withResult result)

/-- `a - b - (1 - carry)`: addition of the complement. -/
def subtract (s : Status) (a b : UInt8) : UInt8 × Status := add s a (~~~b)

/-- Carry, zero and negative as a comparison of `a` with `b` sets them. -/
def compare (s : Status) (a b : UInt8) : Status :=
  (s.set .carry (b ≤ a)).withResult (a - b)

/-- Zero from `a` and `b`, negative and overflow from the top bits of `b`. -/
def testBits (s : Status) (a b : UInt8) : Status :=
  ((s.set .zero (a &&& b == 0)).set .negative (b &&& 0x80 != 0)).set .overflow (b &&& 0x40 != 0)

def increment (s : Status) (v : UInt8) : UInt8 × Status := (v + 1, s.withResult (v + 1))

def decrement (s : Status) (v : UInt8) : UInt8 × Status := (v - 1, s.withResult (v - 1))

def shiftLeft (s : Status) (v : UInt8) : UInt8 × Status :=
  (v <<< 1, (s.set .carry (v &&& 0x80 != 0)).withResult (v <<< 1))

def shiftRight (s : Status) (v : UInt8) : UInt8 × Status :=
  (v >>> 1, (s.set .carry (v &&& 1 != 0)).withResult (v >>> 1))

def rotateLeft (s : Status) (v : UInt8) : UInt8 × Status :=
  let result := (v <<< 1) ||| carryIn s
  (result, (s.set .carry (v &&& 0x80 != 0)).withResult result)

def rotateRight (s : Status) (v : UInt8) : UInt8 × Status :=
  let result := (v >>> 1) ||| carryTop s
  (result, (s.set .carry (v &&& 1 != 0)).withResult result)

end Famicom.Processor.Arithmetic

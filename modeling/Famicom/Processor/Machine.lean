import Famicom.Processor.AddressSpace
import Famicom.Processor.Registers

/-!
# A processor and its address space

The elementary moves of the processor: reading the instruction stream, reading words, and the stack
in page one.
-/

namespace Famicom.Processor

/-- The processor itself: its registers, the cycles spent since the last reset, and the opcode that
was fetched last, with the registers as they were then. -/
structure Core where
  registers : Registers
  totalCycles : Nat
  halted : Bool
  opcode : UInt8
  fetched : Registers
  deriving DecidableEq, Repr

/-- A processor that was never reset. -/
def Core.initial : Core :=
  { registers := .initial, totalCycles := 0, halted := false, opcode := 0, fetched := .initial }

instance : Inhabited Core := ⟨.initial⟩

/-- The word with the given bytes. -/
def word (low high : UInt8) : UInt16 := high.toUInt16 <<< 8 ||| low.toUInt16

def lowByte (w : UInt16) : UInt8 := w.toUInt8

def highByte (w : UInt16) : UInt8 := (w >>> 8).toUInt8

/-- The address in page one that a stack pointer stands for. -/
def stackAddress (sp : UInt8) : UInt16 := 0x0100 ||| sp.toUInt16

/-- A processor wired to an address space. -/
structure Machine (M : Type) where
  core : Core
  memory : M

namespace Machine

variable {M : Type} [AddressSpace M]

def registers (s : Machine M) : Registers := s.core.registers

/-- The machine with its registers changed. -/
def update (s : Machine M) (f : Registers → Registers) : Machine M :=
  { s with core := { s.core with registers := f s.core.registers } }

def setPC (s : Machine M) (pc : UInt16) : Machine M := s.update fun r => { r with pc := pc }

def read (s : Machine M) (address : UInt16) : UInt8 × Machine M :=
  let r := AddressSpace.read s.memory address
  (r.1, { s with memory := r.2 })

def write (s : Machine M) (address : UInt16) (v : UInt8) : Machine M :=
  { s with memory := AddressSpace.write s.memory address v }

def note (s : Machine M) (e : Event) : Machine M :=
  { s with memory := AddressSpace.note s.memory e }

/-- The next byte of the instruction stream. -/
def fetch (s : Machine M) : UInt8 × Machine M :=
  let r := s.read s.registers.pc
  (r.1, r.2.update fun g => { g with pc := g.pc + 1 })

/-- The next word of the instruction stream, low byte first. -/
def fetchWord (s : Machine M) : UInt16 × Machine M :=
  let low := s.fetch
  let high := low.2.fetch
  (word low.1 high.1, high.2)

/-- The word at `low` with its high byte at `high`. -/
def readPair (s : Machine M) (low high : UInt16) : UInt16 × Machine M :=
  let l := s.read low
  let h := l.2.read high
  (word l.1 h.1, h.2)

/-- The word at `address`. -/
def readWord (s : Machine M) (address : UInt16) : UInt16 × Machine M :=
  s.readPair address (address + 1)

/-- The word at `pointer` in page zero, which the high byte does not leave. -/
def readZeroPageWord (s : Machine M) (pointer : UInt8) : UInt16 × Machine M :=
  s.readPair pointer.toUInt16 (pointer + 1).toUInt16

/-- Stores a byte under the stack pointer, which then moves down within its page. -/
def push (s : Machine M) (v : UInt8) : Machine M :=
  (s.write (stackAddress s.registers.sp) v).update fun r => { r with sp := r.sp - 1 }

/-- Moves the stack pointer up and reads the byte there. -/
def pull (s : Machine M) : UInt8 × Machine M :=
  let up := s.update fun r => { r with sp := r.sp + 1 }
  up.read (stackAddress up.registers.sp)

/-- Pushes a word, high byte first. -/
def pushWord (s : Machine M) (w : UInt16) : Machine M :=
  (s.push (highByte w)).push (lowByte w)

/-- Pulls a word, low byte first. -/
def pullWord (s : Machine M) : UInt16 × Machine M :=
  let low := s.pull
  let high := low.2.pull
  (word low.1 high.1, high.2)

end Machine

end Famicom.Processor

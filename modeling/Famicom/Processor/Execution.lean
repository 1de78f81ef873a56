import Famicom.Processor.Action
import Famicom.Processor.Machine

/-!
# Execution

`step` fetches, decodes and executes one instruction and says how many cycles it took. A failing
step keeps what it did to the machine before it failed. Interrupts and BRK share one entry sequence.
-/

namespace Famicom.Processor

/-- Address of the handler of non-maskable interrupts. -/
def nmiVector : UInt16 := 0xFFFA

/-- Address of the first instruction after a reset. -/
def resetVector : UInt16 := 0xFFFC

/-- Address of the handler of interrupt requests and of BRK. -/
def irqVector : UInt16 := 0xFFFE

/-- Cycles spent on entering an interrupt. -/
def interruptCycles : Nat := 7

/-- What an addressing mode yields: a byte of the instruction stream, the accumulator, or a place in
memory that was not read yet. -/
inductive Operand where
  | immediate (value : UInt8)
  | accumulator (value : UInt8)
  | address (address : UInt16)
  deriving DecidableEq, Repr

namespace Machine

variable {M : Type} [AddressSpace M]

/-- Finds the operand, consuming its bytes of the instruction stream. Indexing in page zero stays
there. -/
def resolve (s : Machine M) (mode : Mode) : Except Fault Operand × Machine M :=
  match mode with
  | .immediate =>
    let b := s.fetch
    (.ok (.immediate b.1), b.2)
  | .accumulator => (.ok (.accumulator s.registers.a), s)
  | .zeroPage =>
    let b := s.fetch
    (.ok (.address b.1.toUInt16), b.2)
  | .zeroPageX =>
    let b := s.fetch
    (.ok (.address (b.1 + b.2.registers.x).toUInt16), b.2)
  | .zeroPageY =>
    let b := s.fetch
    (.ok (.address (b.1 + b.2.registers.y).toUInt16), b.2)
  | .absolute =>
    let w := s.fetchWord
    (.ok (.address w.1), w.2)
  | .absoluteX =>
    let w := s.fetchWord
    (.ok (.address (w.1 + w.2.registers.x.toUInt16)), w.2)
  | .absoluteY =>
    let w := s.fetchWord
    (.ok (.address (w.1 + w.2.registers.y.toUInt16)), w.2)
  | .indirectX =>
    let b := s.fetch
    let w := b.2.readZeroPageWord (b.1 + b.2.registers.x)
    (.ok (.address w.1), w.2)
  | .indirectY =>
    let b := s.fetch
    let w := b.2.readZeroPageWord b.1
    (.ok (.address (w.1 + w.2.registers.y.toUInt16)), w.2)
  | .implied | .indirect | .relative =>
    (.error (.unsupportedMode s.core.opcode mode s.core.fetched), s)

/-- The operand's value. -/
def load (s : Machine M) (mode : Mode) : Except Fault UInt8 × Machine M :=
  let o := s.resolve mode
  match o.1 with
  | .ok (.immediate v) => (.ok v, o.2)
  | .ok (.accumulator v) => (.ok v, o.2)
  | .ok (.address a) =>
    let b := o.2.read a
    (.ok b.1, b.2)
  | .error e => (.error e, o.2)

/-- The fault of an instruction that needs an address and has none. -/
def missingAddress (s : Machine M) (mode : Mode) : Fault :=
  .missingAddress s.core.opcode mode s.core.fetched

/-- Writes `v` to the operand, which has to be in memory. -/
def store (s : Machine M) (mode : Mode) (v : UInt8) : Except Fault Unit × Machine M :=
  let o := s.resolve mode
  match o.1 with
  | .ok (.address a) => (.ok (), o.2.write a v)
  | .ok _ => (.error (o.2.missingAddress mode), o.2)
  | .error e => (.error e, o.2)

/-- Replaces the operand, in the accumulator or in memory. -/
def modify (s : Machine M) (mode : Mode) (effect : Status → UInt8 → UInt8 × Status) :
    Except Fault Unit × Machine M :=
  let o := s.resolve mode
  match o.1 with
  | .ok (.accumulator v) =>
    (.ok (), o.2.update fun r => r.accumulate (effect r.status v))
  | .ok (.address a) =>
    let b := o.2.read a
    let result := effect b.2.registers.status b.1
    (.ok (), (b.2.update fun r => { r with status := result.2 }).write a result.1)
  | .ok (.immediate _) => (.error (o.2.missingAddress mode), o.2)
  | .error e => (.error e, o.2)

/-- The distance of a branch, from its operand read as a signed byte. -/
def displacement (b : UInt8) : UInt16 :=
  if b &&& 0x80 == 0 then b.toUInt16 else 0xFF00 ||| b.toUInt16

/-- Consumes the displacement and adds it to the program counter if the condition in the opcode
holds: its top two bits choose the flag and the next one the value. -/
def branch (s : Machine M) : Machine M :=
  let b := s.fetch
  let opcode := b.2.core.opcode
  if b.2.registers.status.branchTaken (opcode >>> 6) ((opcode >>> 5) &&& 1 == 1) then
    b.2.update fun r => { r with pc := r.pc + displacement b.1 }
  else b.2

/-- Sets the program counter. An indirect jump reads both bytes of its target from one page. -/
def jump (s : Machine M) (mode : Mode) : Machine M :=
  let target := s.fetchWord
  if mode = .indirect then
    let pointer := target.1
    let w := target.2.readPair pointer ((pointer &&& 0xFF00) ||| ((pointer + 1) &&& 0x00FF))
    w.2.setPC w.1
  else target.2.setPC target.1

/-- Calls a subroutine: the address of the last operand byte is pushed before that byte is read. -/
def call (s : Machine M) : Machine M :=
  let low := s.fetch
  let pushed := low.2.pushWord low.2.registers.pc
  let high := pushed.read pushed.registers.pc
  high.2.setPC (word low.1 high.1)

/-- Saves program counter and status, disables interrupts and continues at the vector. -/
def enterInterrupt (s : Machine M) (vector : UInt16) (fromInstruction : Bool) : Machine M :=
  let saved := s.pushWord s.registers.pc
  let pushed := saved.push (saved.registers.status.pushed fromInstruction)
  let target := (pushed.update fun r => r.setFlag .interruptDisable true).readWord vector
  target.2.setPC target.1

/-- Carries out a decoded instruction. -/
def execute (s : Machine M) (i : Instruction) : Except Fault Unit × Machine M :=
  match i.mnemonic.action with
  | .operate effect =>
    let b := s.load i.mode
    match b.1 with
    | .ok v => (.ok (), b.2.update (effect v))
    | .error e => (.error e, b.2)
  | .store value => s.store i.mode (value s.registers)
  | .modify effect => s.modify i.mode effect
  | .adjust effect => (.ok (), s.update effect)
  | .push value => (.ok (), s.push (value s.registers))
  | .pull effect =>
    let b := s.pull
    (.ok (), b.2.update (effect b.1))
  | .branch => (.ok (), s.branch)
  | .jump => (.ok (), s.jump i.mode)
  | .call => (.ok (), s.call)
  | .subroutineReturn =>
    let w := s.pullWord
    (.ok (), w.2.setPC (w.1 + 1))
  | .interruptReturn =>
    let b := s.pull
    let w := (b.2.update fun r => { r with status := r.status.restore b.1 }).pullWord
    (.ok (), w.2.setPC w.1)
  | .softwareInterrupt =>
    (.ok (), (s.update fun r => { r with pc := r.pc + 1 }).enterInterrupt irqVector true)

/-- Adds to the cycles spent. -/
def spend (s : Machine M) (cycles : Nat) : Machine M :=
  { s with core := { s.core with totalCycles := s.core.totalCycles + cycles } }

/-- Executes one instruction and returns its cycles. A halted processor does nothing. -/
def step (s : Machine M) : Except Fault Nat × Machine M :=
  if s.core.halted then (.ok 0, s)
  else
    let before := s.core.registers
    let b := ({ s with core := { s.core with fetched := before } } : Machine M).fetch
    let t : Machine M := { b.2 with core := { b.2.core with opcode := b.1 } }
    match decode b.1 with
    | none => (.error (.unknownOpcode b.1 before), t)
    | some i =>
      let done := t.execute i
      match done.1 with
      | .ok _ => (.ok i.cycles, done.2.spend i.cycles)
      | .error e => (.error e, done.2)

/-- Takes a non-maskable interrupt and returns its cycles. -/
def nmi (s : Machine M) : Nat × Machine M :=
  let noted := s.note (.nonMaskableInterrupt s.registers.pc)
  (interruptCycles, (noted.enterInterrupt nmiVector false).spend interruptCycles)

/-- Takes an interrupt request, unless interrupts are disabled, and returns its cycles. -/
def irq (s : Machine M) : Nat × Machine M :=
  if s.registers.status.get .interruptDisable then (0, s)
  else
    let noted := s.note (.interruptRequest s.registers.pc)
    (interruptCycles, (noted.enterInterrupt irqVector false).spend interruptCycles)

/-- Starts over at the address in the reset vector, with fresh registers and no cycles spent. -/
def reset (s : Machine M) : Machine M :=
  let target := (s.update fun _ => .initial).readWord resetVector
  let started := target.2.setPC target.1
  let ready : Machine M :=
    { started with core := { started.core with totalCycles := 0, halted := false } }
  ready.note (.processorReset target.1)

/-- Suspends a running processor or resumes a suspended one where it stopped. -/
def toggleHalt (s : Machine M) : Machine M :=
  let halted := !s.core.halted
  let noted := s.note
    (if halted then .processorHalted s.registers.pc else .processorResumed s.registers.pc)
  { noted with core := { noted.core with halted := halted } }

end Machine

end Famicom.Processor

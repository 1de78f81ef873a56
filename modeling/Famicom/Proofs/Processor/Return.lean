import Famicom.Proofs.Processor.Flags
import Famicom.Proofs.Processor.Moves
import Famicom.Proofs.Processor.StackPage

/-!
# Calls and interrupts are undone by their returns

A call or an interrupt leaves on the stack what its return needs. Whatever the program does meanwhile,
the return leads back if the stack pointer and those bytes are as they were left.

* `Machine.stack_enterInterrupt`, `stack_of_call`: what is left on the stack.
* `Machine.step_of_subroutineReturn`, `step_of_interruptReturn`: what a return makes of the stack.
* `Machine.comes_back`: so a return undoes its detour.
-/

namespace Famicom.Processor

/-- What a program comes back from. -/
inductive Detour where
  | call
  | softwareInterrupt
  | nonMaskable
  | request
  deriving DecidableEq, Repr

namespace Detour

/-- How many bytes the detour pushes. -/
def pushes : Detour → UInt8
  | .call => 2
  | _ => 3

/-- The opcode of the return. -/
def returnOpcode : Detour → UInt8
  | .call => 0x60
  | _ => 0x40

/-- Where the program goes on when the detour began at `pc`. -/
def resume (d : Detour) (pc : UInt16) : UInt16 :=
  match d with
  | .call => pc + 3
  | .softwareInterrupt => pc + 2
  | .nonMaskable | .request => pc

variable {M : Type} [AddressSpace M]

/-- Whether the detour can begin: an instruction has to be next on a running processor, and a request
must not be masked. -/
def Possible (s : Machine M) : Detour → Prop
  | .call => s.core.halted = false ∧ s.nextOpcode = 0x20
  | .softwareInterrupt => s.core.halted = false ∧ s.nextOpcode = 0x00
  | .nonMaskable => True
  | .request => s.registers.status.get .interruptDisable = false

/-- The beginning of the detour. -/
def enter (s : Machine M) : Detour → Machine M
  | .call | .softwareInterrupt => s.step.2
  | .nonMaskable => s.nmi.2
  | .request => s.irq.2

end Detour

namespace Machine

variable {M : Type} [AddressSpace M] {s : Machine M}

theorem step_of_call (running : s.core.halted = false) (opcode : s.nextOpcode = 0x20) :
    s.step = (.ok 6, s.opened.call.spend 6) := by
  rw [step_of_running running, opcode]
  rfl

theorem step_of_softwareInterrupt (running : s.core.halted = false) (opcode : s.nextOpcode = 0x00) :
    let skipped := s.opened.update fun r => { r with pc := r.pc + 1 }
    s.step = (.ok 7, (skipped.enterInterrupt irqVector true).spend 7) := by
  intro skipped
  rw [step_of_running running, opcode]
  rfl

/-! ## The way there -/

variable [StackPage M]

/-- An interrupt leaves the program counter and the status on the stack. -/
theorem stack_enterInterrupt (s : Machine M) (vector : UInt16) (fromInstruction : Bool) :
    let left := s.enterInterrupt vector fromInstruction
    left.registers.sp = s.registers.sp - 3 ∧
      left.stack s.registers.sp = highByte s.registers.pc ∧
      left.stack (s.registers.sp - 1) = lowByte s.registers.pc ∧
      left.stack (s.registers.sp - 2) = s.registers.status.pushed fromInstruction := by
  intro left
  let saved := s.pushWord s.registers.pc
  let pushed := saved.push (s.registers.status.pushed fromInstruction)
  let ready := pushed.update fun r => r.setFlag .interruptDisable true
  have pointer : saved.registers.sp = s.registers.sp - 2 := by
    rw [registers_pushWord]
  have stack (sp : UInt8) : left.stack sp =
      if s.registers.sp - 2 = sp then s.registers.status.pushed fromInstruction
      else if s.registers.sp - 1 = sp then lowByte s.registers.pc
      else if s.registers.sp = sp then highByte s.registers.pc else s.stack sp := by
    change (ready.readPair vector (vector + 1)).2.stack sp = _
    rw [stack_readPair]
    change pushed.stack sp = _
    rw [stack_push, pointer, stack_pushWord]
  refine ⟨?_, ?_, ?_, ?_⟩
  · change saved.registers.sp - 1 = _
    grind
  · rw [stack, if_neg (by grind), if_neg (by grind), if_pos rfl]
  · rw [stack, if_neg (by grind), if_pos rfl]
  · rw [stack, if_pos rfl]

/-- A call leaves the address of its last byte on the stack. -/
theorem stack_of_call (running : s.core.halted = false) (opcode : s.nextOpcode = 0x20) :
    s.step.2.registers.sp = s.registers.sp - 2 ∧
      s.step.2.stack s.registers.sp = highByte (s.registers.pc + 2) ∧
      s.step.2.stack (s.registers.sp - 1) = lowByte (s.registers.pc + 2) := by
  let low := s.opened.fetch.2
  have stack (sp : UInt8) : s.step.2.stack sp =
      if s.registers.sp - 1 = sp then lowByte (s.registers.pc + 2)
      else if s.registers.sp = sp then highByte (s.registers.pc + 2) else s.stack sp := by
    rw [step_of_call running opcode]
    change ((low.pushWord (s.registers.pc + 1 + 1)).read _).2.stack sp = _
    rw [stack_read, word_succ_succ, stack_pushWord, stack_fetch, stack_opened]
    rfl
  refine ⟨?_, ?_, ?_⟩
  · rw [step_of_call running opcode]
    exact byte_pred_pred s.registers.sp
  · rw [stack, if_neg (by grind), if_pos rfl]
  · rw [stack, if_pos rfl]

/-! ## The way back -/

theorem step_of_subroutineReturn (running : s.core.halted = false) (opcode : s.nextOpcode = 0x60) :
    s.step.1 = .ok 6 ∧ s.step.2.registers =
      { s.registers with
        sp := s.registers.sp + 2,
        pc := word (s.stack (s.registers.sp + 1)) (s.stack (s.registers.sp + 2)) + 1 } := by
  have step : s.step = (.ok 6, (s.opened.pullWord.2.setPC (s.opened.pullWord.1 + 1)).spend 6) := by
    rw [step_of_running running, opcode]
    rfl
  rw [step]
  refine ⟨rfl, ?_⟩
  rw [registers_spend, registers_setPC, registers_pullWord, value_pullWord]
  simp

theorem step_of_interruptReturn (running : s.core.halted = false) (opcode : s.nextOpcode = 0x40) :
    s.step.1 = .ok 6 ∧ s.step.2.registers =
      { s.registers with
        sp := s.registers.sp + 3,
        pc := word (s.stack (s.registers.sp + 2)) (s.stack (s.registers.sp + 3)),
        status := s.registers.status.restore (s.stack (s.registers.sp + 1)) } := by
  let pulled := s.opened.pull.2.update fun r =>
    { r with status := r.status.restore s.opened.pull.1 }
  have step : s.step = (.ok 6, (pulled.pullWord.2.setPC pulled.pullWord.1).spend 6) := by
    rw [step_of_running running, opcode]
    rfl
  have stack (sp : UInt8) : pulled.stack sp = s.stack sp := by
    change s.opened.pull.2.stack sp = _
    rw [stack_pull, stack_opened]
  have value : s.opened.pull.1 = s.stack (s.registers.sp + 1) := s.stack_opened _
  rw [step]
  refine ⟨rfl, ?_⟩
  rw [registers_spend, registers_setPC, registers_pullWord, value_pullWord, stack, stack]
  change ({ s.registers with
    sp := s.registers.sp + 1 + 2,
    pc := word (s.stack (s.registers.sp + 1 + 1)) (s.stack (s.registers.sp + 1 + 2)),
    status := s.registers.status.restore s.opened.pull.1 } : Registers) = _
  rw [value, byte_succ_succ, byte_succ_add_two]

/-- A return from a subroutine finds the address behind the call. -/
theorem back_of_call {sp : UInt8} {w : UInt16} (running : s.core.halted = false)
    (opcode : s.nextOpcode = 0x60) (pointer : s.registers.sp = sp - 2)
    (high : s.stack sp = highByte w) (low : s.stack (sp - 1) = lowByte w) :
    s.step.1 = .ok 6 ∧ s.step.2.registers.sp = sp ∧ s.step.2.registers.pc = w + 1 := by
  obtain ⟨succeeds, registers⟩ := step_of_subroutineReturn running opcode
  have first : sp - 2 + 1 = sp - 1 := by grind
  have second : sp - 2 + 2 = sp := by grind
  rw [succeeds, registers, pointer, first, second, high, low, word_lowByte_highByte]
  exact ⟨rfl, rfl, rfl⟩

/-- A return from an interrupt finds the program counter and the flags. -/
theorem back_of_interrupt {sp : UInt8} {w : UInt16} {status : Status} {fromInstruction : Bool}
    (running : s.core.halted = false) (opcode : s.nextOpcode = 0x40)
    (pointer : s.registers.sp = sp - 3) (high : s.stack sp = highByte w)
    (low : s.stack (sp - 1) = lowByte w)
    (flags : s.stack (sp - 2) = status.pushed fromInstruction) :
    s.step.1 = .ok 6 ∧ s.step.2.registers.sp = sp ∧ s.step.2.registers.pc = w ∧
      ∀ f, s.step.2.registers.status.get f =
        if f = .break ∨ f = .unused then s.registers.status.get f else status.get f := by
  obtain ⟨succeeds, registers⟩ := step_of_interruptReturn running opcode
  have first : sp - 3 + 1 = sp - 2 := by grind
  have second : sp - 3 + 2 = sp - 1 := by grind
  have third : sp - 3 + 3 = sp := by grind
  rw [succeeds, registers, pointer, first, second, third, high, low, flags, word_lowByte_highByte]
  refine ⟨rfl, rfl, rfl, fun f => ?_⟩
  change (s.registers.status.restore (status.pushed fromInstruction)).get f = _
  rw [Status.get_restore, Status.get_pushed]
  cases f <;> rfl

/-! ## There and back -/

/-- Every interrupt leaves what it resumes at and the status on the stack. -/
theorem stack_of_interrupt {d : Detour} (interrupt : d ≠ .call) (possible : d.Possible s) :
    (d.enter s).registers.sp = s.registers.sp - 3 ∧
      (d.enter s).stack s.registers.sp = highByte (d.resume s.registers.pc) ∧
      (d.enter s).stack (s.registers.sp - 1) = lowByte (d.resume s.registers.pc) ∧
      (d.enter s).stack (s.registers.sp - 2) =
        s.registers.status.pushed (d = .softwareInterrupt) := by
  cases d with
  | call => exact absurd rfl interrupt
  | softwareInterrupt =>
    obtain ⟨running, opcode⟩ := possible
    unfold Detour.enter Detour.resume
    dsimp only
    rw [step_of_softwareInterrupt running opcode, ← word_succ_succ]
    exact stack_enterInterrupt (s.opened.update fun r => { r with pc := r.pc + 1 }) irqVector true
  | nonMaskable => exact stack_enterInterrupt (s.note _) nmiVector false
  | request =>
    have unmasked : ¬ s.registers.status.get .interruptDisable = true := by
      rw [show s.registers.status.get .interruptDisable = false from possible]
      decide
    unfold Detour.enter irq
    dsimp only
    rw [if_neg unmasked]
    exact stack_enterInterrupt (s.note _) irqVector false

/-- **A return undoes its call or interrupt**, in whatever state it comes about: the stack pointer and
the pushed bytes have to be as they were left. A return from an interrupt restores the flags too, and
leaves the live break and unused bits alone. -/
theorem comes_back {d : Detour} {later : Machine M} (possible : d.Possible s)
    (running : later.core.halted = false)
    (pointer : later.registers.sp = (d.enter s).registers.sp)
    (kept : ∀ k < d.pushes,
      later.stack (s.registers.sp - k) = (d.enter s).stack (s.registers.sp - k))
    (opcode : later.nextOpcode = d.returnOpcode) :
    later.step.1 = .ok 6 ∧ later.step.2.registers.sp = s.registers.sp ∧
      later.step.2.registers.pc = d.resume s.registers.pc ∧
      (d ≠ .call → ∀ f, later.step.2.registers.status.get f =
        if f = .break ∨ f = .unused then later.registers.status.get f
        else s.registers.status.get f) := by
  have unmoved : s.registers.sp - 0 = s.registers.sp := UInt8.sub_zero _
  by_cases call : d = .call
  · subst call
    obtain ⟨left, high, low⟩ := stack_of_call possible.1 possible.2
    have keptHigh := kept 0 (by decide)
    rw [unmoved] at keptHigh
    obtain ⟨succeeds, sp, pc⟩ := back_of_call running opcode (pointer.trans left)
      (keptHigh.trans high) ((kept 1 (by decide)).trans low)
    have three : s.registers.pc + 2 + 1 = s.registers.pc + 3 := UInt16.add_assoc _ 2 1
    exact ⟨succeeds, sp, pc.trans three, fun other => absurd rfl other⟩
  · obtain ⟨left, high, low, flags⟩ := stack_of_interrupt call possible
    have three : d.pushes = 3 := by cases d <;> first | rfl | exact absurd rfl call
    have fromStack : d.returnOpcode = 0x40 := by cases d <;> first | rfl | exact absurd rfl call
    rw [three] at kept
    have keptHigh := kept 0 (by decide)
    rw [unmoved] at keptHigh
    obtain ⟨succeeds, sp, pc, restored⟩ := back_of_interrupt running (opcode.trans fromStack)
      (pointer.trans left) (keptHigh.trans high) ((kept 1 (by decide)).trans low)
      ((kept 2 (by decide)).trans flags)
    exact ⟨succeeds, sp, pc, fun _ => restored⟩

/-- Where every byte is BRK, the first one is undone by an RTI that comes about at `$8000`. -/
theorem comes_back_from_first_break :
    let s : Machine FlatMemory := ⟨.initial, ⟨Bytes.fill 0x00⟩⟩
    let left := Detour.softwareInterrupt.enter s
    let later : Machine FlatMemory :=
      ⟨{ Core.initial with
          registers := { Registers.initial with sp := 0xFA, pc := 0x8000, status := ⟨0x10⟩ } },
        left.memory.poke 0x8000 0x40⟩
    later.step.1 = .ok 6 ∧ later.step.2.registers.sp = 0xFD ∧ later.step.2.registers.pc = 0x0002 ∧
      later.step.2.registers.status.get .interruptDisable = true ∧
      later.step.2.registers.status.get .break = true ∧
      later.step.2.registers.status.get .unused = false := by
  intro s left later
  have first : s.nextOpcode = 0x00 := by
    rw [nextOpcode_flat, FlatMemory.peek_fill]
  have last : later.nextOpcode = 0x40 := by
    rw [nextOpcode_flat]
    change (left.memory.poke 0x8000 0x40).peek 0x8000 = 0x40
    rw [FlatMemory.peek_poke, if_pos rfl]
  have kept (sp : UInt8) : later.stack sp = left.stack sp := by
    have apart : 0x8000 ≠ stackAddress sp := by
      intro same
      have below := stackAddress_lt sp
      rw [← same] at below
      exact absurd below (by decide)
    rw [stack_flat, stack_flat]
    change (left.memory.poke 0x8000 0x40).peek _ = _
    rw [FlatMemory.peek_poke, if_neg apart]
  have running : later.core.halted = false := rfl
  have possible : Detour.softwareInterrupt.Possible s := ⟨rfl, first⟩
  have three : later.registers.sp = s.registers.sp - 3 := by decide
  have pointer := three.trans (stack_of_interrupt (by decide) possible).1.symm
  obtain ⟨succeeds, sp, pc, flags⟩ :=
    comes_back possible running pointer (fun k _ => kept _) last
  have restored := flags (by decide)
  have disabled := restored .interruptDisable
  have broken := restored .break
  have unused := restored .unused
  rw [if_neg (by decide)] at disabled
  rw [if_pos (by decide)] at broken unused
  exact ⟨succeeds, sp, pc, disabled.trans (by decide), broken.trans (by decide),
    unused.trans (by decide)⟩

end Machine

end Famicom.Processor

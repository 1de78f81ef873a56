import Famicom.Proofs.Console.Frame
import Famicom.Proofs.Processor.Conduct

/-!
# Failing steps

The decoder accepts no instruction that cannot use its operand, so a running processor fails in one
way only: the byte at its program counter is no opcode. It has read that byte then and done nothing
else, and the console around it stands still.

* `Machine.step_of_decoded`: every opcode that the decoder accepts succeeds.
* `Machine.step_of_unknown`: any other byte is reported with the registers from before it was
  fetched.
* `Machine.FailsWith` and `Console.FailsWith`: what a failing step leaves behind.
* `Console.fails_iff_unknown`: a step fails exactly at an unknown opcode, and it fails like this.
-/

namespace Famicom

open Picture Processor

/-! ## The processor -/

namespace Processor.Machine

variable {M : Type} [AddressSpace M] {s : Machine M}

/-- **Every opcode that the decoder accepts succeeds**, whatever the address space answers. -/
theorem step_of_decoded (running : s.core.halted = false) {i : Instruction}
    (accepted : decode s.nextOpcode = some i) : s.step.1 = .ok i.cycles :=
  (does_step running (mem_encodings_of_decode accepted)).1

theorem step_of_unknown (running : s.core.halted = false) (unknown : decode s.nextOpcode = none) :
    s.step = (.error (.unknownOpcode s.nextOpcode s.registers), s.opened) := by
  rw [step_of_running running, unknown]

/-- The read of the opcode is the only access of a step that fails. -/
theorem stepAccesses_of_unknown (running : s.core.halted = false)
    (unknown : decode s.nextOpcode = none) :
    s.stepAccesses = [.read s.registers.pc s.nextOpcode] := by
  have recorded : s.recorded.step.2 = s.recorded.opened :=
    congrArg Prod.snd (step_of_unknown (s := s.recorded) running unknown)
  unfold stepAccesses
  rw [recorded]
  exact s.recorded.log_fetch

/-- A step fails exactly if the processor runs and meets a byte that is no opcode. -/
theorem fails_iff (s : Machine M) :
    (∃ fault, s.step.1 = .error fault) ↔ s.core.halted = false ∧ decode s.nextOpcode = none := by
  constructor
  · rintro ⟨fault, failed⟩
    cases halted : s.core.halted with
    | true =>
      rw [step_of_halted halted] at failed
      cases failed
    | false =>
      cases decoded : decode s.nextOpcode with
      | none => exact ⟨rfl, rfl⟩
      | some i =>
        rw [step_of_decoded halted decoded] at failed
        cases failed
  · rintro ⟨running, unknown⟩
    exact ⟨_, congrArg Prod.fst (step_of_unknown running unknown)⟩

/-- A step has failed at its opcode: the byte and the registers from before it was fetched are
reported, the byte was read and passed, and nothing else has happened. -/
structure FailsWith (s : Machine M) (fault : Fault) : Prop where
  fault : fault = .unknownOpcode s.nextOpcode s.registers
  accesses : s.stepAccesses = [.read s.registers.pc s.nextOpcode]
  memory : s.step.2.memory = (s.read s.registers.pc).2.memory
  registers : s.step.2.registers = { s.registers with pc := s.registers.pc + 1 }
  totalCycles : s.step.2.core.totalCycles = s.core.totalCycles
  halted : s.step.2.core.halted = s.core.halted

theorem failsWith_of_error {fault : Fault} (failed : s.step.1 = .error fault) :
    s.FailsWith fault := by
  obtain ⟨running, unknown⟩ := s.fails_iff.mp ⟨fault, failed⟩
  have step := step_of_unknown running unknown
  have reported : fault = .unknownOpcode s.nextOpcode s.registers := by
    rw [step] at failed
    exact (Except.error.inj failed).symm
  refine ⟨reported, stepAccesses_of_unknown running unknown, ?_, ?_, ?_, ?_⟩ <;>
    rw [step] <;> rfl

end Processor.Machine

/-! ## The console -/

namespace Console

variable {S : Type} [FrameSink S] {c : Console S} {fault : Fault}

/-- A fault stops the console before the picture unit advances. -/
theorem step_of_error (failed : c.machine.step.1 = .error fault) :
    c.step = (.error fault, { c with machine := c.machine.step.2 }) := by
  simp only [step, failed]

theorem error_step_iff : c.step.1 = .error fault ↔ c.machine.step.1 = .error fault := by
  refine ⟨fun failed => ?_, fun failed => congrArg Prod.fst (step_of_error failed)⟩
  cases result : c.machine.step.1 with
  | ok cycles => simp only [step, result, reduceCtorEq] at failed
  | error e =>
    rw [step_of_error result] at failed
    exact failed

/-- When a step of the console succeeds, the processor has executed an instruction. -/
theorem executes_of_ok {cycles : Nat} (succeeds : c.step.1 = .ok cycles) :
    ∃ spent, c.machine.step.1 = .ok spent := by
  cases result : c.machine.step.1 with
  | error fault =>
    rw [step_of_error result] at succeeds
    cases succeeds
  | ok spent => exact ⟨spent, rfl⟩

/-- A step of the console has failed: its processor has failed, the rest of it is as before, and the
beam has not moved. -/
structure FailsWith (c : Console S) (fault : Fault) : Prop where
  processor : c.machine.FailsWith fault
  rest : c.step.2 = { c with machine := c.machine.step.2 }
  sink : c.step.2.sink = c.sink
  beam : c.step.2.picture.beam = c.picture.beam

theorem failsWith_of_error (failed : c.step.1 = .error fault) : c.FailsWith fault := by
  have inside : c.machine.step.1 = .error fault := error_step_iff.mp failed
  have rest : c.step.2 = { c with machine := c.machine.step.2 } :=
    congrArg Prod.snd (step_of_error inside)
  refine ⟨Machine.failsWith_of_error inside, rest, ?_, ?_⟩
  · rw [rest]
  · rw [rest]
    exact congrArg (·.2.2) (Machine.sheltered_step Bus.beam c.machine)

/-- **A step fails exactly at an unknown opcode**, on any address space and in a console, and then
with nothing done but the fetch. In particular no step reports a missing address or an addressing
mode that names no operand. -/
theorem fails_iff_unknown {M : Type} [AddressSpace M] (s : Machine M) (c : Console S) :
    ((∃ fault, s.step.1 = .error fault) ↔
        s.core.halted = false ∧ decode s.nextOpcode = none) ∧
      (∀ fault, s.step.1 = .error fault → s.FailsWith fault) ∧
      ((∃ fault, c.step.1 = .error fault) ↔
        c.isHalted = false ∧ decode c.machine.nextOpcode = none) ∧
      ∀ fault, c.step.1 = .error fault → c.FailsWith fault := by
  refine ⟨s.fails_iff, fun _ => Machine.failsWith_of_error, ?_, fun _ => failsWith_of_error⟩
  rw [show c.isHalted = c.machine.core.halted from rfl, ← c.machine.fails_iff]
  exact exists_congr fun _ => error_step_iff

end Console

end Famicom

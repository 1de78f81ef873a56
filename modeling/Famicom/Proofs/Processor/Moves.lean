import Famicom.Processor.Execution
import Famicom.Proofs.Word

/-!
# The moves of the processor and its registers

Accesses leave the registers alone, the instruction stream moves the program counter, and the stack
moves the stack pointer. Every step begins with the opcode.

* `FlatMemory.peek_poke`: a store to plain memory shows at its own address.
* `Machine.registers_read`, `registers_fetch`, `registers_push` and so on: what a move does to the
  registers.
* `Machine.step_of_running`: a step of a running processor fetches an opcode and executes it.
-/

namespace Famicom.Processor

/-! ## Plain storage -/

theorem cell_inj {a b : UInt16} : cell a = cell b ↔ a = b :=
  Fin.ext_iff.trans UInt16.toNat_inj

namespace FlatMemory

theorem read_eq (m : FlatMemory) (a : UInt16) : AddressSpace.read m a = (m.peek a, m) := rfl

theorem peek_fill (v : UInt8) (a : UInt16) : (⟨Bytes.fill v⟩ : FlatMemory).peek a = v :=
  Bytes.get_fill v (cell a)

/-- A store shows at its own address and nowhere else. -/
theorem peek_poke (m : FlatMemory) (a b : UInt16) (v : UInt8) :
    (m.poke a v).peek b = if a = b then v else m.peek b := by
  rw [peek, poke, Bytes.get_set]
  simp only [cell_inj]
  rfl

end FlatMemory

namespace Machine

variable {M : Type}

/-! ## Elementary moves -/

@[simp] theorem registers_update (s : Machine M) (f : Registers → Registers) :
    (s.update f).registers = f s.registers := rfl

@[simp] theorem registers_setPC (s : Machine M) (pc : UInt16) :
    (s.setPC pc).registers = { s.registers with pc := pc } := rfl

@[simp] theorem registers_spend (s : Machine M) (cycles : Nat) :
    (s.spend cycles).registers = s.registers := rfl

variable [AddressSpace M]

@[simp] theorem registers_read (s : Machine M) (address : UInt16) :
    (s.read address).2.registers = s.registers := rfl

@[simp] theorem registers_write (s : Machine M) (address : UInt16) (v : UInt8) :
    (s.write address v).registers = s.registers := rfl

@[simp] theorem registers_fetch (s : Machine M) :
    s.fetch.2.registers = { s.registers with pc := s.registers.pc + 1 } := rfl

@[simp] theorem registers_readPair (s : Machine M) (low high : UInt16) :
    (s.readPair low high).2.registers = s.registers := rfl

@[simp] theorem registers_push (s : Machine M) (v : UInt8) :
    (s.push v).registers = { s.registers with sp := s.registers.sp - 1 } := rfl

@[simp] theorem registers_pull (s : Machine M) :
    s.pull.2.registers = { s.registers with sp := s.registers.sp + 1 } := rfl

theorem registers_fetchWord (s : Machine M) :
    s.fetchWord.2.registers = { s.registers with pc := s.registers.pc + 2 } := by
  rw [← word_succ_succ]
  rfl

theorem registers_pushWord (s : Machine M) (w : UInt16) :
    (s.pushWord w).registers = { s.registers with sp := s.registers.sp - 2 } := by
  rw [← byte_pred_pred]
  rfl

theorem registers_pullWord (s : Machine M) :
    s.pullWord.2.registers = { s.registers with sp := s.registers.sp + 2 } := by
  rw [← byte_succ_succ]
  rfl

/-! ## Operands in memory -/

section

variable {s : Machine M} {mode : Mode} {a : UInt16}
  (found : (s.resolve mode).1 = .ok (.address a))

include found

theorem load_of_address :
    s.load mode = (.ok ((s.resolve mode).2.read a).1, ((s.resolve mode).2.read a).2) := by
  simp only [load, found]

theorem store_of_address (v : UInt8) :
    s.store mode v = (.ok (), (s.resolve mode).2.write a v) := by
  simp only [store, found]

theorem modify_of_address (effect : Status → UInt8 → UInt8 × Status) :
    s.modify mode effect =
      let b := (s.resolve mode).2.read a
      let result := effect b.2.registers.status b.1
      (.ok (), (b.2.update fun r => { r with status := result.2 }).write a result.1) := by
  simp only [modify, found]

end

/-! ## The beginning of a step -/

/-- The opcode that the next step fetches. -/
def nextOpcode (s : Machine M) : UInt8 := (s.read s.registers.pc).1

theorem nextOpcode_flat (s : Machine FlatMemory) :
    s.nextOpcode = s.memory.peek s.registers.pc := rfl

/-- The machine when the next step has fetched its opcode. -/
def opened (s : Machine M) : Machine M :=
  let b := ({ s with core := { s.core with fetched := s.core.registers } } : Machine M).fetch
  { b.2 with core := { b.2.core with opcode := b.1 } }

@[simp] theorem registers_opened (s : Machine M) :
    s.opened.registers = { s.registers with pc := s.registers.pc + 1 } := rfl

/-- A step of a running processor fetches an opcode and executes it. -/
theorem step_of_running {s : Machine M} (running : s.core.halted = false) :
    s.step =
      match decode s.nextOpcode with
      | none => (.error (.unknownOpcode s.nextOpcode s.registers), s.opened)
      | some i =>
        match (s.opened.execute i).1 with
        | .ok _ => (.ok i.cycles, (s.opened.execute i).2.spend i.cycles)
        | .error e => (.error e, (s.opened.execute i).2) := by
  unfold step
  rw [running]
  rfl

theorem step_of_halted {s : Machine M} (halted : s.core.halted = true) : s.step = (.ok 0, s) :=
  if_pos halted

end Machine

end Famicom.Processor

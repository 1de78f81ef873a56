import Famicom.Processor.Execution

/-!
# What instructions leave alone

An instruction changes registers and makes accesses to the address space. The count of cycles, the
mark of a halted processor and every part of the address space that no access reaches stay as they
are; they are collected in `Machine.sheltered`, so that each operation of the processor needs one
lemma.

* `Machine.sheltered_execute`: a decoded instruction changes nothing of it, also if it fails.
* `Machine.sheltered_step`: a step adds to the count the cycles that it returns, and nothing if it
  fails.
* `Machine.sheltered_nmi`, `sheltered_irq`, `sheltered_reset`, `sheltered_toggleHalt`: the same for
  what happens between instructions.
* `Machine.cyclesSpent_step_le`: no step takes longer than the entry of an interrupt.
-/

namespace Famicom.Processor

/-- A view of an address space that no access of the processor changes. -/
class Sheltered {M α : Type} [AddressSpace M] (g : M → α) : Prop where
  read : ∀ m address, g (AddressSpace.read m address).2 = g m
  write : ∀ m address v, g (AddressSpace.write m address v) = g m
  note : ∀ m e, g (AddressSpace.note m e) = g m

/-- The cycles that a step accounts for: none if it has failed. -/
def cyclesSpent : Except Fault Nat → Nat
  | .ok cycles => cycles
  | .error _ => 0

namespace Machine

variable {M α : Type} (g : M → α)

/-- The count of cycles, the mark of a halted processor and a view of the address space. -/
def sheltered (s : Machine M) : Nat × Bool × α := (s.core.totalCycles, s.core.halted, g s.memory)

/-! ## Elementary moves -/

@[simp] theorem sheltered_update (s : Machine M) (f : Registers → Registers) :
    (s.update f).sheltered g = s.sheltered g := rfl

@[simp] theorem sheltered_setPC (s : Machine M) (pc : UInt16) :
    (s.setPC pc).sheltered g = s.sheltered g := rfl

theorem sheltered_spend (s : Machine M) (cycles : Nat) :
    (s.spend cycles).sheltered g = ((s.sheltered g).1 + cycles, (s.sheltered g).2) := rfl

variable [AddressSpace M] [Sheltered g]

@[simp] theorem sheltered_read (s : Machine M) (address : UInt16) :
    (s.read address).2.sheltered g = s.sheltered g := by
  simp only [read, sheltered, Sheltered.read]

@[simp] theorem sheltered_write (s : Machine M) (address : UInt16) (v : UInt8) :
    (s.write address v).sheltered g = s.sheltered g := by
  simp only [write, sheltered, Sheltered.write]

@[simp] theorem sheltered_note (s : Machine M) (e : Event) :
    (s.note e).sheltered g = s.sheltered g := by
  simp only [note, sheltered, Sheltered.note]

@[simp] theorem sheltered_fetch (s : Machine M) : s.fetch.2.sheltered g = s.sheltered g := by
  simp [fetch]

@[simp] theorem sheltered_fetchWord (s : Machine M) :
    s.fetchWord.2.sheltered g = s.sheltered g := by
  simp [fetchWord]

@[simp] theorem sheltered_readPair (s : Machine M) (low high : UInt16) :
    (s.readPair low high).2.sheltered g = s.sheltered g := by
  simp [readPair]

@[simp] theorem sheltered_readWord (s : Machine M) (address : UInt16) :
    (s.readWord address).2.sheltered g = s.sheltered g := by
  simp [readWord]

@[simp] theorem sheltered_readZeroPageWord (s : Machine M) (pointer : UInt8) :
    (s.readZeroPageWord pointer).2.sheltered g = s.sheltered g := by
  simp [readZeroPageWord]

@[simp] theorem sheltered_push (s : Machine M) (v : UInt8) :
    (s.push v).sheltered g = s.sheltered g := by
  simp [push]

@[simp] theorem sheltered_pushWord (s : Machine M) (w : UInt16) :
    (s.pushWord w).sheltered g = s.sheltered g := by
  simp [pushWord]

@[simp] theorem sheltered_pull (s : Machine M) : s.pull.2.sheltered g = s.sheltered g := by
  simp [pull]

@[simp] theorem sheltered_pullWord (s : Machine M) :
    s.pullWord.2.sheltered g = s.sheltered g := by
  simp [pullWord]

/-! ## Instructions -/

@[simp] theorem sheltered_resolve (s : Machine M) (mode : Mode) :
    (s.resolve mode).2.sheltered g = s.sheltered g := by
  cases mode <;> simp [resolve]

@[simp] theorem sheltered_load (s : Machine M) (mode : Mode) :
    (s.load mode).2.sheltered g = s.sheltered g := by
  unfold load
  dsimp only
  split <;> simp

@[simp] theorem sheltered_store (s : Machine M) (mode : Mode) (v : UInt8) :
    (s.store mode v).2.sheltered g = s.sheltered g := by
  unfold store
  dsimp only
  split <;> simp

@[simp] theorem sheltered_modify (s : Machine M) (mode : Mode)
    (effect : Status → UInt8 → UInt8 × Status) :
    (s.modify mode effect).2.sheltered g = s.sheltered g := by
  unfold modify
  dsimp only
  split <;> simp

@[simp] theorem sheltered_branch (s : Machine M) : s.branch.sheltered g = s.sheltered g := by
  unfold branch
  dsimp only
  split <;> simp

@[simp] theorem sheltered_jump (s : Machine M) (mode : Mode) :
    (s.jump mode).sheltered g = s.sheltered g := by
  unfold jump
  dsimp only
  split <;> simp

@[simp] theorem sheltered_call (s : Machine M) : s.call.sheltered g = s.sheltered g := by
  simp [call]

@[simp] theorem sheltered_enterInterrupt (s : Machine M) (vector : UInt16)
    (fromInstruction : Bool) :
    (s.enterInterrupt vector fromInstruction).sheltered g = s.sheltered g := by
  simp [enterInterrupt]

/-- **An instruction changes neither the count of cycles nor the mark of a halted processor nor
anything out of reach, also if it fails.** -/
theorem sheltered_execute (s : Machine M) (i : Instruction) :
    (s.execute i).2.sheltered g = s.sheltered g := by
  unfold execute
  split
  case h_1 =>
    dsimp only
    split <;> simp
  all_goals simp

/-! ## Steps and interrupts -/

/-- **A step counts the cycles that it returns, and none if it fails.** -/
theorem sheltered_step (s : Machine M) :
    s.step.2.sheltered g =
      ((s.sheltered g).1 + cyclesSpent s.step.1, (s.sheltered g).2) := by
  unfold step
  split
  · rfl
  · -- Remembering the registers and the opcode touches nothing that is sheltered.
    have fetched (opcode : UInt8) :
        sheltered g
            { core := { ({ s with core := { s.core with fetched := s.core.registers } } :
                Machine M).fetch.2.core with opcode }
              memory := ({ s with core := { s.core with fetched := s.core.registers } } :
                Machine M).fetch.2.memory } = s.sheltered g :=
      sheltered_fetch g { s with core := { s.core with fetched := s.core.registers } }
    dsimp only
    split
    · simp only [fetched, cyclesSpent, Nat.add_zero]
    · split
      · simp only [sheltered_spend, sheltered_execute, fetched, cyclesSpent]
      · simp only [sheltered_execute, fetched, cyclesSpent, Nat.add_zero]

theorem sheltered_nmi (s : Machine M) :
    s.nmi.2.sheltered g = ((s.sheltered g).1 + s.nmi.1, (s.sheltered g).2) := by
  simp [nmi, sheltered_spend]

theorem sheltered_irq (s : Machine M) :
    s.irq.2.sheltered g = ((s.sheltered g).1 + s.irq.1, (s.sheltered g).2) := by
  unfold irq
  split
  · rfl
  · simp [sheltered_spend]

/-- A reset forgets the cycles and ends a halt. -/
theorem sheltered_reset (s : Machine M) :
    s.reset.sheltered g = (0, false, g s.memory) := by
  have kept : g ((s.update fun _ => .initial).readWord resetVector).2.memory = g s.memory :=
    congrArg (·.2.2) (sheltered_readWord g (s.update fun _ => .initial) resetVector)
  unfold reset
  rw [sheltered_note]
  exact congrArg (fun view => (0, false, view)) kept

theorem sheltered_toggleHalt (s : Machine M) :
    s.toggleHalt.sheltered g = (s.core.totalCycles, !s.core.halted, g s.memory) := by
  simp only [toggleHalt, note, sheltered, Sheltered.note]

end Machine

/-! ## The cost of an instruction -/

theorem Mode.cycles_le (mode : Mode) (usage : Usage) : mode.cycles usage ≤ 7 := by
  cases mode <;> cases usage <;> decide

theorem Instruction.cycles_le (i : Instruction) : i.cycles ≤ 7 := by
  unfold Instruction.cycles Processor.cycles
  split
  case h_9 => split <;> decide
  case h_10 => exact Mode.cycles_le _ _
  all_goals decide

/-- No step takes longer than the entry of an interrupt. -/
theorem Machine.cyclesSpent_step_le {M : Type} [AddressSpace M] (s : Machine M) :
    cyclesSpent s.step.1 ≤ interruptCycles := by
  unfold Machine.step
  split
  · exact Nat.zero_le _
  · dsimp only
    split
    · exact Nat.zero_le _
    · rename_i i _
      split
      · exact i.cycles_le
      · exact Nat.zero_le _

end Famicom.Processor

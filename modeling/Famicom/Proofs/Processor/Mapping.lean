import Famicom.Proofs.Processor.Moves

/-!
# Maps between address spaces

A map between address spaces is transparent if every access gives the same answer on both sides and
commutes with it. The processor cannot tell the two sides apart: it does the same on both, whatever
it executes.

* `Transparent`: the maps.
* `Machine.step_along`: a step commutes with a transparent map.
* `Machine.nmi_along`, `irq_along`, `reset_along`, `toggleHalt_along`: so does what happens between steps.
-/

namespace Famicom.Processor

/-- A map between address spaces that the processor sees through. -/
class Transparent {M N : Type} [AddressSpace M] [AddressSpace N] (f : M → N) : Prop where
  read : ∀ m address,
    AddressSpace.read (f m) address =
      ((AddressSpace.read m address).1, f (AddressSpace.read m address).2)
  write : ∀ m address v, AddressSpace.write (f m) address v = f (AddressSpace.write m address v)
  note : ∀ m e, AddressSpace.note (f m) e = f (AddressSpace.note m e)

namespace Machine

variable {M N : Type} (s : Machine M) (f : M → N)

/-- The machine with its address space mapped. -/
def along : Machine N := ⟨s.core, f s.memory⟩

@[simp] theorem core_along : (s.along f).core = s.core := rfl

@[simp] theorem registers_along : (s.along f).registers = s.registers := rfl

/-! ## Elementary moves -/

@[simp] theorem update_along (g : Registers → Registers) :
    (s.along f).update g = (s.update g).along f := rfl

@[simp] theorem setPC_along (pc : UInt16) : (s.along f).setPC pc = (s.setPC pc).along f := rfl

@[simp] theorem spend_along (cycles : Nat) :
    (s.along f).spend cycles = (s.spend cycles).along f := rfl

variable [AddressSpace M] [AddressSpace N] [Transparent f]

@[simp] theorem read_along (address : UInt16) :
    (s.along f).read address = ((s.read address).1, (s.read address).2.along f) := by
  simp only [read, along, Transparent.read]

@[simp] theorem write_along (address : UInt16) (v : UInt8) :
    (s.along f).write address v = (s.write address v).along f := by
  simp only [write, along, Transparent.write]

@[simp] theorem note_along (e : Event) : (s.along f).note e = (s.note e).along f := by
  simp only [note, along, Transparent.note]

@[simp] theorem fetch_along : (s.along f).fetch = (s.fetch.1, s.fetch.2.along f) := by
  simp [fetch]

@[simp] theorem fetchWord_along :
    (s.along f).fetchWord = (s.fetchWord.1, s.fetchWord.2.along f) := by
  simp [fetchWord]

@[simp] theorem readPair_along (low high : UInt16) :
    (s.along f).readPair low high = ((s.readPair low high).1, (s.readPair low high).2.along f) := by
  simp [readPair]

@[simp] theorem readWord_along (address : UInt16) :
    (s.along f).readWord address = ((s.readWord address).1, (s.readWord address).2.along f) := by
  simp [readWord]

@[simp] theorem readZeroPageWord_along (pointer : UInt8) :
    (s.along f).readZeroPageWord pointer =
      ((s.readZeroPageWord pointer).1, (s.readZeroPageWord pointer).2.along f) := by
  simp [readZeroPageWord]

@[simp] theorem push_along (v : UInt8) : (s.along f).push v = (s.push v).along f := by
  simp [push]

@[simp] theorem pushWord_along (w : UInt16) :
    (s.along f).pushWord w = (s.pushWord w).along f := by
  simp [pushWord]

@[simp] theorem pull_along : (s.along f).pull = (s.pull.1, s.pull.2.along f) := by
  simp [pull]

@[simp] theorem pullWord_along :
    (s.along f).pullWord = (s.pullWord.1, s.pullWord.2.along f) := by
  simp [pullWord]

/-! ## Instructions -/

@[simp] theorem resolve_along (mode : Mode) :
    (s.along f).resolve mode = ((s.resolve mode).1, (s.resolve mode).2.along f) := by
  cases mode <;> simp [resolve]

@[simp] theorem load_along (mode : Mode) :
    (s.along f).load mode = ((s.load mode).1, (s.load mode).2.along f) := by
  unfold load
  rw [resolve_along]
  dsimp only
  split <;> simp

@[simp] theorem store_along (mode : Mode) (v : UInt8) :
    (s.along f).store mode v = ((s.store mode v).1, (s.store mode v).2.along f) := by
  unfold store
  rw [resolve_along]
  dsimp only
  split <;> simp [missingAddress]

@[simp] theorem modify_along (mode : Mode) (effect : Status → UInt8 → UInt8 × Status) :
    (s.along f).modify mode effect =
      ((s.modify mode effect).1, (s.modify mode effect).2.along f) := by
  unfold modify
  rw [resolve_along]
  dsimp only
  split <;> simp [missingAddress]

@[simp] theorem branch_along : (s.along f).branch = s.branch.along f := by
  unfold branch
  rw [fetch_along, apply_ite (along · f)]
  rfl

@[simp] theorem jump_along (mode : Mode) : (s.along f).jump mode = (s.jump mode).along f := by
  unfold jump
  rw [fetchWord_along]
  dsimp only
  split <;> simp

@[simp] theorem call_along : (s.along f).call = s.call.along f := by
  simp [call]

@[simp] theorem enterInterrupt_along (vector : UInt16) (fromInstruction : Bool) :
    (s.along f).enterInterrupt vector fromInstruction =
      (s.enterInterrupt vector fromInstruction).along f := by
  simp [enterInterrupt]

theorem execute_along (i : Instruction) :
    (s.along f).execute i = ((s.execute i).1, (s.execute i).2.along f) := by
  unfold execute
  split
  case h_1 =>
    rw [load_along]
    dsimp only
    split <;> simp
  all_goals simp

/-! ## Steps and interrupts -/

theorem nextOpcode_along : (s.along f).nextOpcode = s.nextOpcode := by
  simp [nextOpcode]

theorem opened_along : (s.along f).opened = s.opened.along f := by
  have fetched := fetch_along { s with core := { s.core with fetched := s.core.registers } } f
  unfold opened
  exact congrArg (fun b : UInt8 × Machine N =>
    ({ b.2 with core := { b.2.core with opcode := b.1 } } : Machine N)) fetched

/-- **A step commutes with a transparent map.** -/
theorem step_along : (s.along f).step = (s.step.1, s.step.2.along f) := by
  cases halted : s.core.halted with
  | true => rw [step_of_halted halted, step_of_halted (s := s.along f) halted]
  | false =>
    rw [step_of_running halted, step_of_running (s := s.along f) halted, opened_along,
      nextOpcode_along]
    cases decode s.nextOpcode with
    | none => rfl
    | some i =>
      dsimp only
      rw [execute_along]
      dsimp only
      split <;> rfl

theorem nmi_along : (s.along f).nmi = (s.nmi.1, s.nmi.2.along f) := by
  simp [nmi]

theorem irq_along : (s.along f).irq = (s.irq.1, s.irq.2.along f) := by
  unfold irq
  rw [registers_along]
  split
  · rfl
  · simp

theorem reset_along : (s.along f).reset = s.reset.along f := by
  unfold reset
  rw [update_along, readWord_along]
  generalize (s.update fun _ => .initial).readWord resetVector = target
  obtain ⟨pc, t⟩ := target
  exact note_along
    { t.setPC pc with core := { (t.setPC pc).core with totalCycles := 0, halted := false } } f _

theorem toggleHalt_along : (s.along f).toggleHalt = s.toggleHalt.along f := by
  simp only [toggleHalt, core_along, registers_along, note_along]
  rfl

end Machine

end Famicom.Processor

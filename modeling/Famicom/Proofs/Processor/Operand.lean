import Famicom.Proofs.Processor.Traffic

/-!
# The operand of an instruction

An instruction that takes a value reads it last, and one that replaces a byte of memory writes that byte
last. So the operand can be told from the accesses on the bus, whatever the addressing mode.

* `Machine.Meets`, `Machine.Reads`: the next instruction, and the value that it takes.
* `Machine.WorksOn`: the next instruction replaces the given cell of memory.
* `Machine.step_of_reads`, `step_of_worksOn`: what the step makes of its operand.
-/

namespace Famicom.Processor

namespace Machine

variable {M : Type} [AddressSpace M]

/-- The next instruction of a running processor is `m`, in any addressing mode. -/
structure Meets (s : Machine M) (m : Mnemonic) : Prop where
  running : s.core.halted = false
  official : ∃ mode, (mode, s.nextOpcode) ∈ m.encodings

/-- The byte that the next instruction reads last is `v`. -/
structure Reads (s : Machine M) (m : Mnemonic) (v : UInt8) : Prop extends Meets s m where
  value : ∃ a, s.stepAccesses.getLast? = some (.read a v)

/-- The cell that the next instruction writes last is `a`. -/
structure WorksOn (s : Machine M) (m : Mnemonic) (a : UInt16) : Prop extends Meets s m where
  cell : ∃ v, s.stepAccesses.getLast? = some (.write a v)

/-! ## Instructions that take a value -/

/-- An instruction that takes a value makes its effect of the value it reads last. -/
theorem step_of_reads {s : Machine M} {m : Mnemonic} {v : UInt8}
    {f : UInt8 → Registers → Registers} (action : m.action = .operate f)
    (reads : s.Reads m v) :
    (∃ cycles, s.step.1 = .ok cycles) ∧
      ∃ pc, s.step.2.registers = f v { s.registers with pc := pc } := by
  obtain ⟨⟨running, mode, official⟩, a, last⟩ := reads
  obtain ⟨succeeds, t, accesses, does⟩ := does_step running official
  rw [accesses] at last
  rw [action] at does
  refine ⟨⟨_, succeeds⟩, ?_⟩
  generalize s.step.2.registers = after at does
  cases does with
  | @operate _ t w operand =>
    have value : w = v := by
      cases operand <;> simp_all [List.getLast?_cons]
    subst value
    exact ⟨_, rfl⟩

/-- A step whose operand is the byte behind the opcode. -/
theorem step_of_immediate {s : Machine M} {m : Mnemonic} {f : UInt8 → Registers → Registers}
    (action : m.action = .operate f) (running : s.core.halted = false)
    (official : (Mode.immediate, s.nextOpcode) ∈ m.encodings) :
    s.step = (.ok (cycles m .immediate),
      (s.opened.fetch.2.update (f s.opened.fetch.1)).spend (cycles m .immediate)) := by
  rw [step_of_running running, decode_of_mem_encodings official]
  simp only [execute, action, load, resolve]
  rfl

/-- In plain memory such a step reads that byte, leaves the memory alone and goes on behind it. -/
theorem reads_of_immediate {s : Machine FlatMemory} {m : Mnemonic}
    {f : UInt8 → Registers → Registers} (action : m.action = .operate f)
    (keeps : ∀ v r, (f v r).pc = r.pc) (running : s.core.halted = false)
    (official : (Mode.immediate, s.nextOpcode) ∈ m.encodings) :
    s.Reads m (s.memory.peek (s.registers.pc + 1)) ∧ s.step.2.core.halted = false ∧
      s.step.2.memory = s.memory ∧ s.step.2.registers.pc = s.registers.pc + 2 := by
  have accesses : s.stepAccesses = [.read s.registers.pc s.nextOpcode,
      .read (s.registers.pc + 1) (s.memory.peek (s.registers.pc + 1))] := by
    rw [stepAccesses, step_of_immediate (s := s.recorded) action running official]
    rfl
  refine ⟨⟨⟨running, _, official⟩, _, by rw [accesses]; rfl⟩, ?_⟩
  rw [step_of_immediate action running official]
  exact ⟨running, rfl, (keeps _ _).trans (word_succ_succ _)⟩

/-! ## Instructions that replace a byte of plain memory -/

/-- Finding a place in plain memory changes nothing. -/
theorem eq_of_replays_finds {m m' : FlatMemory} {x y : UInt8} {start a : UInt16} {mode : Mode}
    {t : List Access} (place : mode.Finds x y start t a) (replays : Replays m t m') : m' = m := by
  cases place with
  | zeroPage | zeroPageX | zeroPageY => exact replays.2
  | absolute | absoluteX | absoluteY => exact replays.2.2
  | indirectX | indirectY => exact replays.2.2.2

/-- An instruction that replaces a byte of plain memory changes its cell and the status, and nothing
else but the program counter. -/
theorem step_of_worksOn {s : Machine FlatMemory} {m : Mnemonic} {a : UInt16}
    {f : Status → UInt8 → UInt8 × Status} (action : m.action = .modify f)
    (works : s.WorksOn m a) :
    let result := f s.registers.status (s.memory.peek a)
    (∃ cycles, s.step.1 = .ok cycles) ∧ s.step.2.memory = s.memory.poke a result.1 ∧
      ∃ pc, s.step.2.registers = { s.registers with pc := pc, status := result.2 } := by
  obtain ⟨⟨running, mode, official⟩, v, last⟩ := works
  obtain ⟨succeeds, t, accesses, does⟩ := does_step running official
  have replays := s.replays_step
  rw [accesses] at last replays
  rw [action] at does
  refine ⟨⟨_, succeeds⟩, ?_⟩
  obtain ⟨-, replays⟩ := replays
  rw [FlatMemory.read_eq] at replays
  generalize s.step.2.registers = after at does
  cases does with
  | modifyA register => simp at last
  | @modify _ t a' place w =>
    obtain ⟨m', found, answer, written⟩ := replays_append.mp replays
    obtain rfl := eq_of_replays_finds place found
    obtain rfl : a' = a := by
      simp [List.getLast?_cons] at last
      exact last.1
    obtain rfl : s.memory.peek a' = w := answer
    exact ⟨written, _, rfl⟩

/-- A step that replaces the cell of page zero whose number stands behind the opcode. -/
theorem step_of_zeroPage {s : Machine M} {m : Mnemonic} {f : Status → UInt8 → UInt8 × Status}
    (action : m.action = .modify f) (running : s.core.halted = false)
    (official : (Mode.zeroPage, s.nextOpcode) ∈ m.encodings) :
    let b := s.opened.fetch.2.read s.opened.fetch.1.toUInt16
    let result := f b.2.registers.status b.1
    s.step = (.ok (cycles m .zeroPage),
      ((b.2.update fun r => { r with status := result.2 }).write s.opened.fetch.1.toUInt16
        result.1).spend (cycles m .zeroPage)) := by
  rw [step_of_running running, decode_of_mem_encodings official]
  simp only [execute, action, modify, resolve]
  rfl

/-- In plain memory such a step works on that cell and goes on behind its number. -/
theorem worksOn_of_zeroPage {s : Machine FlatMemory} {m : Mnemonic}
    {f : Status → UInt8 → UInt8 × Status} (action : m.action = .modify f)
    (running : s.core.halted = false) (official : (Mode.zeroPage, s.nextOpcode) ∈ m.encodings) :
    s.WorksOn m (s.memory.peek (s.registers.pc + 1)).toUInt16 ∧ s.step.2.core.halted = false ∧
      s.step.2.registers.pc = s.registers.pc + 2 := by
  have last : ∃ v, s.stepAccesses.getLast? =
      some (.write (s.memory.peek (s.registers.pc + 1)).toUInt16 v) := by
    rw [stepAccesses, step_of_zeroPage (s := s.recorded) action running official]
    exact ⟨_, rfl⟩
  refine ⟨⟨⟨running, _, official⟩, last⟩, ?_⟩
  rw [step_of_zeroPage action running official]
  exact ⟨running, word_succ_succ _⟩

end Machine

end Famicom.Processor

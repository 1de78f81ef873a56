import Famicom.Proofs.Processor.Carry
import Famicom.Proofs.Processor.Operand

/-!
# Comparisons and branches

A branch tests one flag. After a comparison the flags tell how the two bytes compare, so that the
branches decide by the bytes.

* `Mnemonic.condition`: the flag that a branch tests, from the documentation.
* `Machine.Branches`: all that a branch does.
* `Machine.branches_by_condition`: every branch goes by its flag, and after a comparison by the bytes.
-/

namespace Famicom.Processor

open Status

/-- The flag that a branch tests, and the value for which it is taken. -/
def Mnemonic.condition : Mnemonic → Option (Flag × Bool)
  | .bpl => some (.negative, false)
  | .bmi => some (.negative, true)
  | .bvc => some (.overflow, false)
  | .bvs => some (.overflow, true)
  | .bcc => some (.carry, false)
  | .bcs => some (.carry, true)
  | .bne => some (.zero, false)
  | .beq => some (.zero, true)
  | _ => none

/-- Where a branch at `p` leads: its operand is a signed byte and counts from the next instruction, and
the last address is followed by the first. -/
def branchTarget (p : UInt16) (d : UInt8) : UInt16 := .ofInt (p.toNat + 2 + d.toInt8.toInt)

/-- Each comparison and the register that it compares. -/
def comparisons (r : Registers) : List (Mnemonic × UInt8) := [(.cmp, r.a), (.cpx, r.x), (.cpy, r.y)]

/-- Whether a branch is taken after a register with the byte `r` was compared with `v`. -/
def verdicts (r v : UInt8) : List (Mnemonic × Bool) :=
  [(.bcs, v.toNat ≤ r.toNat), (.bcc, r.toNat < v.toNat), (.beq, r = v), (.bne, r ≠ v),
    (.bmi, 128 ≤ ((r.toNat : Int) - v.toNat) % 256), (.bpl, ((r.toNat : Int) - v.toNat) % 256 < 128)]

/-! ## The way that a branch takes -/

theorem displacement_eq (d : UInt8) : Machine.displacement d = .ofInt d.toInt8.toInt := by
  have table : ∀ n : Fin 256,
      Machine.displacement (UInt8.ofFin n) = .ofInt (UInt8.ofFin n).toInt8.toInt := by
    decide +kernel
  exact table d.toFin

theorem ofInt_toNat (p : UInt16) : UInt16.ofInt p.toNat = p := by
  have small := p.toNat_lt
  apply UInt16.toNat_inj.mp
  rw [UInt16.ofInt, UInt16.toNat_ofNat']
  omega

theorem branchTarget_eq (p : UInt16) (d : UInt8) :
    p + 1 + 1 + Machine.displacement d = branchTarget p d := by
  rw [branchTarget, UInt16.ofInt_add, UInt16.ofInt_add, ofInt_toNat, ← displacement_eq,
    word_succ_succ]
  rfl

/-- The opcode of a branch holds its condition in its top three bits. -/
theorem branchTaken_of_condition {m : Mnemonic} {f : Flag} {on : Bool} {mode : Mode}
    {opcode : UInt8} (condition : m.condition = some (f, on)) (official : (mode, opcode) ∈ m.encodings)
    (s : Status) :
    m.action = .branch ∧
      s.branchTaken (opcode >>> 6) ((opcode >>> 5) &&& 1 == 1) = (s.get f == on) := by
  cases m <;> simp only [Mnemonic.condition, Option.some.injEq, Prod.mk.injEq, reduceCtorEq]
    at condition
  all_goals
    obtain ⟨rfl, rfl⟩ := condition
    obtain ⟨-, rfl⟩ : mode = .relative ∧ opcode = _ := by
      simpa [Mnemonic.encodings] using official
    exact ⟨rfl, rfl⟩

/-! ## The flags after a comparison -/

section

variable (s : Status) (r v : UInt8)

theorem get_carry_compare :
    (Arithmetic.compare s r v).get .carry = decide (v.toNat ≤ r.toNat) := by
  simp [Arithmetic.compare, UInt8.le_iff_toNat_le]

theorem get_zero_compare : (Arithmetic.compare s r v).get .zero = decide (r = v) := by
  have zero : (r - v == 0) = decide (r = v) := by
    rw [Bool.eq_iff_iff, beq_iff_eq, decide_eq_true_iff]
    grind
  simp [Arithmetic.compare, zero]

theorem get_negative_compare : (Arithmetic.compare s r v).get .negative =
    decide (128 ≤ ((r.toNat : Int) - v.toNat) % 256) := by
  have small := r.toNat_lt
  have small' := v.toNat_lt
  have top : (Arithmetic.compare s r v).get .negative = get ⟨r - v⟩ .negative := by
    rw [Arithmetic.compare, get_withResult, if_pos rfl]
    rfl
  rw [top, Arithmetic.get_negative, UInt8.toNat_sub, decide_eq_decide]
  omega

/-- The flags after a comparison decide the branches by the bytes. -/
theorem condition_of_verdict {b : Mnemonic} {taken : Bool} (verdict : (b, taken) ∈ verdicts r v) :
    ∃ f on, b.condition = some (f, on) ∧ f ∈ [Flag.carry, .zero, .negative] ∧
      ((Arithmetic.compare s r v).get f == on) = taken := by
  simp only [verdicts, List.mem_cons, Prod.mk.injEq, List.not_mem_nil, or_false] at verdict
  rcases verdict with ⟨rfl, rfl⟩ | ⟨rfl, rfl⟩ | ⟨rfl, rfl⟩ | ⟨rfl, rfl⟩ | ⟨rfl, rfl⟩ | ⟨rfl, rfl⟩
  · exact ⟨_, _, rfl, by decide, by simp [get_carry_compare]⟩
  · exact ⟨_, _, rfl, by decide, by simp [get_carry_compare, ← decide_not]⟩
  · exact ⟨_, _, rfl, by decide, by simp [get_zero_compare]⟩
  · exact ⟨_, _, rfl, by decide, by simp [get_zero_compare]⟩
  · exact ⟨_, _, rfl, by decide, by simp [get_negative_compare]⟩
  · exact ⟨_, _, rfl, by decide, by simp [get_negative_compare, ← decide_not]⟩

end

/-! ## The step -/

namespace Machine

variable {M : Type} [AddressSpace M]

/-- The branch at the program counter has read its operand `d` and has been taken or not. Nothing
but the program counter has changed, and reading is all that happens to the memory; where reading
changes nothing, the memory is as before. -/
structure Branches (s : Machine M) (taken : Bool) (d : UInt8) : Prop where
  succeeds : s.step.1 = .ok 2
  accesses : s.stepAccesses = [.read s.registers.pc s.nextOpcode, .read (s.registers.pc + 1) d]
  registers : s.step.2.registers =
    { s.registers with
      pc := if taken then branchTarget s.registers.pc d else s.registers.pc + 2 }
  memory : Replays s.memory s.stepAccesses s.step.2.memory
  still : (∀ a, (AddressSpace.read s.memory a).2 = s.memory) → s.step.2.memory = s.memory

theorem branches_of_condition {s : Machine M} {m : Mnemonic} {f : Flag} {on : Bool}
    (condition : m.condition = some (f, on)) (meets : s.Meets m) :
    ∃ d, s.Branches (s.registers.status.get f == on) d := by
  obtain ⟨running, mode, official⟩ := meets
  obtain ⟨action, taken⟩ := branchTaken_of_condition condition official s.registers.status
  obtain ⟨succeeds, t, accesses, does⟩ := does_step running official
  have replays := s.replays_step
  have still (d : UInt8) (reads : Replays s.memory [.read s.registers.pc s.nextOpcode,
      .read (s.registers.pc + 1) d] s.step.2.memory)
      (harmless : ∀ a, (AddressSpace.read s.memory a).2 = s.memory) :
      s.step.2.memory = s.memory := by
    obtain ⟨-, -, memory⟩ := reads
    rw [memory, harmless, harmless]
  have cost : cycles m mode = 2 := by
    cases m <;> simp_all [Mnemonic.condition, Mnemonic.encodings] <;> rfl
  rw [cost] at succeeds
  rw [action] at does
  generalize after : s.step.2.registers = registers at does
  cases does with
  | branch d flag =>
    rw [taken] at flag
    refine ⟨d, succeeds, accesses, ?_, replays, still d (accesses ▸ replays)⟩
    rw [after, flag, if_pos rfl, branchTarget_eq]
  | fallThrough d flag =>
    rw [taken] at flag
    refine ⟨d, succeeds, accesses, ?_, replays, still d (accesses ▸ replays)⟩
    rw [after, if_neg flag, word_succ_succ]

namespace Branches

theorem pc_of_taken {s : Machine M} {d : UInt8} (branches : s.Branches true d) :
    s.step.2.registers.pc = branchTarget s.registers.pc d :=
  congrArg Registers.pc branches.registers

/-- In plain memory the operand is the byte behind the opcode, and the memory is as before. -/
theorem plain {s : Machine FlatMemory} {taken : Bool} {d : UInt8} (branches : s.Branches taken d) :
    d = s.memory.peek (s.registers.pc + 1) ∧ s.step.2.memory = s.memory := by
  have replays := branches.memory
  rw [branches.accesses] at replays
  exact ⟨replays.2.1.symm, branches.still fun _ => rfl⟩

end Branches

/-- A comparison sets the flags by the bytes and cannot fail. -/
theorem status_of_comparison {s : Machine M} {m : Mnemonic} {v : UInt8} {f : Registers → UInt8}
    (action : m.action = .operate fun v r =>
      { r with status := Arithmetic.compare r.status (f r) v })
    (apart : ∀ pc, f { s.registers with pc := pc } = f s.registers) (reads : s.Reads m v) :
    (∃ cycles, s.step.1 = .ok cycles) ∧
      s.step.2.registers.status = Arithmetic.compare s.registers.status (f s.registers) v := by
  obtain ⟨succeeds, pc, registers⟩ := step_of_reads action reads
  refine ⟨succeeds, ?_⟩
  rw [registers, apart]

theorem compare_of_reads {s : Machine M} {m : Mnemonic} {r v : UInt8}
    (comparison : (m, r) ∈ comparisons s.registers) (reads : s.Reads m v) :
    (∃ cycles, s.step.1 = .ok cycles) ∧
      s.step.2.registers.status = Arithmetic.compare s.registers.status r v := by
  simp only [comparisons, List.mem_cons, Prod.mk.injEq, List.not_mem_nil, or_false] at comparison
  rcases comparison with ⟨rfl, rfl⟩ | ⟨rfl, rfl⟩ | ⟨rfl, rfl⟩
  · exact status_of_comparison (f := Registers.a) rfl (fun _ => rfl) reads
  · exact status_of_comparison (f := Registers.x) rfl (fun _ => rfl) reads
  · exact status_of_comparison (f := Registers.y) rfl (fun _ => rfl) reads

/-- **Every branch goes by the flag of its documentation and changes the program counter only.** After a
comparison of a register with a byte, in whatever addressing mode, the branches go by the two bytes, as
long as the program has kept the flags that the comparison has set. -/
theorem branches_by_condition (s : Machine M) :
    (∀ m f on, m.condition = some (f, on) → s.Meets m →
      ∃ d, s.Branches (s.registers.status.get f == on) d) ∧
    (∀ m r v, (m, r) ∈ comparisons s.registers → s.Reads m v →
      (∃ cycles, s.step.1 = .ok cycles) ∧
      ∀ (t : Machine M) b taken, (b, taken) ∈ verdicts r v → t.Meets b →
        (∀ f ∈ [Flag.carry, .zero, .negative],
          t.registers.status.get f = s.step.2.registers.status.get f) →
        ∃ d, t.Branches taken d) := by
  refine ⟨fun m f on => branches_of_condition, fun m r v comparison reads => ?_⟩
  obtain ⟨succeeds, status⟩ := compare_of_reads comparison reads
  refine ⟨succeeds, fun t b taken verdict meets kept => ?_⟩
  obtain ⟨f, on, condition, among, rfl⟩ := condition_of_verdict s.registers.status r v verdict
  rw [← status, ← kept f among]
  exact branches_of_condition condition meets

/-- CMP `#$B0` with `$FF` in the accumulator, and BCS behind it at `$0002`: the branch goes back by `$50`,
over the first address to the end of memory. -/
theorem branches_after_comparison :
    let m : FlatMemory := (⟨Bytes.fill 0xB0⟩ : FlatMemory).poke 0 0xC9
    let s : Machine FlatMemory :=
      ⟨{ Core.initial with registers := { Registers.initial with a := 0xFF } }, m⟩
    s.step.2.step.2.registers.pc = 0xFFB4 ∧ s.step.2.step.2.memory = s.step.2.memory := by
  intro m s
  have byte (a : UInt16) : m.peek a = if 0 = a then 0xC9 else 0xB0 := by
    rw [FlatMemory.peek_poke, FlatMemory.peek_fill]
  have memory : s.memory = m := rfl
  have running : s.core.halted = false := rfl
  have start : s.registers.pc = 0 := rfl
  have compared : s.registers.a = 0xFF := rfl
  clear_value s m
  obtain ⟨reads, running, same, next⟩ := reads_of_immediate (s := s) (m := .cmp)
    (f := fun v r => { r with status := Arithmetic.compare r.status r.a v }) rfl
    (fun _ _ => rfl) running (by rw [nextOpcode_flat, memory, start, byte]; decide)
  rw [memory, start, byte, if_neg (by decide)] at reads
  rw [start] at next
  rw [memory] at same
  obtain ⟨-, decides⟩ := (branches_by_condition s).2 .cmp 0xFF 0xB0
    (by simp [comparisons, compared]) reads
  replace decides := decides s.step.2 .bcs true (by decide)
  generalize s.step.2 = t at running same next decides
  have meets : t.Meets .bcs := by
    refine ⟨running, .relative, ?_⟩
    rw [nextOpcode_flat, same, next, byte]
    decide
  obtain ⟨d, branches⟩ := decides meets fun _ _ => rfl
  obtain ⟨distance, kept⟩ := branches.plain
  rw [same, next, byte, if_neg (by decide)] at distance
  refine ⟨?_, kept⟩
  rw [branches.pc_of_taken, next, distance]
  decide

end Machine

end Famicom.Processor

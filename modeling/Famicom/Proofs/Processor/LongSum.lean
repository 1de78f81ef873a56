import Famicom.Proofs.Processor.Carry
import Famicom.Proofs.Processor.Operand

/-!
# Addition and subtraction of long numbers

A program adds numbers of several bytes from the lowest byte up: it loads a byte of the one number, adds
the byte of the other, puts the result away and goes on to the next byte. All that the rounds share is
the carry.

* `Round`, `Linked`: the two instructions for one byte, and rounds that hand on the carry.
* `Round.Adds`: what one round does to the carry and to the overflow.
* `sum_of_adds`, `overflow_of_adds`: and so what all of them do.
* `long_addition_and_subtraction`: the numbers, the final carry and the final overflow.
-/

namespace Famicom.Processor

open LongNumber

variable {M : Type}

/-- The two instructions for one byte: the machine that is about to load, and the bytes that they
read. -/
structure Round (M : Type) where
  start : Machine M
  left : UInt8
  right : UInt8

namespace Round

variable [AddressSpace M] (r : Round M)

/-- The machine between the two instructions. -/
def loaded : Machine M := r.start.step.2

/-- The machine behind the two instructions. -/
def finish : Machine M := r.loaded.step.2

/-- The byte that the round leaves in the accumulator. -/
def result : UInt8 := r.finish.registers.a

/-- LDA reads the one byte, and then `m` reads the other. -/
structure Performs (m : Mnemonic) : Prop where
  load : r.start.Reads .lda r.left
  combine : r.loaded.Reads m r.right

/-- Neither instruction fails. -/
def Succeeds : Prop :=
  (∃ cycles, r.start.step.1 = .ok cycles) ∧ ∃ cycles, r.loaded.step.1 = .ok cycles

/-- The round has added `addend` and the carry. -/
structure Adds (addend : UInt8) : Prop where
  sum : r.result.toNat + 256 * r.finish.carry.toNat =
    r.left.toNat + addend.toNat + r.start.carry.toNat
  overflow : r.finish.registers.status.get .overflow = true ↔
    ¬ Fits 1 (signed [r.left] + signed [addend] + r.start.carry.toNat)

variable {r}

/-- A load keeps the carry. -/
theorem loaded_of_reads (load : r.start.Reads .lda r.left) :
    (∃ cycles, r.start.step.1 = .ok cycles) ∧ r.loaded.registers.a = r.left ∧
      r.loaded.carry = r.start.carry := by
  obtain ⟨succeeds, pc, registers⟩ := Machine.step_of_reads
    (f := fun v r => r.loadA v) rfl load
  have registers : r.loaded.registers = _ := registers
  refine ⟨succeeds, ?_, ?_⟩
  · rw [registers]
    rfl
  · rw [Machine.carry, registers]
    simp [Registers.loadA, Machine.carry]

/-- After a load, a byte is added to the byte that was loaded. -/
theorem adds_of_accumulate {addend : UInt8} {pc : UInt16} (load : r.start.Reads .lda r.left)
    (registers : r.finish.registers = { r.loaded.registers with pc := pc }.accumulate
      (Arithmetic.add r.loaded.registers.status r.loaded.registers.a addend)) : r.Adds addend := by
  obtain ⟨-, byte, carry⟩ := loaded_of_reads load
  rw [byte] at registers
  have sum := Arithmetic.sum_add r.loaded.registers.status r.left addend
  have overflow := Arithmetic.overflow_add r.loaded.registers.status r.left addend
  change r.loaded.registers.status.get .carry = r.start.carry at carry
  rw [carry] at sum overflow
  constructor
  · rw [result, Machine.carry, registers]
    exact sum
  · rw [registers]
    exact overflow

theorem adds_of_adc (performs : r.Performs .adc) : r.Succeeds ∧ r.Adds r.right := by
  obtain ⟨succeeds, pc, registers⟩ := Machine.step_of_reads
    (f := fun v r => r.accumulate (Arithmetic.add r.status r.a v)) rfl performs.combine
  exact ⟨⟨(loaded_of_reads performs.load).1, succeeds⟩,
    adds_of_accumulate performs.load registers⟩

/-- Subtraction adds the complement. -/
theorem adds_of_sbc (performs : r.Performs .sbc) : r.Succeeds ∧ r.Adds (~~~r.right) := by
  obtain ⟨succeeds, pc, registers⟩ := Machine.step_of_reads
    (f := fun v r => r.accumulate (Arithmetic.subtract r.status r.a v)) rfl performs.combine
  exact ⟨⟨(loaded_of_reads performs.load).1, succeeds⟩,
    adds_of_accumulate performs.load registers⟩

end Round

/-! ## Rounds in a row -/

section

variable [AddressSpace M]

/-- The first round begins with the carry `c`, and each of the others with the carry that the one before
it has left, whatever the program does in between. -/
def Linked : Bool → List (Round M) → Prop
  | _, [] => True
  | c, r :: rest => r.start.carry = c ∧ Linked r.finish.carry rest

/-- Rounds with nothing in between. -/
def consecutive (s : Machine M) : List (UInt8 × UInt8) → List (Round M)
  | [] => []
  | (a, b) :: rest =>
    let r : Round M := ⟨s, a, b⟩
    r :: consecutive r.finish rest

theorem linked_consecutive (s : Machine M) (bytes : List (UInt8 × UInt8)) :
    Linked s.carry (consecutive s bytes) := by
  induction bytes generalizing s with
  | nil => trivial
  | cons pair rest ih => exact ⟨rfl, ih _⟩

variable {rounds : List (Round M)} {c : Bool} {f : UInt8 → UInt8}

/-- Rounds that add lose nothing: what does not fit into the bytes of the result is in the carry. -/
theorem sum_of_adds (nonempty : rounds ≠ []) (linked : Linked c rounds)
    (adds : ∀ r ∈ rounds, r.Adds (f r.right)) :
    unsigned (rounds.map (·.result)) +
        (rounds.getLast nonempty).finish.carry.toNat * 256 ^ rounds.length =
      unsigned (rounds.map (·.left)) + unsigned (rounds.map (f ·.right)) + c.toNat := by
  induction rounds generalizing c with
  | nil => exact absurd rfl nonempty
  | cons r rest ih =>
    obtain ⟨rfl, linked⟩ := linked
    obtain ⟨first, others⟩ := List.forall_mem_cons.mp adds
    have sum := first.sum
    cases rest with
    | nil =>
      simp only [List.map_cons, List.map_nil, unsigned_cons, unsigned_nil, List.getLast_singleton,
        List.length_singleton]
      omega
    | cons r' rest' =>
      have ih := ih (List.cons_ne_nil _ _) linked others
      simp only [List.getLast_cons (List.cons_ne_nil r' rest'), List.map_cons (l := r' :: rest'),
        unsigned_cons _ (List.map _ (r' :: rest')), @List.length_cons _ r (r' :: rest'),
        Nat.pow_succ, ← Nat.mul_assoc]
      omega

/-- The overflow of the last round speaks for the whole: the bytes below it cannot change whether the
result fits. -/
theorem overflow_of_adds (nonempty : rounds ≠ []) (linked : Linked c rounds)
    (adds : ∀ r ∈ rounds, r.Adds (f r.right)) :
    (rounds.getLast nonempty).finish.registers.status.get .overflow = true ↔
      ¬ Fits rounds.length
        (signed (rounds.map (·.left)) + signed (rounds.map (f ·.right)) + c.toNat) := by
  induction rounds generalizing c with
  | nil => exact absurd rfl nonempty
  | cons r rest ih =>
    obtain ⟨rfl, linked⟩ := linked
    obtain ⟨first, others⟩ := List.forall_mem_cons.mp adds
    cases rest with
    | nil => exact first.overflow
    | cons r' rest' =>
      have ih := ih (List.cons_ne_nil _ _) linked others
      have sum := first.sum
      rw [List.getLast_cons (List.cons_ne_nil r' rest'), ih, @List.length_cons _ r (r' :: rest'),
        List.map_cons (l := r' :: rest'), List.map_cons (l := r' :: rest'),
        signed_cons _ (by simp), signed_cons _ (by simp)]
      rw [← fits_succ (by simp) r.result]
      have regroup : (r.left.toNat : Int) + 256 * signed ((r' :: rest').map (·.left)) +
          ((f r.right).toNat + 256 * signed ((r' :: rest').map (f ·.right))) +
            r.start.carry.toNat =
          r.result.toNat + 256 * (signed ((r' :: rest').map (·.left)) +
            signed ((r' :: rest').map (f ·.right)) + r.finish.carry.toNat) := by
        omega
      rw [regroup]

/-! ## The whole numbers -/

/-- What a long addition leaves: the sum, with its top in the carry `last.carry`, and an overflow if the
sum of the signed numbers has no form of so many bytes. -/
structure LongSum (c : Bool) (rounds : List (Round M)) (last : Machine M) : Prop where
  total : unsigned (rounds.map (·.result)) + last.carry.toNat * 256 ^ rounds.length =
    unsigned (rounds.map (·.left)) + unsigned (rounds.map (·.right)) + c.toNat
  overflow : last.registers.status.get .overflow = true ↔
    ¬ Fits rounds.length
      (signed (rounds.map (·.left)) + signed (rounds.map (·.right)) + c.toNat)

/-- What a long subtraction leaves. A carry that is off is a borrow, before and after. -/
structure LongDifference (c : Bool) (rounds : List (Round M)) (last : Machine M) : Prop where
  total : (unsigned (rounds.map (·.result)) : Int) =
    unsigned (rounds.map (·.left)) - unsigned (rounds.map (·.right)) - (1 - c.toNat) +
      (1 - last.carry.toNat) * 256 ^ rounds.length
  overflow : last.registers.status.get .overflow = true ↔
    ¬ Fits rounds.length
      (signed (rounds.map (·.left)) - signed (rounds.map (·.right)) - (1 - c.toNat))

theorem longDifference_of_adds (nonempty : rounds ≠ []) (linked : Linked c rounds)
    (adds : ∀ r ∈ rounds, r.Adds (~~~r.right)) :
    LongDifference c rounds (rounds.getLast nonempty).finish := by
  have sum := sum_of_adds (f := (~~~·)) nonempty linked adds
  have overflow := overflow_of_adds (f := (~~~·)) nonempty linked adds
  have complements : rounds.map (~~~·.right) = (rounds.map (·.right)).map (~~~·) :=
    (List.map_map ..).symm
  have turned := unsigned_complement (rounds.map (·.right))
  have nonempty_right : rounds.map (·.right) ≠ [] := by simpa using nonempty
  have signs := signed_complement nonempty_right
  rw [List.length_map] at turned
  rw [complements] at sum overflow
  rw [signs] at overflow
  constructor
  · zify at sum turned
    rw [Int.sub_mul, Int.one_mul]
    omega
  · have regroup : signed (rounds.map (·.left)) - signed (rounds.map (·.right)) - (1 - c.toNat) =
        signed (rounds.map (·.left)) + (-1 - signed (rounds.map (·.right))) + c.toNat := by
      omega
    rw [regroup]
    exact overflow

/-- **Numbers of any length are added and subtracted byte by byte**, by LDA and ADC or LDA and SBC from
the lowest byte up, in whatever addressing modes and with the decimal flag on or off. None of the
instructions fails. -/
theorem long_addition_and_subtraction (nonempty : rounds ≠ []) (linked : Linked c rounds) :
    ((∀ r ∈ rounds, r.Performs .adc) →
      (∀ r ∈ rounds, r.Succeeds) ∧ LongSum c rounds (rounds.getLast nonempty).finish) ∧
    ((∀ r ∈ rounds, r.Performs .sbc) →
      (∀ r ∈ rounds, r.Succeeds) ∧ LongDifference c rounds (rounds.getLast nonempty).finish) := by
  constructor
  · intro performs
    have adds := fun r among => Round.adds_of_adc (performs r among)
    have sum := sum_of_adds (f := id) nonempty linked fun r among => (adds r among).2
    have overflow := overflow_of_adds (f := id) nonempty linked fun r among => (adds r among).2
    exact ⟨fun r among => (adds r among).1, sum, overflow⟩
  · intro performs
    have adds := fun r among => Round.adds_of_sbc (performs r among)
    exact ⟨fun r among => (adds r among).1,
      longDifference_of_adds nonempty linked fun r among => (adds r among).2⟩

/-- In plain memory, LDA and ADC with the operands behind their opcodes make a round. -/
theorem performs_of_immediate {r : Round FlatMemory} {m : FlatMemory} {p : UInt16}
    (memory : r.start.memory = m) (pc : r.start.registers.pc = p)
    (running : r.start.core.halted = false)
    (program : [m.peek p, m.peek (p + 1), m.peek (p + 2), m.peek (p + 2 + 1)] =
      [0xA9, r.left, 0x69, r.right]) :
    r.Performs .adc ∧ r.finish.registers.pc = p + 2 + 2 ∧ r.finish.memory = m ∧
      r.finish.core.halted = false := by
  simp only [List.cons.injEq, and_true] at program
  obtain ⟨opcode, operand, opcode', operand'⟩ := program
  obtain ⟨read, running, memory', pc'⟩ := Machine.reads_of_immediate (s := r.start) (m := .lda)
    (f := fun v r => r.loadA v) rfl (fun _ _ => rfl) running
    (by rw [Machine.nextOpcode_flat, memory, pc, opcode]; decide)
  rw [memory, pc, operand] at read
  rw [memory] at memory'
  rw [pc] at pc'
  obtain ⟨read', running, memory'', pc''⟩ := Machine.reads_of_immediate (s := r.loaded) (m := .adc)
    (f := fun v r => r.accumulate (Arithmetic.add r.status r.a v)) rfl (fun _ _ => rfl) running
    (by rw [Machine.nextOpcode_flat, Round.loaded, memory', pc', opcode']; decide)
  rw [Round.loaded, memory', pc', operand'] at read'
  rw [Round.loaded, memory'] at memory''
  rw [Round.loaded, pc'] at pc''
  exact ⟨⟨read, read'⟩, pc'', memory'', running⟩

/-- Two rounds in plain memory: `$69C9 + $6969` is `$D332`, which is negative as a signed number. The low
bytes hand a carry to the high ones. -/
theorem long_addition_of_two_bytes :
    let m : FlatMemory :=
      (((⟨Bytes.fill 0x69⟩ : FlatMemory).poke 0 0xA9).poke 1 0xC9).poke 4 0xA9
    let s : Machine FlatMemory := ⟨.initial, m⟩
    let low : Round FlatMemory := ⟨s, 0xC9, 0x69⟩
    let high : Round FlatMemory := ⟨low.finish, 0x69, 0x69⟩
    low.finish.carry = true ∧
      unsigned [low.result, high.result] + high.finish.carry.toNat * 256 ^ 2 = 0xD332 ∧
      high.finish.registers.status.get .overflow = true := by
  intro m s low high
  have byte (a : UInt16) : m.peek a =
      if 4 = a then 0xA9 else if 1 = a then 0xC9 else if 0 = a then 0xA9 else 0x69 := by
    rw [FlatMemory.peek_poke, FlatMemory.peek_poke, FlatMemory.peek_poke, FlatMemory.peek_fill]
  have next : high.start = low.finish := by dsimp only [high]
  obtain ⟨performs, pc, memory, running⟩ := performs_of_immediate (r := low) (m := m) (p := 0)
    rfl rfl rfl (by simp [byte, low])
  rw [← next] at pc memory running
  obtain ⟨performs', -⟩ := performs_of_immediate (p := 4) memory (pc.trans (by decide)) running
    (by simp [byte, high])
  have linked : Linked s.carry [low, high] := linked_consecutive s [(0xC9, 0x69), (0x69, 0x69)]
  have off : s.carry = false := by decide
  rw [off] at linked
  obtain ⟨-, total, overflow⟩ := (long_addition_and_subtraction (by simp) linked).1
    (by simp [performs, performs'])
  have lowSum : low.result.toNat + 256 * low.finish.carry.toNat = 0x132 :=
    (Round.adds_of_adc performs).2.sum.trans (by decide)
  refine ⟨?_, total.trans (by decide), overflow.mpr ?_⟩
  · have small : low.result.toNat < 256 := low.result.toNat_lt
    cases carry : low.finish.carry
    · rw [carry, Bool.toNat_false] at lowSum
      omega
    · rfl
  · rw [fits_iff]
    decide

end

end Famicom.Processor

import Famicom.Proofs.Processor.Carry
import Famicom.Proofs.Processor.Operand
import Famicom.Proofs.Processor.Retracing

/-!
# Shifts and rotations of long numbers

A program shifts a number of several cells by shifting the cell at one end and rotating the others, one
after another, towards the other end. The bit that leaves a cell waits in the carry for the next one.

* `Machine.Processes`: instructions carried out in order, each on its cell.
* `Machine.of_chain`: what holds of one instruction and a chain behind it holds of every chain.
* `Machine.Doubled`, `Machine.Halved`: what a chain of shifts does to the number.
* `Machine.long_shifts_and_rotations`: the number, the carry, and that the rotations undo each other.
-/

namespace Famicom.Processor.Machine

open LongNumber

/-- The number in the cells, lowest cell first. -/
def numberAt (s : Machine FlatMemory) (cells : List UInt16) : Nat :=
  unsigned (cells.map s.memory.peek)

/-- The carry and the cells are the same in both machines. -/
structure Untouched (cells : List UInt16) (s t : Machine FlatMemory) : Prop where
  carry : t.carry = s.carry
  bytes : ∀ a ∈ cells, t.memory.peek a = s.memory.peek a

/-- The instructions are carried out in this order from `s` on, each on its cell; `run` holds the results
of their steps and the machine afterwards. In between the program may do whatever leaves the carry and
the cells alone. -/
inductive Processes (cells : List UInt16) :
    Machine FlatMemory → List (Mnemonic × UInt16) →
      List (Except Fault Nat) × Machine FlatMemory → Prop
  | done {s u : Machine FlatMemory} (between : Untouched cells s u) : Processes cells s [] ([], u)
  | next {s t : Machine FlatMemory} {m : Mnemonic} {a : UInt16} {ops : List (Mnemonic × UInt16)}
      {run : List (Except Fault Nat) × Machine FlatMemory} (between : Untouched cells s t)
      (works : t.WorksOn m a) (rest : Processes cells t.step.2 ops run) :
      Processes cells s ((m, a) :: ops) (t.step.1 :: run.1, run.2)

/-- The next instructions work on these cells, one after another and with nothing in between. -/
def InOrder (s : Machine FlatMemory) : List (Mnemonic × UInt16) → Prop
  | [] => True
  | (m, a) :: ops => s.WorksOn m a ∧ s.step.2.InOrder ops

theorem processes_steps (cells : List UInt16) {s : Machine FlatMemory}
    {ops : List (Mnemonic × UInt16)} (order : s.InOrder ops) :
    Processes cells s ops (s.steps ops.length) := by
  induction ops generalizing s with
  | nil => exact .done ⟨rfl, fun _ _ => rfl⟩
  | cons op ops ih =>
    obtain ⟨works, order⟩ := order
    exact .next ⟨rfl, fun _ _ => rfl⟩ works (ih order)

/-- One instruction on the first cell and another one on each of the next cells. -/
def chain (first later : Mnemonic) : List UInt16 → List (Mnemonic × UInt16)
  | [] => []
  | a :: rest => (first, a) :: rest.map (later, ·)

/-! ## One instruction -/

/-- The bit that enters: rotations take the carry. -/
def entering : Mnemonic → Bool → Nat
  | .rol, c | .ror, c => c.toNat
  | _, _ => 0

/-- A step on the cell `a` has succeeded and changed no other cell. -/
structure Confined (s : Machine FlatMemory) (a : UInt16) : Prop where
  succeeds : ∃ cycles, s.step.1 = .ok cycles
  others : ∀ b, b ≠ a → s.step.2.memory.peek b = s.memory.peek b

theorem confined_of_worksOn {s : Machine FlatMemory} {m : Mnemonic} {a : UInt16}
    {f : Status → UInt8 → UInt8 × Status} (action : m.action = .modify f)
    (works : s.WorksOn m a) :
    let result := f s.registers.status (s.memory.peek a)
    s.Confined a ∧ s.step.2.memory.peek a = result.1 ∧ s.step.2.carry = result.2.get .carry := by
  obtain ⟨succeeds, memory, pc, registers⟩ := step_of_worksOn action works
  refine ⟨⟨succeeds, fun b other => ?_⟩, ?_, ?_⟩
  · rw [memory, FlatMemory.peek_poke, if_neg other.symm]
  · rw [memory, FlatMemory.peek_poke, if_pos rfl]
  · rw [carry, registers]

theorem left_of_worksOn {s : Machine FlatMemory} {m : Mnemonic} {a : UInt16}
    (left : m = .asl ∨ m = .rol) (works : s.WorksOn m a) :
    s.Confined a ∧ (s.step.2.memory.peek a).toNat + 256 * s.step.2.carry.toNat =
      2 * (s.memory.peek a).toNat + entering m s.carry := by
  rcases left with rfl | rfl
  · obtain ⟨confined, byte, carry⟩ := confined_of_worksOn (f := Arithmetic.shiftLeft) rfl works
    rw [byte, carry]
    exact ⟨confined, Arithmetic.sum_shiftLeft _ _⟩
  · obtain ⟨confined, byte, carry⟩ := confined_of_worksOn (f := Arithmetic.rotateLeft) rfl works
    rw [byte, carry]
    exact ⟨confined, Arithmetic.sum_rotateLeft _ _⟩

theorem right_of_worksOn {s : Machine FlatMemory} {m : Mnemonic} {a : UInt16}
    (right : m = .lsr ∨ m = .ror) (works : s.WorksOn m a) :
    s.Confined a ∧ 2 * (s.step.2.memory.peek a).toNat + s.step.2.carry.toNat =
      (s.memory.peek a).toNat + 256 * entering m s.carry := by
  rcases right with rfl | rfl
  · obtain ⟨confined, byte, carry⟩ := confined_of_worksOn (f := Arithmetic.shiftRight) rfl works
    rw [byte, carry]
    exact ⟨confined, Arithmetic.sum_shiftRight _ _⟩
  · obtain ⟨confined, byte, carry⟩ := confined_of_worksOn (f := Arithmetic.rotateRight) rfl works
    rw [byte, carry]
    exact ⟨confined, Arithmetic.sum_rotateRight _ _⟩

/-! ## A chain of instructions -/

variable {cells todo : List UInt16} {s : Machine FlatMemory} {first : Mnemonic}
  {run : List (Except Fault Nat) × Machine FlatMemory}

/-- The instructions have succeeded and changed none of the cells but those that they were to work on. -/
structure Done (cells todo : List UInt16) (s : Machine FlatMemory)
    (run : List (Except Fault Nat) × Machine FlatMemory) : Prop where
  succeeds : ∀ r ∈ run.1, ∃ cycles, r = .ok cycles
  others : ∀ a ∈ cells, a ∉ todo → run.2.memory.peek a = s.memory.peek a

theorem numberAt_congr {s t : Machine FlatMemory}
    (same : ∀ a ∈ cells, t.memory.peek a = s.memory.peek a) : t.numberAt cells = s.numberAt cells :=
  congrArg unsigned (List.map_congr_left same)

theorem Untouched.numberAt {s t : Machine FlatMemory} (untouched : Untouched cells s t)
    (inside : todo ⊆ cells) : t.numberAt todo = s.numberAt todo :=
  numberAt_congr fun a among => untouched.bytes a (inside among)

theorem done_nil {u : Machine FlatMemory} (between : Untouched cells s u) :
    Done cells [] s ([], u) where
  succeeds := List.forall_mem_nil _
  others a among _ := between.bytes a among

section

variable {t : Machine FlatMemory} {a : UInt16} {rest : List UInt16}
  (between : Untouched cells s t) (confined : t.Confined a)

include between confined

/-- An instruction on the cell `a` has gone before. -/
theorem done_cons (done : Done cells rest t.step.2 run) :
    Done cells (a :: rest) s (t.step.1 :: run.1, run.2) where
  succeeds := List.forall_mem_cons.mpr ⟨confined.succeeds, done.succeeds⟩
  others b among other := by
    obtain ⟨outside, outside'⟩ : b ≠ a ∧ b ∉ rest := by simpa using other
    rw [done.others b among outside', confined.others b outside, between.bytes b among]

theorem numberAt_of_confined (fresh : a ∉ todo) (inside : todo ⊆ cells) :
    t.step.2.numberAt todo = s.numberAt todo :=
  (numberAt_congr fun _ more => confined.others _ (ne_of_mem_of_not_mem more fresh)).trans
    (between.numberAt inside)

end

section

variable {P : List UInt16 → Machine FlatMemory → Nat →
    List (Except Fault Nat) × Machine FlatMemory → Prop}
  {starts : Mnemonic → Prop} {later : Mnemonic}
  (nil : ∀ {s u}, Untouched cells s u → P [] s s.carry.toNat ([], u))
  (cons : ∀ {m s t a rest run}, starts m → Untouched cells s t → t.WorksOn m a → (a :: rest).Nodup →
    a :: rest ⊆ cells → P rest t.step.2 t.step.2.carry.toNat run →
    P (a :: rest) s (entering m s.carry) (t.step.1 :: run.1, run.2))
  (rotates : starts later) (enters : entering later = Bool.toNat)

include nil cons rotates enters

/-- By induction on the cells that are left; the carry is handed on from one to the next. -/
theorem of_rotations (distinct : todo.Nodup) (inside : todo ⊆ cells)
    (processes : Processes cells s (todo.map (later, ·)) run) : P todo s s.carry.toNat run := by
  induction todo generalizing s run with
  | nil =>
    cases processes with
    | done between => exact nil between
  | cons a rest ih =>
    cases processes with
    | next between works processes =>
      have handed := ih distinct.of_cons (List.subset_of_cons_subset inside) processes
      rw [← enters]
      exact cons rotates between works distinct inside handed

theorem of_chain (begins : starts first) (nonempty : todo ≠ []) (distinct : todo.Nodup)
    (inside : todo ⊆ cells) (processes : Processes cells s (chain first later todo) run) :
    P todo s (entering first s.carry) run := by
  cases todo with
  | nil => exact absurd rfl nonempty
  | cons a rest =>
    cases processes with
    | next between works processes =>
      have handed := of_rotations nil cons rotates enters distinct.of_cons
        (List.subset_of_cons_subset inside) processes
      exact cons begins between works distinct inside handed

end

/-! ## From the lowest cell up -/

/-- The number has been doubled, `enter` has come in at the bottom, and what has left at the top is in
the carry. -/
structure Doubled (cells todo : List UInt16) (s : Machine FlatMemory) (enter : Nat)
    (run : List (Except Fault Nat) × Machine FlatMemory) : Prop extends Done cells todo s run where
  number : run.2.numberAt todo + 256 ^ todo.length * run.2.carry.toNat =
    2 * s.numberAt todo + enter

theorem doubled_nil {u : Machine FlatMemory} (between : Untouched cells s u) :
    Doubled cells [] s s.carry.toNat ([], u) where
  toDone := done_nil between
  number := by simp [numberAt, between.carry]

/-- The lowest cell hands its top bit on to the others. -/
theorem doubled_cons {t : Machine FlatMemory} {a : UInt16} {rest : List UInt16}
    (left : first = .asl ∨ first = .rol) (between : Untouched cells s t) (works : t.WorksOn first a)
    (distinct : (a :: rest).Nodup) (inside : a :: rest ⊆ cells)
    (later : Doubled cells rest t.step.2 t.step.2.carry.toNat run) :
    Doubled cells (a :: rest) s (entering first s.carry) (t.step.1 :: run.1, run.2) := by
  obtain ⟨fresh, -⟩ := List.nodup_cons.mp distinct
  obtain ⟨among, inside⟩ := List.cons_subset.mp inside
  obtain ⟨confined, shifted⟩ := left_of_worksOn left works
  have number := later.number
  rw [numberAt_of_confined between confined fresh inside] at number
  rw [between.bytes a among, between.carry] at shifted
  refine ⟨done_cons between confined later.toDone, ?_⟩
  simp only [numberAt, List.map_cons, unsigned_cons, List.length_cons, Nat.pow_succ,
    later.others a among fresh] at number ⊢
  rw [Nat.mul_right_comm]
  omega

theorem doubled_of_chain (left : first = .asl ∨ first = .rol) (nonempty : todo ≠ [])
    (distinct : todo.Nodup) (inside : todo ⊆ cells)
    (processes : Processes cells s (chain first .rol todo) run) :
    Doubled cells todo s (entering first s.carry) run :=
  of_chain (P := Doubled cells) doubled_nil doubled_cons (.inr rfl) rfl left nonempty distinct
    inside processes

/-! ## From the highest cell down -/

/-- The number has been halved, `enter` has come in at the top, and what has left at the bottom is in the
carry. The cells are listed from the highest one down. -/
structure Halved (cells todo : List UInt16) (s : Machine FlatMemory) (enter : Nat)
    (run : List (Except Fault Nat) × Machine FlatMemory) : Prop extends Done cells todo s run where
  number : 2 * run.2.numberAt todo.reverse + run.2.carry.toNat =
    s.numberAt todo.reverse + 256 ^ todo.length * enter

theorem halved_nil {u : Machine FlatMemory} (between : Untouched cells s u) :
    Halved cells [] s s.carry.toNat ([], u) where
  toDone := done_nil between
  number := by simp [numberAt, between.carry]

/-- The highest cell hands its lowest bit on to the others. -/
theorem halved_cons {t : Machine FlatMemory} {a : UInt16} {rest : List UInt16}
    (right : first = .lsr ∨ first = .ror) (between : Untouched cells s t)
    (works : t.WorksOn first a) (distinct : (a :: rest).Nodup) (inside : a :: rest ⊆ cells)
    (later : Halved cells rest t.step.2 t.step.2.carry.toNat run) :
    Halved cells (a :: rest) s (entering first s.carry) (t.step.1 :: run.1, run.2) := by
  obtain ⟨fresh, -⟩ := List.nodup_cons.mp distinct
  obtain ⟨among, inside⟩ := List.cons_subset.mp inside
  obtain ⟨confined, shifted⟩ := right_of_worksOn right works
  have number := later.number
  rw [numberAt_of_confined between confined (by simpa using fresh)
    (List.reverse_subset.mpr inside)] at number
  rw [between.bytes a among, between.carry] at shifted
  refine ⟨done_cons between confined later.toDone, ?_⟩
  have weighted := congrArg (256 ^ rest.length * ·) shifted
  simp only [numberAt, List.reverse_cons, List.map_append, List.map_singleton,
    unsigned_append_singleton, List.length_map, List.length_reverse, List.length_cons, Nat.pow_succ,
    later.others a among fresh, Nat.mul_add] at number weighted ⊢
  rw [Nat.mul_left_comm, ← Nat.mul_assoc (256 ^ rest.length) 256] at weighted
  omega

theorem halved_of_chain (right : first = .lsr ∨ first = .ror) (nonempty : todo ≠ [])
    (distinct : todo.Nodup) (inside : todo ⊆ cells)
    (processes : Processes cells s (chain first .ror todo) run) :
    Halved cells todo s (entering first s.carry) run :=
  of_chain (P := Halved cells) halved_nil halved_cons (.inr rfl) rfl right nonempty distinct inside
    processes

/-! ## The whole number -/

/-- No instruction has failed, the cells hold `n` and the carry is `out`. -/
structure Leaves (cells : List UInt16) (run : List (Except Fault Nat) × Machine FlatMemory)
    (n out : Nat) : Prop where
  succeeds : ∀ r ∈ run.1, ∃ cycles, r = .ok cycles
  number : run.2.numberAt cells = n
  carry : run.2.carry.toNat = out

theorem numberAt_lt (s : Machine FlatMemory) (cells : List UInt16) :
    s.numberAt cells < 256 ^ cells.length := by
  have bound := unsigned_lt (cells.map s.memory.peek)
  rwa [List.length_map] at bound

theorem leaves_of_doubled {enter : Nat} (doubled : Doubled cells cells s enter run) :
    Leaves cells run ((2 * s.numberAt cells + enter) % 256 ^ cells.length)
      ((2 * s.numberAt cells + enter) / 256 ^ cells.length) := by
  have small := run.2.numberAt_lt cells
  refine ⟨doubled.succeeds, ?_, ?_⟩
  · rw [← doubled.number, Nat.add_mul_mod_self_left, Nat.mod_eq_of_lt small]
  · rw [← doubled.number, Nat.add_mul_div_left _ _ (by positivity), Nat.div_eq_of_lt small,
      Nat.zero_add]

theorem leaves_of_halved {enter : Nat} (nonempty : cells ≠ [])
    (halved : Halved cells cells.reverse s enter run) :
    Leaves cells run ((s.numberAt cells + 256 ^ cells.length * enter) / 2)
      (s.numberAt cells % 2) := by
  obtain ⟨half, even⟩ := even_forms (n := cells.length) (by simpa using nonempty)
  have small := run.2.carry.toNat_le
  have number := halved.number
  rw [List.reverse_reverse, List.length_reverse, even, Nat.mul_assoc] at number
  rw [even, Nat.mul_assoc]
  exact ⟨halved.succeeds, by omega, by omega⟩

/-- A run of two parts has a machine between them. -/
theorem processes_append {ops ops' : List (Mnemonic × UInt16)}
    (processes : Processes cells s (ops ++ ops') run) :
    ∃ first second, Processes cells s ops first ∧ Processes cells first.2 ops' second ∧
      run = (first.1 ++ second.1, second.2) := by
  induction ops generalizing s run with
  | nil => exact ⟨([], s), run, .done ⟨rfl, fun _ _ => rfl⟩, processes, rfl⟩
  | cons op ops ih =>
    cases processes with
    | next between works processes =>
      obtain ⟨first, second, part, part', rfl⟩ := ih processes
      exact ⟨_, second, .next between works part, part', rfl⟩

/-- Doubling and halving in turn gives back the cells and the carry. -/
theorem untouched_of_doubled_halved {run' : List (Except Fault Nat) × Machine FlatMemory}
    (doubled : Doubled cells cells s s.carry.toNat run)
    (halved : Halved cells cells.reverse run.2 run.2.carry.toNat run') :
    Untouched cells s run'.2 := by
  have bit : ∀ b b' : Bool, b.toNat = b'.toNat → b = b' := by decide
  have number := halved.number
  rw [List.reverse_reverse, List.length_reverse, doubled.number] at number
  have small := s.carry.toNat_le
  have small' := run'.2.carry.toNat_le
  have bytes : cells.map run'.2.memory.peek = cells.map s.memory.peek :=
    unsigned_injective (by simp) (show run'.2.numberAt cells = s.numberAt cells by omega)
  exact ⟨bit _ _ (by omega), List.map_inj_left.mp bytes⟩

/-- **Numbers of any length are shifted and rotated cell by cell.** ASL on the lowest cell and ROL on each
next one doubles the number, LSR on the highest cell and ROR on each next lower one halves it, and the
bit that is lost is in the carry. With a rotation at the first cell the old carry comes in there. Rotating
up and then down again restores the cells and the carry. None of the instructions fails. -/
theorem long_shifts_and_rotations (nonempty : cells ≠ []) (distinct : cells.Nodup)
    (s : Machine FlatMemory) (run : List (Except Fault Nat) × Machine FlatMemory) :
    let n := s.numberAt cells
    let c := s.carry.toNat
    let forms := 256 ^ cells.length
    (Processes cells s (chain .asl .rol cells) run →
        Leaves cells run (2 * n % forms) (2 * n / forms)) ∧
      (Processes cells s (chain .lsr .ror cells.reverse) run →
        Leaves cells run (n / 2) (n % 2)) ∧
      (Processes cells s (chain .rol .rol cells) run →
        Leaves cells run ((2 * n + c) % forms) ((2 * n + c) / forms)) ∧
      (Processes cells s (chain .ror .ror cells.reverse) run →
        Leaves cells run ((n + forms * c) / 2) (n % 2)) ∧
      (Processes cells s (chain .rol .rol cells ++ chain .ror .ror cells.reverse) run →
        (∀ r ∈ run.1, ∃ cycles, r = .ok cycles) ∧ Untouched cells s run.2) := by
  intro n c forms
  have nonempty' : cells.reverse ≠ [] := by simpa using nonempty
  have distinct' : cells.reverse.Nodup := List.nodup_reverse.mpr distinct
  have down : cells.reverse ⊆ cells := List.reverse_subset.mpr (List.Subset.refl _)
  refine ⟨fun processes => ?_, fun processes => ?_, fun processes => ?_, fun processes => ?_,
    fun processes => ?_⟩
  · exact leaves_of_doubled (doubled_of_chain (.inl rfl) nonempty distinct (.refl _) processes)
  · exact leaves_of_halved nonempty (halved_of_chain (.inl rfl) nonempty' distinct' down processes)
  · exact leaves_of_doubled (doubled_of_chain (.inr rfl) nonempty distinct (.refl _) processes)
  · exact leaves_of_halved nonempty (halved_of_chain (.inr rfl) nonempty' distinct' down processes)
  · obtain ⟨first, second, up, back, rfl⟩ := processes_append processes
    have doubled := doubled_of_chain (.inr rfl) nonempty distinct (.refl _) up
    have halved := halved_of_chain (.inr rfl) nonempty' distinct' down back
    have untouched : Untouched cells s second.2 := untouched_of_doubled_halved doubled halved
    exact ⟨List.forall_mem_append.mpr ⟨doubled.succeeds, halved.succeeds⟩, untouched⟩

/-- ASL `$06` and ROL `$07` from `$8000` on: the bit that leaves the one cell enters the other. -/
theorem long_shift_of_two_cells :
    let m : FlatMemory :=
      (((⟨Bytes.fill 0x06⟩ : FlatMemory).poke 0x8002 0x26).poke 0x8003 0x07).poke 0x0006 0x86
    let s : Machine FlatMemory :=
      ⟨{ Core.initial with registers := { Registers.initial with pc := 0x8000 } }, m⟩
    s.numberAt [0x0006, 0x0007] = 0x0686 ∧
      Leaves [0x0006, 0x0007] (s.steps 2) 0x0D0C 0 := by
  intro m s
  have byte (a : UInt16) : m.peek a = if 0x0006 = a then 0x86 else if 0x8003 = a then 0x07
      else if 0x8002 = a then 0x26 else 0x06 := by
    simp only [m, FlatMemory.peek_poke, FlatMemory.peek_fill]
  have number : s.numberAt [0x0006, 0x0007] = 0x0686 := by
    change unsigned [m.peek 0x0006, m.peek 0x0007] = _
    rw [byte, byte]
    decide
  obtain ⟨low, running, pc⟩ := worksOn_of_zeroPage (s := s) (m := .asl)
    (f := Arithmetic.shiftLeft) rfl rfl
    (by rw [nextOpcode_flat]; change (_, m.peek 0x8000) ∈ _; rw [byte]; decide)
  have cell : (s.memory.peek (s.registers.pc + 1)).toUInt16 = 0x0006 := by
    change (m.peek (0x8000 + 1)).toUInt16 = _
    rw [byte]
    decide
  rw [cell] at low
  -- The first instruction leaves the second one and its operand as they were.
  obtain ⟨⟨-, others⟩, -⟩ := left_of_worksOn (.inl rfl) low
  have pc : s.step.2.registers.pc = 0x8002 := pc.trans (by decide)
  obtain ⟨high, -⟩ := worksOn_of_zeroPage (s := s.step.2) (m := .rol)
    (f := Arithmetic.rotateLeft) rfl running (by
      rw [nextOpcode_flat, pc, others _ (by decide)]
      change (_, m.peek 0x8002) ∈ _
      rw [byte]
      decide)
  have cell' : (s.step.2.memory.peek (s.step.2.registers.pc + 1)).toUInt16 = 0x0007 := by
    rw [pc, others _ (by decide)]
    change (m.peek (0x8002 + 1)).toUInt16 = _
    rw [byte]
    decide
  rw [cell'] at high
  have order : s.InOrder (chain .asl .rol [0x0006, 0x0007]) := ⟨low, high, trivial⟩
  have distinct : ([0x0006, 0x0007] : List UInt16).Nodup := by decide
  have leaves := (long_shifts_and_rotations (List.cons_ne_nil _ _) distinct s (s.steps 2)).1
    (processes_steps _ order)
  rw [number] at leaves
  exact ⟨number, leaves⟩

end Famicom.Processor.Machine

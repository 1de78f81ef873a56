import Mathlib.Data.List.Induction
import Famicom.Proofs.Processor.Recording
import Famicom.Proofs.Processor.StackPage

/-!
# The stack is last in, first out

Pulling returns what was pushed, the last byte first. The stack pointer is a byte and wraps around, so
the stack is a ring of 256 cells: of a longer list the last 256 bytes are left.

* `Machine.pushAll`, `Machine.pullAll`: any number of pushes and of pulls.
* `StackStorage`: the address spaces in which the stack lies in one block of storage, with instances for
  `FlatMemory` and `Bus`.
* `Machine.top_push`: a pushed byte goes before the bytes that are on the stack already.
* `Machine.last_in_first_out`: what is pulled, and all that the pushes and the pulls change.
-/

namespace Famicom.Processor

/-! ## Places on the ring -/

/-- The stack pointer at the `i`-th byte from the top. -/
def above (sp : UInt8) (i : Nat) : UInt8 := sp + 1 + UInt8.ofNat i

/-- The stack pointer after `i` pushes. -/
def below (sp : UInt8) (i : Nat) : UInt8 := sp - UInt8.ofNat i

section

variable (sp : UInt8) (i : Nat)

theorem ofNat_succ : UInt8.ofNat (i + 1) = UInt8.ofNat i + 1 := UInt8.ofNat_add i 1

@[simp] theorem above_zero : above sp 0 = sp + 1 := UInt8.add_zero _

theorem above_succ : above sp (i + 1) = above (sp + 1) i := by
  rw [above, above, ofNat_succ]
  grind

@[simp] theorem below_zero : below sp 0 = sp := UInt8.sub_zero sp

theorem below_succ : below sp (i + 1) = below (sp - 1) i := by
  rw [below, below, ofNat_succ]
  grind

/-- It takes a whole round to come back to the stack pointer. -/
theorem above_ne {i : Nat} (short : i < 255) : above sp i ≠ sp := by
  intro same
  have places := congrArg UInt8.toNat same
  have small := sp.toNat_lt
  rw [above, UInt8.toNat_add, UInt8.toNat_add, UInt8.toNat_ofNat'] at places
  change ((sp.toNat + 1) % 256 + i % 256) % 256 = sp.toNat at places
  omega

end

/-! ## The storage of the stack -/

/-- An address space with a block of storage in which the stack lies. Using the stack shows nowhere
else. -/
class StackStorage (M : Type) [AddressSpace M] extends StackPage M where
  storage : M → Bytes 65536
  withStorage : M → Bytes 65536 → M
  storage_withStorage (m : M) (b : Bytes 65536) : storage (withStorage m b) = b
  withStorage_storage (m : M) : withStorage m (storage m) = m
  withStorage_withStorage (m : M) (b c : Bytes 65536) :
    withStorage (withStorage m b) c = withStorage m c
  read_stack (m : M) (sp : UInt8) :
    AddressSpace.read m (stackAddress sp) = ((storage m).get (cell (stackAddress sp)), m)
  write_stack (m : M) (sp v : UInt8) :
    AddressSpace.write m (stackAddress sp) v =
      withStorage m ((storage m).set (cell (stackAddress sp)) v)

instance : StackStorage FlatMemory where
  storage := FlatMemory.bytes
  withStorage _ b := ⟨b⟩
  storage_withStorage _ _ := rfl
  withStorage_storage _ := rfl
  withStorage_withStorage _ _ _ := rfl
  read_stack _ _ := rfl
  write_stack _ _ _ := rfl

instance : StackStorage Bus where
  storage := Bus.storage
  withStorage b storage := { b with storage := storage }
  storage_withStorage _ _ := rfl
  withStorage_storage _ := rfl
  withStorage_withStorage _ _ _ := rfl
  read_stack b sp := by
    change b.read (stackAddress sp) = _
    rw [Bus.read_of_storage b (by simp [Bus.region_stackAddress]), Bus.peek,
      Bus.fold_stackAddress]
  write_stack b sp v := b.write_stackAddress sp v

/-- The address that an access is made to. -/
def Access.address : Access → UInt16
  | .read address _ => address
  | .write address _ => address

/-- The processor with another stack pointer. -/
def Core.withSP (c : Core) (sp : UInt8) : Core :=
  { c with registers := { c.registers with sp := sp } }

namespace Machine

section

variable {M : Type} [AddressSpace M]

/-- The machine with a list of bytes pushed, the first byte first. -/
def pushAll (s : Machine M) (bs : List UInt8) : Machine M := bs.foldl push s

/-- Pulls `k` bytes. The byte that is pulled first comes first. -/
def pullAll (s : Machine M) (k : Nat) : List UInt8 × Machine M :=
  match k with
  | 0 => ([], s)
  | k + 1 => (s.pull.1 :: (s.pull.2.pullAll k).1, (s.pull.2.pullAll k).2)

theorem pushAll_cons (s : Machine M) (b : UInt8) (bs : List UInt8) :
    s.pushAll (b :: bs) = (s.push b).pushAll bs := rfl

theorem pushAll_concat (s : Machine M) (bs : List UInt8) (b : UInt8) :
    s.pushAll (bs ++ [b]) = (s.pushAll bs).push b := by
  simp only [pushAll, List.foldl_append, List.foldl_cons, List.foldl_nil]

/-! ## The stack pointer -/

theorem core_pushAll (s : Machine M) (bs : List UInt8) :
    (s.pushAll bs).core = s.core.withSP (below s.registers.sp bs.length) := by
  induction bs generalizing s with
  | nil =>
    rw [List.length_nil, below_zero]
    rfl
  | cons b bs ih =>
    rw [pushAll_cons, ih, registers_push, List.length_cons, below_succ]
    rfl

theorem core_pullAll (s : Machine M) (k : Nat) :
    (s.pullAll k).2.core = s.core.withSP (s.registers.sp + UInt8.ofNat k) := by
  induction k generalizing s with
  | zero =>
    rw [show UInt8.ofNat 0 = 0 from rfl, UInt8.add_zero]
    rfl
  | succ k ih =>
    have sum : s.registers.sp + UInt8.ofNat (k + 1) = s.registers.sp + 1 + UInt8.ofNat k := by
      rw [ofNat_succ]
      grind
    rw [pullAll, ih, registers_pull, sum]
    rfl

/-- Pulling as many bytes as were pushed puts the stack pointer back. -/
theorem core_pullAll_pushAll (s : Machine M) (bs : List UInt8) :
    ((s.pushAll bs).pullAll bs.length).2.core = s.core := by
  have pushed := core_pushAll s bs
  have sp : (s.pushAll bs).registers.sp = below s.registers.sp bs.length :=
    congrArg (fun c : Core => c.registers.sp) pushed
  rw [core_pullAll, sp, below, UInt8.sub_add_cancel, pushed]
  rfl

/-! ## Accesses -/

section

variable {N : Type} [AddressSpace N] (f : M → N) [Transparent f]

theorem pushAll_along (s : Machine M) (bs : List UInt8) :
    (s.along f).pushAll bs = (s.pushAll bs).along f := by
  induction bs generalizing s with
  | nil => rfl
  | cons b bs ih => rw [pushAll_cons, push_along, ih, pushAll_cons]

theorem pullAll_along (s : Machine M) (k : Nat) :
    (s.along f).pullAll k = ((s.pullAll k).1, (s.pullAll k).2.along f) := by
  induction k generalizing s with
  | zero => rfl
  | succ k ih => simp only [pullAll, pull_along, ih]

end

theorem Kept.pushAll {m : M} {s : Machine (Recorded M)} (kept : Kept m s) (bs : List UInt8) :
    Kept m (s.pushAll bs) := by
  induction bs generalizing s with
  | nil => exact kept
  | cons b bs ih => exact ih (kept.push b)

theorem Kept.pullAll {m : M} {s : Machine (Recorded M)} (kept : Kept m s) (k : Nat) :
    Kept m (s.pullAll k).2 := by
  induction k generalizing s with
  | zero => exact kept
  | succ k ih => exact ih kept.pull

/-- The accesses so far were made to page one. -/
def InPageOne (s : Machine (Recorded M)) : Prop :=
  ∀ access ∈ s.log, 0x0100 ≤ access.address ∧ access.address ≤ 0x01FF

namespace InPageOne

variable {s : Machine (Recorded M)}

omit [AddressSpace M] in
theorem snoc {t : Machine (Recorded M)} {access : Access} {sp : UInt8} (inPageOne : s.InPageOne)
    (log : t.log = s.log ++ [access]) (place : access.address = stackAddress sp) :
    t.InPageOne := by
  intro access among
  rw [log, List.mem_append, List.mem_singleton] at among
  rcases among with early | rfl
  · exact inPageOne access early
  · have small := sp.toNat_lt
    rw [place, UInt16.le_iff_toNat_le, UInt16.le_iff_toNat_le, toNat_stackAddress]
    change 256 ≤ _ ∧ _ ≤ 511
    omega

theorem pushAll (inPageOne : s.InPageOne) (bs : List UInt8) : (s.pushAll bs).InPageOne := by
  induction bs generalizing s with
  | nil => exact inPageOne
  | cons b bs ih => exact ih (inPageOne.snoc (log_write s _ b) rfl)

theorem pullAll (inPageOne : s.InPageOne) (k : Nat) : (s.pullAll k).2.InPageOne := by
  induction k generalizing s with
  | zero => exact inPageOne
  | succ k ih => exact ih (inPageOne.snoc (log_read (s.update _) _) rfl)

end InPageOne

end

/-! ## The bytes -/

section

variable {M : Type} [AddressSpace M] [StackPage M] (s : Machine M)

/-- The `k` bytes above the stack pointer. -/
def top (k : Nat) : List UInt8 :=
  (List.range k).map fun i => s.stack (above s.registers.sp i)

omit [StackPage M] in
theorem top_succ (k : Nat) :
    s.top (k + 1) = s.stack (s.registers.sp + 1) ::
      (List.range k).map fun i => s.stack (above (s.registers.sp + 1) i) := by
  simp only [top, List.range_succ_eq_map, List.map_cons, List.map_map, Function.comp_def,
    Nat.succ_eq_add_one, above_zero, above_succ]

theorem values_pullAll (k : Nat) : (s.pullAll k).1 = s.top k := by
  induction k generalizing s with
  | zero => rfl
  | succ k ih =>
    rw [pullAll, ih, top_succ, value_pull, top]
    simp only [stack_pull, registers_pull]

/-- A pushed byte goes before the bytes that are on the stack already, unless it has come round to
the last of them. -/
theorem top_push (b : UInt8) {k : Nat} (short : k < 256) :
    (s.push b).top (k + 1) = b :: s.top k := by
  rw [top_succ, registers_push, UInt8.sub_add_cancel, stack_push, if_pos rfl, top]
  congr 1
  apply List.map_congr_left
  intro i before
  have before := List.mem_range.mp before
  rw [stack_push, if_neg (above_ne _ (by omega)).symm]

theorem top_pushAll (bs : List UInt8) {k : Nat} (pushed : k ≤ bs.length) (short : k ≤ 256) :
    (s.pushAll bs).top k = bs.reverse.take k := by
  induction bs using List.reverseRecOn generalizing k with
  | nil =>
    obtain rfl : k = 0 := Nat.le_zero.mp pushed
    rfl
  | append_singleton bs b ih =>
    cases k with
    | zero => rfl
    | succ k =>
      rw [List.length_append, List.length_singleton] at pushed
      rw [pushAll_concat, top_push _ b short, ih (by omega) (by omega), List.reverse_concat,
        List.take_succ_cons]

end

/-! ## The storage -/

section

variable {M : Type} [AddressSpace M] [StackStorage M] (s : Machine M)

open StackStorage (storage withStorage)

theorem memory_pull : s.pull.2.memory = s.memory :=
  congrArg Prod.snd (StackStorage.read_stack s.memory (s.registers.sp + 1))

theorem memory_pullAll (k : Nat) : (s.pullAll k).2.memory = s.memory := by
  induction k generalizing s with
  | zero => rfl
  | succ k ih => rw [pullAll, ih, memory_pull]

theorem memory_push (v : UInt8) :
    (s.push v).memory =
      withStorage s.memory ((storage s.memory).set (cell (stackAddress s.registers.sp)) v) :=
  StackStorage.write_stack s.memory s.registers.sp v

/-- Pushing changes the cells at and below the stack pointer, one for each byte. -/
theorem memory_pushAll (bs : List UInt8) :
    ∃ after, (s.pushAll bs).memory = withStorage s.memory after ∧
      ∀ a, (∀ i < bs.length, a ≠ stackAddress (below s.registers.sp i)) →
        after.get (cell a) = (storage s.memory).get (cell a) := by
  induction bs generalizing s with
  | nil => exact ⟨storage s.memory, (StackStorage.withStorage_storage s.memory).symm, fun _ _ => rfl⟩
  | cons b bs ih =>
    obtain ⟨after, memory, kept⟩ := ih (s.push b)
    rw [memory_push] at memory kept
    rw [StackStorage.withStorage_withStorage] at memory
    rw [StackStorage.storage_withStorage] at kept
    refine ⟨after, memory, fun a other => ?_⟩
    have first : a ≠ stackAddress s.registers.sp := by
      simpa using other 0 (Nat.succ_pos _)
    rw [kept a, Bytes.get_set_of_ne]
    · exact fun same => first (cell_inj.mp same).symm
    · intro i small
      rw [registers_push, ← below_succ]
      exact other (i + 1) (Nat.succ_lt_succ small)

end

/-- **The stack is last in, first out, modulo one page.** After a list of bytes was pushed, pulling as
many bytes, but no more than 256, returns the last ones of the list in reverse order. After at most 256
bytes the processor is as before. All accesses go to page one. Nothing in the address space has changed
but the cells at and below the stack pointer, one for each byte. -/
theorem last_in_first_out {M : Type} [AddressSpace M] [StackStorage M] (s : Machine M)
    (bs : List UInt8) :
    let k := min bs.length 256
    let t := (s.pushAll bs).pullAll k
    let accesses := ((s.recorded.pushAll bs).pullAll k).2.log
    t.1 = bs.reverse.take k ∧
    (bs.length ≤ 256 → t.2.core = s.core) ∧
    (Replays s.memory accesses t.2.memory ∧
      ∀ access ∈ accesses, 0x0100 ≤ access.address ∧ access.address ≤ 0x01FF) ∧
    ∃ after, t.2.memory = StackStorage.withStorage s.memory after ∧
      ∀ a, (∀ i < bs.length, a ≠ stackAddress (below s.registers.sp i)) →
        after.get (cell a) = (StackStorage.storage s.memory).get (cell a) := by
  intro k t accesses
  refine ⟨?_, ?_, ⟨?_, ?_⟩, ?_⟩
  · exact (values_pullAll _ k).trans (top_pushAll s bs (Nat.min_le_left _ _) (Nat.min_le_right _ _))
  · intro short
    have all : k = bs.length := Nat.min_eq_left short
    change ((s.pushAll bs).pullAll k).2.core = _
    rw [all]
    exact core_pullAll_pushAll s bs
  · have start : Kept s.memory s.recorded := rfl
    have kept := (start.pushAll bs).pullAll k
    have same := pullAll_along Recorded.inner (s.recorded.pushAll bs) k
    rw [← pushAll_along] at same
    exact (congrArg (fun r => r.2.memory) same) ▸ kept
  · have untouched : s.recorded.InPageOne := fun _ among => absurd among List.not_mem_nil
    exact (untouched.pushAll bs).pullAll k
  · have pulled := memory_pullAll (s.pushAll bs) k
    rw [pulled]
    exact memory_pushAll s bs

/-- Three bytes with the stack pointer at one: the third goes to the top of the page. -/
theorem last_in_first_out_around_page :
    let s : Machine FlatMemory := ⟨Core.initial.withSP 1, .blank⟩
    let t := (s.pushAll [10, 20, 30]).pullAll 3
    t.1 = [30, 20, 10] ∧ t.2.core = s.core ∧ t.2.memory.peek 0x01FE = 0 := by
  intro s t
  obtain ⟨values, core, -, after, memory, kept⟩ := last_in_first_out s [10, 20, 30]
  refine ⟨values, core (by decide), ?_⟩
  have cells : ∀ i < 3, (0x01FE : UInt16) ≠ stackAddress (below 1 i) := by decide
  have same := kept 0x01FE cells
  have peek : t.2.memory.peek 0x01FE = after.get (cell 0x01FE) :=
    congrArg (fun m : FlatMemory => m.peek 0x01FE) memory
  rw [peek, same]
  exact Bytes.get_fill 0 _

end Machine

end Famicom.Processor

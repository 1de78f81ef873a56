import Famicom.Proofs.Bus.Region
import Famicom.Proofs.Processor.Moves

/-!
# The stack in page one

Page one is plain storage, on flat memory as on the bus of the console: a byte stays where it was put
until another one is put there, whatever is read in the meantime.

* `StackPage`: the address spaces in which this holds, with instances for `FlatMemory` and `Bus`.
* `Machine.stack_push`, `value_pull` and so on: what the moves of the processor make of the stack.
-/

namespace Famicom.Processor

theorem toNat_stackAddress (sp : UInt8) : (stackAddress sp).toNat = 256 + sp.toNat := by
  have small := sp.toNat_lt
  rw [stackAddress_eq, UInt16.toNat_add, UInt8.toNat_toUInt16]
  change (256 + sp.toNat) % 65536 = _
  omega

theorem stackAddress_lt (sp : UInt8) : stackAddress sp < 0x0200 := by
  have small := sp.toNat_lt
  apply UInt16.lt_iff_toNat_lt.mpr
  rw [toNat_stackAddress]
  change 256 + sp.toNat < 512
  omega

theorem stackAddress_inj {sp sp' : UInt8} : stackAddress sp = stackAddress sp' ↔ sp = sp' := by
  constructor
  · intro same
    have places := congrArg UInt16.toNat same
    rw [toNat_stackAddress, toNat_stackAddress] at places
    apply UInt8.toNat_inj.mp
    omega
  · rintro rfl
    rfl

/-- The byte on the stack at the place of a stack pointer. -/
def stackByte {M : Type} [AddressSpace M] (m : M) (sp : UInt8) : UInt8 :=
  (AddressSpace.read m (stackAddress sp)).1

/-- An address space in which page one is plain storage. -/
class StackPage (M : Type) [AddressSpace M] : Prop where
  read (m : M) (address : UInt16) (sp : UInt8) :
    stackByte (AddressSpace.read m address).2 sp = stackByte m sp
  write (m : M) (sp : UInt8) (v : UInt8) (sp' : UInt8) :
    stackByte (AddressSpace.write m (stackAddress sp) v) sp' =
      if sp = sp' then v else stackByte m sp'
  note (m : M) (e : Event) (sp : UInt8) :
    stackByte (AddressSpace.note m e) sp = stackByte m sp

instance : StackPage FlatMemory where
  read _ _ _ := rfl
  write m sp v sp' := by
    change (m.poke (stackAddress sp) v).peek (stackAddress sp') = _
    rw [FlatMemory.peek_poke]
    simp only [stackAddress_inj]
    rfl
  note _ _ _ := rfl

/-! ## The stack during a move -/

namespace Machine

variable {M : Type} [AddressSpace M]

/-- The byte on the stack at the place of a stack pointer. -/
def stack (s : Machine M) (sp : UInt8) : UInt8 := stackByte s.memory sp

theorem stack_flat (s : Machine FlatMemory) (sp : UInt8) :
    s.stack sp = s.memory.peek (stackAddress sp) := rfl

/-- A pulled byte is the byte above the stack pointer. -/
theorem value_pull (s : Machine M) : s.pull.1 = s.stack (s.registers.sp + 1) := rfl

variable [StackPage M] (s : Machine M) (sp : UInt8)

@[simp] theorem stack_read (address : UInt16) : (s.read address).2.stack sp = s.stack sp :=
  StackPage.read s.memory address sp

@[simp] theorem stack_fetch : s.fetch.2.stack sp = s.stack sp := s.stack_read sp _

@[simp] theorem stack_opened : s.opened.stack sp = s.stack sp := s.stack_read sp _

@[simp] theorem stack_readPair (low high : UInt16) :
    (s.readPair low high).2.stack sp = s.stack sp := by
  rw [readPair, stack_read, stack_read]

@[simp] theorem stack_push (v : UInt8) :
    (s.push v).stack sp = if s.registers.sp = sp then v else s.stack sp :=
  StackPage.write s.memory s.registers.sp v sp

theorem stack_pushWord (w : UInt16) :
    (s.pushWord w).stack sp =
      if s.registers.sp - 1 = sp then lowByte w
      else if s.registers.sp = sp then highByte w else s.stack sp := by
  rw [pushWord, stack_push, stack_push]
  rfl

@[simp] theorem stack_pull : s.pull.2.stack sp = s.stack sp := s.stack_read sp _

/-- A pulled word is the word above the stack pointer. -/
theorem value_pullWord :
    s.pullWord.1 = word (s.stack (s.registers.sp + 1)) (s.stack (s.registers.sp + 2)) := by
  rw [pullWord, value_pull, value_pull, stack_pull, registers_pull, byte_succ_succ]

end Machine

end Famicom.Processor

/-! ## The bus of the console -/

namespace Famicom.Bus

open Processor

theorem fold_stackAddress (b : Bus) (sp : UInt8) : b.fold (stackAddress sp) = stackAddress sp := by
  have below := stackAddress_lt sp
  have work : stackAddress sp < 0x2000 := UInt16.lt_trans below (by decide)
  rw [fold, canonical, if_pos work]
  apply UInt16.toNat_inj.mp
  have place : (stackAddress sp).toNat < 512 := UInt16.lt_iff_toNat_lt.mp below
  rw [UInt16.toNat_mod]
  exact Nat.mod_eq_of_lt (Nat.lt_trans place (by decide))

/-- The stack lies in memory. -/
theorem region_stackAddress (sp : UInt8) : Region.of (stackAddress sp) = .memory := by
  have below : (stackAddress sp).toNat < 512 := UInt16.lt_iff_toNat_lt.mp (stackAddress_lt sp)
  exact region_eq_memory_iff.mpr (.inl (by omega))

theorem stackByte_eq (b : Bus) (sp : UInt8) :
    stackByte b sp = b.storage.get (cell (stackAddress sp)) := by
  change (b.read (stackAddress sp)).1 = _
  rw [read_of_storage b (by simp [region_stackAddress]), peek, fold_stackAddress]

theorem write_stackAddress (b : Bus) (sp : UInt8) (v : UInt8) :
    b.write (stackAddress sp) v =
      { b with storage := b.storage.set (cell (stackAddress sp)) v } := by
  rw [write_of_memory b (region_stackAddress sp), fold_stackAddress]

instance : StackPage Bus where
  read b address sp := by
    rw [stackByte_eq, stackByte_eq]
    change (b.read address).2.storage.get _ = _
    rw [storage_read]
  write b sp v sp' := by
    rw [stackByte_eq, stackByte_eq]
    change (b.write (stackAddress sp) v).storage.get _ = _
    rw [write_stackAddress, Bytes.get_set]
    simp only [cell_inj, stackAddress_inj]
  note b e sp := by
    rw [stackByte_eq, stackByte_eq]
    rfl

end Famicom.Bus

import Famicom.Bus
import Mathlib.Tactic.SplitIfs

/-!
# The regions of the address space

An address of the bus belongs to memory, to a device or to the program of the cartridge. Folding leaves
it in its region, and the region decides what an access can do to the storage: only a write to memory
changes it.

* `region_canonical`: folding stays in the region.
* `canonical_eq_iff`: which addresses name the same place of memory.
* `canonical_eq_iff_of_between`: the transfer and the joypad have one address each.
* `read_of_storage`, `write_of_memory`, `storage_write`: what accesses do to the storage.
-/

namespace Famicom.Bus

open Processor

/-- Who answers at an address. Memory is work memory and the storage between the devices and the
program. -/
inductive Region where
  | memory
  | device
  | program
  deriving DecidableEq, Repr

def Region.of (address : UInt16) : Region :=
  if (0x2000 ≤ address ∧ address < 0x4000) ∨ address = spriteTransferAddress ∨
      address = joypadAddress then .device
  else if 0x8000 ≤ address then .program
  else .memory

/-- The second address names the same place of memory as the first. Work memory repeats. -/
def SamePlace (address other : UInt16) : Prop :=
  if address < 0x2000 then other < 0x2000 ∧ other % 0x0800 = address % 0x0800
  else other = address

instance (address other : UInt16) : Decidable (SamePlace address other) := by
  unfold SamePlace
  infer_instance

/-! ## Addresses as numbers -/

theorem toNat_canonical (repeats : Bool) (a : UInt16) :
    (canonical repeats a).toNat =
      if a.toNat < 0x2000 then a.toNat % 0x0800
      else if a.toNat < 0x4000 then 0x2000 + a.toNat % 8
      else if 0x8000 ≤ a.toNat ∧ repeats = true then 0x8000 + (a.toNat - 0x8000) % 0x4000
      else a.toNat := by
  have small := a.toNat_lt
  unfold canonical
  simp only [UInt16.lt_iff_toNat_lt, UInt16.le_iff_toNat_le]
  change (if a.toNat < 0x2000 then _ else if a.toNat < 0x4000 then _
    else if 0x8000 ≤ a.toNat ∧ repeats = true then _ else _ : UInt16).toNat = _
  split
  · rw [UInt16.toNat_mod]
    rfl
  · split
    · rw [UInt16.toNat_add, UInt16.toNat_mod]
      change (0x2000 + a.toNat % 8) % 65536 = _
      omega
    · split
      · rename_i high
        have above : 0x8000 ≤ a := UInt16.le_iff_toNat_le.mpr high.1
        rw [UInt16.toNat_add, UInt16.toNat_mod, UInt16.toNat_sub_of_le _ _ above]
        change (0x8000 + (a.toNat - 0x8000) % 0x4000) % 65536 = _
        omega
      · rfl

theorem region_eq_device_iff {a : UInt16} :
    Region.of a = .device ↔
      0x2000 ≤ a.toNat ∧ a.toNat < 0x4000 ∨ a.toNat = 0x4014 ∨ a.toNat = 0x4016 := by
  have low : 0x2000 ≤ a ↔ 0x2000 ≤ a.toNat := UInt16.le_iff_toNat_le
  have top : a < 0x4000 ↔ a.toNat < 0x4000 := UInt16.lt_iff_toNat_lt
  have transfer : a = spriteTransferAddress ↔ a.toNat = 0x4014 := UInt16.toNat_inj.symm
  have joypad : a = joypadAddress ↔ a.toNat = 0x4016 := UInt16.toNat_inj.symm
  simp only [Region.of, low, top, transfer, joypad]
  split_ifs <;> simp_all

theorem region_eq_program_iff {a : UInt16} : Region.of a = .program ↔ 0x8000 ≤ a.toNat := by
  have high : 0x8000 ≤ a ↔ 0x8000 ≤ a.toNat := UInt16.le_iff_toNat_le
  have device := region_eq_device_iff (a := a)
  unfold Region.of at device ⊢
  simp only [high] at device ⊢
  split_ifs at device ⊢ <;> simp only [false_iff, true_iff] at device ⊢ <;> omega

theorem region_eq_memory_iff {a : UInt16} :
    Region.of a = .memory ↔
      a.toNat < 0x2000 ∨
        0x4000 ≤ a.toNat ∧ a.toNat < 0x8000 ∧ a.toNat ≠ 0x4014 ∧ a.toNat ≠ 0x4016 := by
  have program := region_eq_program_iff (a := a)
  have device := region_eq_device_iff (a := a)
  cases region : Region.of a <;>
    simp only [region, reduceCtorEq, false_iff, true_iff] at program device ⊢ <;> omega

theorem samePlace_iff {a a' : UInt16} :
    SamePlace a a' ↔
      a'.toNat = a.toNat ∨
        a.toNat < 0x2000 ∧ a'.toNat < 0x2000 ∧ a'.toNat % 0x0800 = a.toNat % 0x0800 := by
  have low : a < 0x2000 ↔ a.toNat < 0x2000 := UInt16.lt_iff_toNat_lt
  have low' : a' < 0x2000 ↔ a'.toNat < 0x2000 := UInt16.lt_iff_toNat_lt
  have place : a' % 0x0800 = a % 0x0800 ↔ a'.toNat % 0x0800 = a.toNat % 0x0800 := by
    rw [← UInt16.toNat_inj, UInt16.toNat_mod, UInt16.toNat_mod]
    rfl
  simp only [SamePlace, low, low', place, ← UInt16.toNat_inj]
  split_ifs <;> omega

/-! ## Folding -/

/-- Folding leaves an address in its region. -/
theorem region_canonical (repeats : Bool) (a : UInt16) :
    Region.of (canonical repeats a) = Region.of a := by
  have small := a.toNat_lt
  have place := toNat_canonical repeats a
  cases region : Region.of a with
  | memory =>
    rw [region_eq_memory_iff] at region ⊢
    split_ifs at place <;> omega
  | device =>
    rw [region_eq_device_iff] at region ⊢
    split_ifs at place <;> omega
  | program =>
    rw [region_eq_program_iff] at region ⊢
    split_ifs at place <;> omega

theorem toNat_canonical_of_memory (repeats : Bool) {a : UInt16} (memory : Region.of a = .memory) :
    (canonical repeats a).toNat = if a.toNat < 0x2000 then a.toNat % 0x0800 else a.toNat := by
  rw [region_eq_memory_iff] at memory
  rw [toNat_canonical]
  split_ifs <;> omega

theorem toNat_canonical_of_program (repeats : Bool) {a : UInt16}
    (program : Region.of a = .program) :
    (canonical repeats a).toNat =
      0x8000 + if repeats then (a.toNat - 0x8000) % 0x4000 else a.toNat - 0x8000 := by
  rw [region_eq_program_iff] at program
  rw [toNat_canonical]
  cases repeats <;> simp <;> split_ifs <;> omega

/-- Between the registers and the program every address is its own. -/
theorem canonical_eq_iff_of_between (repeats : Bool) {port : UInt16} (low : 0x4000 ≤ port.toNat)
    (high : port.toNat < 0x8000) (a : UInt16) : canonical repeats a = port ↔ a = port := by
  have place := toNat_canonical repeats a
  rw [← UInt16.toNat_inj, ← UInt16.toNat_inj]
  split_ifs at place <;> omega

/-- Where one of two addresses is in memory, both are folded onto one if they name the same place. -/
theorem canonical_eq_iff (repeats : Bool) {a : UInt16} (memory : Region.of a = .memory)
    (a' : UInt16) : canonical repeats a' = canonical repeats a ↔ SamePlace a a' := by
  have place := toNat_canonical_of_memory repeats memory
  constructor
  · intro same
    have memory' : Region.of a' = .memory := by
      rw [← region_canonical repeats a', same, region_canonical, memory]
    have place' := toNat_canonical_of_memory repeats memory'
    rw [region_eq_memory_iff] at memory memory'
    rw [same] at place'
    rw [samePlace_iff]
    split_ifs at place place' <;> omega
  · intro same
    rw [region_eq_memory_iff] at memory
    rw [samePlace_iff] at same
    have memory' : Region.of a' = .memory := by
      rw [region_eq_memory_iff]
      omega
    have place' := toNat_canonical_of_memory repeats memory'
    rw [← UInt16.toNat_inj]
    split_ifs at place place' <;> omega

/-! ## Accesses -/

variable (b : Bus) {a : UInt16}

theorem region_fold (a : UInt16) : Region.of (b.fold a) = Region.of a :=
  region_canonical b.repeatsProgram a

theorem not_device (storage : Region.of a ≠ .device) :
    ¬ (0x2000 ≤ b.fold a ∧ b.fold a < 0x4000) ∧ b.fold a ≠ spriteTransferAddress ∧
      b.fold a ≠ joypadAddress := by
  rw [← b.region_fold a, Region.of] at storage
  split at storage
  · exact absurd rfl storage
  · rename_i none
    exact ⟨fun inside => none (.inl inside), fun same => none (.inr (.inl same)),
      fun same => none (.inr (.inr same))⟩

/-- Where no device answers, a read answers with the storage and does nothing else. -/
theorem read_of_storage (storage : Region.of a ≠ .device) : b.read a = (b.peek a, b) := by
  obtain ⟨noPicture, -, noJoypad⟩ := b.not_device storage
  unfold read
  dsimp only
  rw [if_neg noPicture, if_neg noJoypad]
  rfl

/-- A write to memory changes one place of the storage. -/
theorem write_of_memory (memory : Region.of a = .memory) (v : UInt8) :
    b.write a v = { b with storage := b.storage.set (cell (b.fold a)) v } := by
  have storage : Region.of a ≠ .device := by simp [memory]
  obtain ⟨noPicture, noTransfer, noJoypad⟩ := b.not_device storage
  have noProgram : ¬ 0x8000 ≤ b.fold a := by
    intro high
    have program : Region.of (b.fold a) = .program :=
      region_eq_program_iff.mpr (UInt16.le_iff_toNat_le.mp high)
    rw [region_fold, memory] at program
    cases program
  unfold write
  dsimp only
  rw [if_neg noPicture, if_neg noTransfer, if_neg noJoypad, if_neg noProgram]

theorem storage_read (a : UInt16) : (b.read a).2.storage = b.storage := by
  unfold read
  dsimp only
  split
  · rfl
  · split <;> rfl

theorem storage_transferSprites (number : UInt8) :
    (b.transferSprites number).storage = b.storage := by
  unfold transferSprites
  rfl

/-- Only a write to memory changes the storage. -/
theorem storage_write (a : UInt16) (v : UInt8) :
    (b.write a v).storage =
      if Region.of a = .memory then b.storage.set (cell (b.fold a)) v else b.storage := by
  split
  · rename_i memory
    rw [b.write_of_memory memory]
  · rename_i noMemory
    unfold write
    dsimp only
    split
    · rfl
    · rename_i noPicture
      split
      · exact b.storage_transferSprites v
      · rename_i noTransfer
        split
        · rfl
        · rename_i noJoypad
          split
          · rfl
          · -- Nobody else is left to answer, so the address was in memory.
            rename_i noProgram
            refine absurd ?_ noMemory
            have noDevice := not_or.mpr ⟨noPicture, not_or.mpr ⟨noTransfer, noJoypad⟩⟩
            rw [← b.region_fold a, Region.of, if_neg noDevice, if_neg noProgram]

end Famicom.Bus

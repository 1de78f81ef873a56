import Famicom.Proofs.Bus.History
import Famicom.Proofs.Bus.Region

/-!
# What the storage holds

Memory keeps the latest byte that was written to it, the program of the cartridge shows for ever, and
nothing that is written to a device lands in the storage. This holds after any history of the bus, and
so after any run of a processor.

* `peek_act_of_memory`, `peek_act_of_not_memory`: what an act does to the storage.
* `Shows`: what the storage shows after a history.
* `shows_actAll`: it does, after every one.
-/

namespace Famicom

open Processor

/-- The byte of the program at an offset. Behind its end there are zeros. -/
def Cartridge.byte (c : Cartridge) (offset : Nat) : UInt8 :=
  if inside : offset < c.program.size then c.program.get offset inside else 0

/-- The byte of the program that shows at an address. A program of at most one bank shows twice. -/
def Cartridge.shownAt (c : Cartridge) (address : UInt16) : UInt8 :=
  let offset := address.toNat - 0x8000
  c.byte (if c.program.size ≤ programBank then offset % programBank else offset)

namespace Bus

/-- The byte that an act puts at the place of an address, if it puts one there. -/
def Act.stored? (address : UInt16) : Act → Option UInt8
  | .write other v => if SamePlace address other then some v else none
  | _ => none

/-- What the storage shows after a history. Addresses of memory share their location as work memory
repeats, and the location holds the latest byte written to it, or zero. -/
structure Shows (c : Cartridge) (past : List Act) (b : Bus) : Prop where
  places : ∀ a, Region.of a = .memory → ∀ other, b.fold other = b.fold a ↔ SamePlace a other
  memory : ∀ a, Region.of a = .memory → b.peek a = (past.filterMap (Act.stored? a)).getLastD 0
  program : ∀ a, Region.of a = .program → b.peek a = c.shownAt a ∧ (b.read a).1 = c.shownAt a
  device : ∀ a, Region.of a = .device → b.peek a = 0

/-! ## Acts -/

variable (b : Bus)

theorem repeatsProgram_transferSprites (number : UInt8) :
    (b.transferSprites number).repeatsProgram = b.repeatsProgram := by
  unfold transferSprites
  rfl

theorem repeatsProgram_act (x : Act) : (b.act x).repeatsProgram = b.repeatsProgram := by
  cases x with
  | read a =>
    simp only [act, read]
    split
    · rfl
    · split <;> rfl
  | write a v =>
    simp only [act, write]
    split
    · rfl
    · split
      · exact b.repeatsProgram_transferSprites v
      · split
        · rfl
        · split <;> rfl
  | transferSprites number => exact b.repeatsProgram_transferSprites number
  | advance _ | touch _ | note _ => rfl

theorem fold_act (x : Act) (a : UInt16) : (b.act x).fold a = b.fold a := by
  simp only [fold, repeatsProgram_act]

/-- An act puts at most one byte into memory. -/
theorem peek_act_of_memory {a : UInt16} (memory : Region.of a = .memory) (x : Act) :
    (b.act x).peek a = (x.stored? a).getD (b.peek a) := by
  unfold peek
  rw [fold_act]
  cases x with
  | read address => exact congrArg (·.get (cell (b.fold a))) (b.storage_read address)
  | write other v =>
    have same : b.fold other = b.fold a ↔ SamePlace a other :=
      canonical_eq_iff b.repeatsProgram memory other
    simp only [act, storage_write, Act.stored?, ← same]
    split_ifs with there here here
    · rw [Bytes.get_set, here, if_pos rfl, Option.getD_some]
    · rw [Bytes.get_set, if_neg (by rwa [cell_inj]), Option.getD_none]
    · refine absurd ?_ there
      rw [← b.region_fold other, here, region_fold, memory]
    · rfl
  | transferSprites number =>
    exact congrArg (·.get (cell (b.fold a))) (b.storage_transferSprites number)
  | advance _ | touch _ | note _ => rfl

/-- No act puts anything anywhere else. -/
theorem peek_act_of_not_memory {a : UInt16} (other : Region.of a ≠ .memory) (x : Act) :
    (b.act x).peek a = b.peek a := by
  unfold peek
  rw [fold_act]
  cases x with
  | read address => exact congrArg (·.get (cell (b.fold a))) (b.storage_read address)
  | write address v =>
    simp only [act, storage_write]
    split
    · rename_i memory
      refine Bytes.get_set_of_ne _ v fun same => other ?_
      rw [← b.region_fold a, ← cell_inj.mp same, region_fold, memory]
    · rfl
  | transferSprites number =>
    exact congrArg (·.get (cell (b.fold a))) (b.storage_transferSprites number)
  | advance _ | touch _ | note _ => rfl

/-! ## Histories -/

theorem peek_actAll_of_memory {a : UInt16} (memory : Region.of a = .memory) (past : List Act) :
    (b.actAll past).peek a = (past.filterMap (Act.stored? a)).getLastD (b.peek a) :=
  latest_actAll (·.peek a) (Act.stored? a) (fun b x => b.peek_act_of_memory memory x) b past

theorem peek_actAll_of_not_memory {a : UInt16} (other : Region.of a ≠ .memory) (past : List Act) :
    (b.actAll past).peek a = b.peek a := by
  induction past generalizing b with
  | nil => rfl
  | cons x rest ih => rw [actAll_cons, ih, b.peek_act_of_not_memory other]

/-! ## The cartridge -/

section PowerOn

variable (c : Cartridge) (joypad : Joypad) (journal : Journal)

theorem get_storage_ofCartridge (i : Fin 65536) :
    (ofCartridge c joypad journal).storage.get i =
      if 0x8000 ≤ i.val then c.byte (i.val - 0x8000) else 0 := by
  refine (Bytes.get_overwrite _ _ _ i).trans ?_
  rw [Bytes.get_fill]
  unfold Cartridge.byte
  by_cases high : 0x8000 ≤ i.val
  · rw [if_pos high]
    by_cases inside : i.val - 0x8000 < c.program.size
    · rw [dif_pos ⟨high, inside⟩, dif_pos inside]
    · rw [dif_neg fun both => inside both.2, dif_neg inside]
  · rw [if_neg high, dif_neg fun both => high both.1]

/-- At power-on the program is in its place and everything else is zero. -/
theorem peek_ofCartridge (a : UInt16) :
    (ofCartridge c joypad journal).peek a =
      if Region.of a = .program then c.shownAt a else 0 := by
  have region : 0x8000 ≤ ((ofCartridge c joypad journal).fold a).toNat ↔
      Region.of a = .program := by
    rw [← region_eq_program_iff, region_fold]
  unfold peek
  rw [get_storage_ofCartridge]
  simp only [cell, region]
  split
  · rename_i program
    have place : ((ofCartridge c joypad journal).fold a).toNat = _ :=
      toNat_canonical_of_program (decide (c.program.size ≤ Cartridge.programBank)) program
    simp only [place, Nat.add_sub_cancel_left, decide_eq_true_eq]
    rfl
  · rfl

/-- **The storage shows the cartridge and the latest bytes written to memory**, whatever has happened on
the bus, and so does the bus of a processor after any run. -/
theorem shows_actAll (c : Cartridge) (joypad : Joypad) (journal : Journal) :
    (∀ past, Shows c past ((ofCartridge c joypad journal).actAll past)) ∧
      ∀ (core : Core) (ts : List Turn),
        Shows c ((ofCartridge c joypad journal).history core ts)
          (turnAll act ⟨core, ofCartridge c joypad journal⟩ ts).memory := by
  have shows (past : List Act) : Shows c past ((ofCartridge c joypad journal).actAll past) := by
    constructor
    case places => exact fun a memory other => canonical_eq_iff _ memory other
    case memory =>
      intro a memory
      rw [peek_actAll_of_memory _ memory, peek_ofCartridge, if_neg (by simp [memory])]
    case program =>
      intro a program
      have peeked : ((ofCartridge c joypad journal).actAll past).peek a = c.shownAt a := by
        rw [peek_actAll_of_not_memory _ (by simp [program]), peek_ofCartridge, if_pos program]
      refine ⟨peeked, ?_⟩
      rw [read_of_storage _ (by simp [program]), peeked]
    case device =>
      intro a device
      rw [peek_actAll_of_not_memory _ (by simp [device]), peek_ofCartridge, if_neg (by simp [device])]
  refine ⟨shows, fun core ts => ?_⟩
  rw [memory_turnAll]
  exact shows _

end PowerOn

end Bus

end Famicom

import Mathlib.Tactic.IntervalCases
import Famicom.Proofs.Bus.History
import Famicom.Proofs.Bus.Region
import Famicom.Proofs.Picture.Beam

/-!
# The picture registers on the bus

The eight registers of the picture unit show one after another from `$2000` on and repeat up to `$3FFF`.
An access at one of these addresses is an access to the register, and of everything else that happens
on the bus the picture unit notices sprite transfers and the time only.

* `registerAt?`: the register at an address, told from the number of the address.
* `read_register`, `write_register`: what accesses to registers do.
* `Act.access_cases`, `ports_act_of_none`: an act is an access to a register, or the ports of the picture
  unit do not notice it.
-/

namespace Famicom

open Picture Processor

/-- The registers in the order of their addresses. -/
def Picture.Register.all : List Register :=
  [.control, .mask, .status, .spriteAddress, .spriteData, .scroll, .address, .data]

namespace Bus

/-- The register that shows at an address. -/
def registerAt? (a : UInt16) : Option Register :=
  if 0x2000 ≤ a.toNat ∧ a.toNat < 0x4000 then Register.all[a.toNat % 8]? else none

theorem toNat_and_seven (a : UInt16) : (a &&& 7).toNat = a.toNat % 8 :=
  (UInt16.toNat_and a 7).trans (Nat.and_two_pow_sub_one_eq_mod a.toNat 3)

/-- The three low bits of an address select the register. -/
theorem all_getElem? (a : UInt16) : Register.all[a.toNat % 8]? = some (.ofAddress a) := by
  have low := toNat_and_seven a
  have bound : a.toNat % 8 < 8 := Nat.mod_lt _ (by decide)
  have eq_of_toNat {n : Nat} (small : n < 65536) (same : a.toNat % 8 = n) :
      a &&& 7 = UInt16.ofNat n := by
    apply UInt16.toNat_inj.mp
    rw [low, same, UInt16.toNat_ofNat']
    exact (Nat.mod_eq_of_lt small).symm
  unfold Register.ofAddress
  generalize a.toNat % 8 = n at *
  interval_cases n <;> rw [eq_of_toNat (by decide) rfl] <;> rfl

theorem registerAt?_eq_none_iff {a : UInt16} :
    registerAt? a = none ↔ ¬ (0x2000 ≤ a.toNat ∧ a.toNat < 0x4000) := by
  unfold registerAt?
  rw [all_getElem?]
  split <;> simp [*]

theorem registerAt?_eq_some_iff {a : UInt16} {r : Register} :
    registerAt? a = some r ↔ (0x2000 ≤ a.toNat ∧ a.toNat < 0x4000) ∧ Register.ofAddress a = r := by
  unfold registerAt?
  rw [all_getElem?]
  split <;> simp [*]

variable (b : Bus) {a : UInt16} {r : Register}

/-- Folding keeps an address in the window of the registers, or out of it. -/
theorem fold_window_iff (a : UInt16) :
    (0x2000 ≤ b.fold a ∧ b.fold a < 0x4000) ↔ (0x2000 ≤ a.toNat ∧ a.toNat < 0x4000) := by
  have place : (b.fold a).toNat = _ := toNat_canonical b.repeatsProgram a
  have low : 0x2000 ≤ b.fold a ↔ 0x2000 ≤ (b.fold a).toNat := UInt16.le_iff_toNat_le
  have top : b.fold a < 0x4000 ↔ (b.fold a).toNat < 0x4000 := UInt16.lt_iff_toNat_lt
  rw [low, top]
  split_ifs at place <;> omega

/-- Folding an address of a register leaves the register. -/
theorem ofAddress_fold (shows : registerAt? a = some r) : Register.ofAddress (b.fold a) = r := by
  obtain ⟨window, selected⟩ := registerAt?_eq_some_iff.mp shows
  have place : (b.fold a).toNat = _ := toNat_canonical b.repeatsProgram a
  have same : (b.fold a).toNat % 8 = a.toNat % 8 := by
    split_ifs at place <;> omega
  have both := all_getElem? (b.fold a)
  rw [same, all_getElem?, selected] at both
  exact (Option.some.inj both).symm

theorem read_register (shows : registerAt? a = some r) :
    b.read a =
      ((b.picture.readRegister r).1, { b with picture := (b.picture.readRegister r).2 }) := by
  obtain ⟨window, -⟩ := registerAt?_eq_some_iff.mp shows
  unfold read
  dsimp only
  rw [if_pos ((b.fold_window_iff a).mpr window), b.ofAddress_fold shows]

theorem write_register (shows : registerAt? a = some r) (v : UInt8) :
    b.write a v = { b with picture := b.picture.writeRegister r v } := by
  obtain ⟨window, -⟩ := registerAt?_eq_some_iff.mp shows
  unfold write
  dsimp only
  rw [if_pos ((b.fold_window_iff a).mpr window), b.ofAddress_fold shows]

theorem picture_read_of_none (elsewhere : registerAt? a = none) :
    (b.read a).2.picture = b.picture := by
  have outside := mt (b.fold_window_iff a).mp (registerAt?_eq_none_iff.mp elsewhere)
  unfold read
  dsimp only
  rw [if_neg outside]
  split <;> rfl

theorem fold_eq_spriteTransferAddress_iff (a : UInt16) :
    b.fold a = spriteTransferAddress ↔ a = spriteTransferAddress :=
  canonical_eq_iff_of_between b.repeatsProgram (by decide) (by decide) a

/-- A write to the transfer address transfers a page, and does nothing else. -/
theorem write_spriteTransferAddress (number : UInt8) :
    b.write spriteTransferAddress number = b.transferSprites number := by
  have place := (b.fold_eq_spriteTransferAddress_iff _).mpr rfl
  unfold write
  rw [place]
  rfl

theorem picture_transferSprites (number : UInt8) :
    (b.transferSprites number).picture = b.picture.loadSprites (b.page number) := by
  unfold transferSprites
  rfl

theorem picture_write_of_none (elsewhere : registerAt? a = none) (v : UInt8) :
    (b.write a v).picture =
      if a = spriteTransferAddress then b.picture.loadSprites (b.page v) else b.picture := by
  split
  · rename_i transfers
    rw [transfers, write_spriteTransferAddress, picture_transferSprites]
  · rename_i quiet
    have outside := mt (b.fold_window_iff a).mp (registerAt?_eq_none_iff.mp elsewhere)
    have silent := mt (b.fold_eq_spriteTransferAddress_iff a).mp quiet
    unfold write
    dsimp only
    rw [if_neg outside, if_neg silent]
    split
    · rfl
    · split <;> rfl

/-! ## What the picture unit notices -/

/-- The register that an act accesses. -/
def Act.register? : Act → Option Register
  | .read a | .write a _ => registerAt? a
  | _ => none

/-- An act is an access to a register or none. -/
theorem Act.access_cases (x : Act) :
    x.register? = none ∨ (∃ a r, registerAt? a = some r ∧ x = .read a) ∨
      ∃ a r v, registerAt? a = some r ∧ x = .write a v := by
  cases x with
  | read a =>
    cases shows : registerAt? a with
    | none => exact .inl shows
    | some r => exact .inr (.inl ⟨a, r, shows, rfl⟩)
  | write a v =>
    cases shows : registerAt? a with
    | none => exact .inl shows
    | some r => exact .inr (.inr ⟨a, r, v, shows, rfl⟩)
  | _ => exact .inl rfl

/-- **Without an access to a register the ports stay**, sprite memory excepted, which a transfer
fills. -/
theorem ports_act_of_none {x : Act} (elsewhere : x.register? = none) :
    { (b.act x).picture.ports with sprites := b.picture.sprites } = b.picture.ports := by
  cases x with
  | read a =>
    rw [act, b.picture_read_of_none elsewhere]
    rfl
  | write a v =>
    rw [act, b.picture_write_of_none elsewhere]
    generalize b.page v = data
    split <;> rfl
  | transferSprites number =>
    rw [act, picture_transferSprites]
    generalize b.page number = data
    rfl
  | advance dots =>
    have kept := b.picture.ports_advance dots
    change { (b.picture.advance dots).2.ports with sprites := b.picture.ports.sprites } = _
    rw [kept]
  | touch _ | note _ => rfl

end Bus

end Famicom

import Famicom.Picture.Unit
import Famicom.Proofs.Picture.Folding

/-!
# Storing bytes through the data port

A byte gets into video memory by three writes: the two halves of its address, then the byte. What is
seen afterwards is read by folding the address once, while the port folds it twice.

* `pointAt_eq`: setting the address leaves the unit as it is but for the address and the toggle.
* `poke_memory`: the byte goes to the place of the folded address.
* `storesAt_iff`: the byte arrives where it belongs, and only there, exactly if the address is not in
  the lower nametables of a horizontal arrangement, or if the byte stands there and at the place that
  is hit instead already.
-/

namespace Famicom.Picture

namespace PictureUnit

/-- Reads the status and writes an address to the address register, high byte first. -/
def pointAt (u : PictureUnit) (a : Nat) : PictureUnit :=
  let started := (u.readRegister .status).2
  let half := started.writeRegister .address (UInt8.ofNat (a / 256))
  half.writeRegister .address (UInt8.ofNat (a % 256))

/-- Sets the address and writes a byte to the data register. -/
def poke (u : PictureUnit) (a : Nat) (v : UInt8) : PictureUnit :=
  (u.pointAt a).writeRegister .data v

theorem pointAt_eq (u : PictureUnit) (a : Nat) :
    u.pointAt a = { u with address := u.memory.fold a, second := false } := by
  have high : (UInt8.ofNat (a / 256)).toNat % 64 * 256 = a / 256 % 64 * 256 := by
    rw [UInt8.toNat_ofNat']
    omega
  have low : (UInt8.ofNat (a % 256)).toNat = a % 256 := by
    rw [UInt8.toNat_ofNat']
    omega
  have whole : a / 256 % 64 * 256 + a % 256 = a % (256 * 64) := by
    rw [Nat.mod_mul, Nat.mul_comm, Nat.add_comm]
  have folded : u.memory.fold (a % 0x4000) = u.memory.fold a :=
    canonical_of_mod u.memory.mirroring a
  simp only [pointAt, readRegister, writeRegister, Bool.false_eq_true, if_false, if_true, high,
    low, whole, folded]

/-- The byte goes to the place of the folded address. -/
theorem poke_memory (u : PictureUnit) (a : Nat) (v : UInt8) :
    (u.poke a v).memory = u.memory.write (u.memory.fold a) v := by
  rw [poke, pointAt_eq]
  rfl

/-- Whether storing `v` at `a` through the port does what it should: the byte shows at `a`, a byte for
entry zero of a palette shows as the universal background colour as well, and no other place
changes. -/
structure StoresAt (u : PictureUnit) (a : Nat) (v : UInt8) : Prop where
  shows : (u.poke a v).memory.read a = v
  backdrop : IsEntryZero a → (u.poke a v).memory.read paletteBase = v
  keeps : ∀ b, u.memory.fold b ≠ u.memory.fold a →
    ¬ (IsEntryZero a ∧ u.memory.fold b = paletteBase) →
      (u.poke a v).memory.read b = u.memory.read b

/-- Whether the port loses what is stored at `a`. -/
def Loses (u : PictureUnit) (a : Nat) : Prop :=
  u.memory.mirroring = .horizontal ∧ InLowerTables a

theorem fold_fold_of_not_loses {u : PictureUnit} {a : Nat} (safe : ¬ u.Loses a) :
    u.memory.fold (u.memory.fold a) = u.memory.fold a :=
  (canonical_canonical_eq_iff u.memory.mirroring a).2 safe

theorem isEntryZero_fold (m : VideoMemory) {a : Nat} (stable : m.fold (m.fold a) = m.fold a) :
    IsEntryZero (m.fold a) ↔ IsEntryZero a := by
  rw [← m.entryZero_iff, ← m.entryZero_iff, (m.cell_eq_iff (m.fold a) a).2 stable]

theorem storesAt_of_not_loses {u : PictureUnit} {a : Nat} (safe : ¬ u.Loses a) (v : UInt8) :
    u.StoresAt a v := by
  have stable := fold_fold_of_not_loses safe
  have entry := isEntryZero_fold u.memory stable
  refine ⟨?_, ?_, ?_⟩
  · rw [poke_memory, VideoMemory.read_write, stable, if_pos (Or.inl rfl)]
  · intro zero
    have apart : u.memory.fold paletteBase = paletteBase := by
      change canonical u.memory.mirroring paletteBase = paletteBase
      rfl
    rw [poke_memory, VideoMemory.read_write, if_pos (Or.inr ⟨entry.2 zero, apart⟩)]
  · intro b apart apart'
    rw [← entry] at apart'
    rw [poke_memory, VideoMemory.read_write, stable, if_neg (not_or_intro apart apart')]

/-! ## Lost bytes -/

/-- What is stored in a lower nametable hits the nametable above it. -/
theorem fold_fold_of_loses {u : PictureUnit} {a : Nat} (loses : u.Loses a) :
    u.memory.fold (u.memory.fold a) = 0x2000 + a % 0x400 := by
  obtain ⟨arrangement, lower⟩ := loses
  unfold InLowerTables at lower
  rw [u.memory.fold_eq_canonical, u.memory.fold_eq_canonical,
    canonical_canonical_nametable _ (by omega) lower.2, arrangement]
  exact congrArg (0x2000 + ·) (unwrap_mod a)

theorem fold_upper (m : VideoMemory) (arrangement : m.mirroring = .horizontal) (a : Nat) :
    m.fold (0x2000 + a % 0x400) = 0x2000 + a % 0x400 := by
  have unwrapped : unwrap (0x2000 + a % 0x400) = 0x2000 + a % 0x400 := unwrap_of_lt (by omega)
  rw [m.fold_eq_canonical, canonical_of_nametable _ (by omega) (by omega), unwrapped, arrangement]
  simp only [tableOf]
  omega

theorem fold_of_loses {u : PictureUnit} {a : Nat} (loses : u.Loses a) :
    u.memory.fold a = 0x2400 + a % 0x400 := by
  obtain ⟨arrangement, lower⟩ := loses
  unfold InLowerTables at lower
  rw [u.memory.fold_eq_canonical, canonical_of_nametable _ (by omega) lower.2, arrangement,
    unwrap_mod]
  simp only [tableOf]
  omega

theorem not_isEntryZero_of_loses {u : PictureUnit} {a : Nat} (loses : u.Loses a) :
    ¬ IsEntryZero a := by
  intro entry
  have below := loses.2.2
  have above := entry.1
  unfold paletteBase at above
  omega

theorem read_poke_of_loses {u : PictureUnit} {a : Nat} (loses : u.Loses a) (v : UInt8) (b : Nat) :
    (u.poke a v).memory.read b =
      if u.memory.fold b = 0x2000 + a % 0x400 then v else u.memory.read b := by
  have other : ¬ IsEntryZero (u.memory.fold a) := by
    rw [fold_of_loses loses]
    intro other
    have := other.1
    rw [unwrap_of_lt (by omega)] at this
    unfold paletteBase at this
    omega
  rw [poke_memory, VideoMemory.read_write, fold_fold_of_loses loses]
  simp only [other, false_and, or_false]

theorem storesAt_iff_of_loses {u : PictureUnit} {a : Nat} (loses : u.Loses a) (v : UInt8) :
    u.StoresAt a v ↔ u.memory.read a = v ∧ u.memory.read (0x2000 + a % 0x400) = v := by
  have apart : 0x2400 + a % 0x400 ≠ 0x2000 + a % 0x400 := by omega
  constructor
  · rintro ⟨shows, -, keeps⟩
    have upper := fold_upper u.memory loses.1 a
    have kept := keeps (0x2000 + a % 0x400) (by rw [upper, fold_of_loses loses]; exact apart.symm)
      (fun entry => not_isEntryZero_of_loses loses entry.1)
    rw [read_poke_of_loses loses, fold_of_loses loses, if_neg apart] at shows
    rw [read_poke_of_loses loses, upper, if_pos rfl] at kept
    exact ⟨shows, kept.symm⟩
  · rintro ⟨same, above⟩
    refine ⟨?_, fun entry => absurd entry (not_isEntryZero_of_loses loses), ?_⟩
    · rw [read_poke_of_loses loses, fold_of_loses loses, if_neg apart]
      exact same
    · intro b _ _
      rw [read_poke_of_loses loses]
      split
      · rename_i place
        have cells : u.memory.cell b = u.memory.cell (0x2000 + a % 0x400) := by
          rw [u.memory.cell_eq_iff, place, fold_upper u.memory loses.1 a]
        rw [VideoMemory.read, cells]
        exact above.symm
      · rfl

/-- **Where the port works.** A byte that is stored through the port arrives at its place, and only
there, unless its address is in the lower nametables of a horizontal arrangement; there it does only
if both the place and the one above it, which is hit instead, hold that byte already. -/
theorem storesAt_iff (u : PictureUnit) (a : Nat) (v : UInt8) :
    u.StoresAt a v ↔
      (u.memory.mirroring = .horizontal ∧ InLowerTables a →
        u.memory.read a = v ∧ u.memory.read (0x2000 + a % 0x400) = v) := by
  by_cases loses : u.Loses a
  · rw [storesAt_iff_of_loses loses]
    exact ⟨fun held _ => held, fun held => held loses⟩
  · exact ⟨fun _ lower => absurd lower loses, fun _ => storesAt_of_not_loses loses v⟩

theorem read_without_tiles (m : Mirroring) (a : Nat) : (VideoMemory.ofTiles .empty m).read a = 0 := by
  simp [VideoMemory.read, VideoMemory.ofTiles, Bytes.overwrite]

/-- With horizontal mirroring a byte that is stored at `$2800` does not show there. -/
theorem not_storesAt_lower_table :
    ¬ (ofMemory (.ofTiles .empty .horizontal)).StoresAt 0x2800 0x5A := by
  have loses : (ofMemory (.ofTiles .empty .horizontal)).Loses 0x2800 := ⟨rfl, by decide⟩
  rw [storesAt_iff_of_loses loses]
  rintro ⟨same, -⟩
  change (VideoMemory.ofTiles .empty .horizontal).read 0x2800 = 0x5A at same
  rw [read_without_tiles] at same
  exact absurd same (by decide)

end PictureUnit

end Famicom.Picture

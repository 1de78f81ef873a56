import Famicom.Picture.VideoMemory

/-!
# Folding video addresses twice

The data port folds an address when it is set and once more when memory is touched. This file says
what the second folding does:

* `canonical_canonical_nametable`: inside the nametables only the place within `repetition` counts.
* `canonical_canonical_eq_iff`: the second folding is harmless everywhere but in the two lower
  nametables of a horizontal arrangement.
* `read_write`: what a store shows at every address.
-/

namespace Famicom.Picture

/-- Addresses this far apart in the nametables name one place once they are folded twice. -/
def repetition : Mirroring → Nat
  | .horizontal => 0x400
  | .vertical => 0x800
  | .fourScreen => 0x1000

/-- Whether `a` names a place in the two lower nametables. -/
def InLowerTables (a : Nat) : Prop := 0x2800 ≤ unwrap a ∧ unwrap a < 0x3000

instance (a : Nat) : Decidable (InLowerTables a) := inferInstanceAs (Decidable (_ ∧ _))

/-- Whether `a` names entry zero of a palette. -/
def IsEntryZero (a : Nat) : Prop := paletteBase ≤ unwrap a ∧ unwrap a % 4 = 0

instance (a : Nat) : Decidable (IsEntryZero a) := inferInstanceAs (Decidable (_ ∧ _))

theorem unwrap_of_mod (a : Nat) : unwrap (a % 0x4000) = unwrap a := by
  simp only [unwrap, Nat.mod_mod]

theorem unwrap_lt_of_lt {a : Nat} (below : a < 0x3F00) : unwrap a < 0x3000 := by
  unfold unwrap paletteBase
  dsimp only
  split <;> omega

/-- Unwrapping keeps the place inside a nametable. -/
theorem unwrap_mod (a : Nat) : unwrap a % 0x400 = a % 0x400 := by
  unfold unwrap
  dsimp only
  split <;> omega

theorem canonical_of_mod (m : Mirroring) (a : Nat) : canonical m (a % 0x4000) = canonical m a := by
  simp only [canonical, unwrap_of_mod]

theorem canonical_lt_of_nametable (m : Mirroring) {a : Nat} (below : unwrap a < 0x3000) :
    canonical m a < 0x3000 := by
  by_cases table : 0x2000 ≤ unwrap a
  · have number := tableOf_lt m (t := (unwrap a - 0x2000) / 0x400) (by omega)
    rw [canonical_of_nametable m table below]
    omega
  · rw [canonical_of_pattern m (by omega)]
    omega

theorem le_canonical_of_nametable (m : Mirroring) {a : Nat} (above : 0x2000 ≤ unwrap a)
    (below : unwrap a < 0x3000) : 0x2000 ≤ canonical m a := by
  rw [canonical_of_nametable m above below]
  omega

theorem paletteBase_le_canonical_iff (m : Mirroring) (a : Nat) :
    paletteBase ≤ canonical m a ↔ paletteBase ≤ unwrap a := by
  unfold paletteBase
  rcases unwrap_bounds a with below | palette
  · have := canonical_lt_of_nametable m below
    omega
  · rw [canonical_of_palette m palette.1]
    omega

/-- Folding does not lead from one region of memory to another. -/
theorem canonical_regions (m : Mirroring) (a : Nat) :
    (unwrap a < 0x2000 ∧ canonical m a = unwrap a) ∨
      (0x2000 ≤ unwrap a ∧ unwrap a < 0x3000 ∧ 0x2000 ≤ canonical m a ∧ canonical m a < 0x3000) ∨
      (0x3F00 ≤ unwrap a ∧ 0x3F00 ≤ canonical m a) := by
  rcases unwrap_bounds a with below | palette
  · by_cases table : 0x2000 ≤ unwrap a
    · exact .inr (.inl ⟨table, below, le_canonical_of_nametable m table below,
        canonical_lt_of_nametable m below⟩)
    · exact .inl ⟨by omega, canonical_of_pattern m (by omega)⟩
  · exact .inr (.inr ⟨palette.1, (paletteBase_le_canonical_iff m a).2 palette.1⟩)

theorem canonical_canonical_palette (m : Mirroring) {a : Nat} (palette : 0x3F00 ≤ unwrap a) :
    canonical m (canonical m a) = canonical m a := by
  have folded := (paletteBase_le_canonical_iff m a).2 palette
  rw [canonical_of_palette m (a := canonical m a) (by rw [unwrap_canonical]; exact folded),
    unwrap_canonical, canonical_of_palette m palette, Nat.add_sub_cancel_left, paletteCell_idem]

theorem canonical_canonical_pattern (m : Mirroring) {a : Nat} (below : unwrap a < 0x2000) :
    canonical m (canonical m a) = canonical m a := by
  rw [canonical_of_pattern m (a := canonical m a)
      (by rw [unwrap_canonical, canonical_of_pattern m below]; exact below), unwrap_canonical]

/-- Folding keeps the place within `repetition`. -/
theorem canonical_mod_repetition (m : Mirroring) {a : Nat} (above : 0x2000 ≤ unwrap a)
    (below : unwrap a < 0x3000) : canonical m a % repetition m = unwrap a % repetition m := by
  rw [canonical_of_nametable m above below]
  cases m <;> simp only [tableOf, repetition] <;> omega

theorem canonical_canonical_nametable (m : Mirroring) {a : Nat} (above : 0x2000 ≤ unwrap a)
    (below : unwrap a < 0x3000) :
    canonical m (canonical m a) = 0x2000 + unwrap a % repetition m := by
  have unwrapped := unwrap_canonical m a
  have folded_below := canonical_lt_of_nametable m below
  have folded_above := le_canonical_of_nametable m above below
  rw [canonical_of_nametable m (a := canonical m a) (by omega) (by omega), unwrapped,
    canonical_of_nametable m above below]
  cases m <;> simp only [tableOf, repetition] <;> omega

/-- The second folding moves an address exactly if it names one of the two lower nametables of a
horizontal arrangement. -/
theorem canonical_canonical_eq_iff (m : Mirroring) (a : Nat) :
    canonical m (canonical m a) = canonical m a ↔ ¬ (m = .horizontal ∧ InLowerTables a) := by
  unfold InLowerTables
  rcases unwrap_bounds a with below | palette
  · by_cases table : 0x2000 ≤ unwrap a
    · rw [canonical_canonical_nametable m table below, canonical_of_nametable m table below]
      cases m <;> simp only [tableOf, repetition, true_and, reduceCtorEq, false_and, not_false_eq_true,
        iff_true] <;> omega
    · rw [canonical_canonical_pattern m (by omega)]
      simp only [true_iff]
      omega
  · rw [canonical_canonical_palette m palette.1]
    simp only [true_iff]
    omega

namespace VideoMemory

theorem fold_eq_canonical (m : VideoMemory) (a : Nat) : m.fold a = canonical m.mirroring a := rfl

theorem cell_eq_iff (m : VideoMemory) (a b : Nat) : m.cell a = m.cell b ↔ m.fold a = m.fold b :=
  Fin.ext_iff

@[simp] theorem mirroring_write (m : VideoMemory) (a : Nat) (v : UInt8) :
    (m.write a v).mirroring = m.mirroring := by
  unfold write
  dsimp only
  split <;> rfl

@[simp] theorem fold_write (m : VideoMemory) (a b : Nat) (v : UInt8) :
    (m.write a v).fold b = m.fold b := by
  rw [fold_eq_canonical, mirroring_write, fold_eq_canonical]

theorem entryZero_iff (m : VideoMemory) (a : Nat) :
    (paletteBase ≤ (m.cell a).val ∧ (m.cell a).val % 4 = 0) ↔ IsEntryZero a := by
  change (paletteBase ≤ canonical m.mirroring a ∧ canonical m.mirroring a % 4 = 0) ↔ _
  unfold IsEntryZero
  rw [paletteBase_le_canonical_iff]
  refine and_congr_right fun palette => ?_
  unfold paletteBase at palette
  rw [canonical_of_palette _ palette]
  unfold paletteCell
  split <;> omega

/-- A store shows at every address of its place, and at the universal background colour if it is made
to entry zero of a palette. -/
theorem get_write (m : VideoMemory) (a : Nat) (v : UInt8) (c : Fin 0x4000) :
    (m.write a v).bytes.get c =
      if c.val = m.fold a ∨ (IsEntryZero a ∧ c = backdrop) then v else m.bytes.get c := by
  have place : m.cell a = c ↔ c.val = m.fold a := by
    rw [Fin.ext_iff]; exact eq_comm
  have universal : backdrop = c ↔ c = backdrop := eq_comm
  unfold write
  dsimp only
  by_cases entry : IsEntryZero a
  · rw [if_pos ((m.entryZero_iff a).2 entry)]
    simp only [store, Bytes.get_set, place, universal, entry, true_and]
    by_cases shown : c = backdrop <;> by_cases placed : c.val = m.fold a <;> simp [shown, placed]
  · rw [if_neg (mt (m.entryZero_iff a).1 entry)]
    simp only [store, Bytes.get_set, place, entry, false_and, or_false]

theorem read_write (m : VideoMemory) (a b : Nat) (v : UInt8) :
    (m.write a v).read b =
      if m.fold b = m.fold a ∨ (IsEntryZero a ∧ m.fold b = paletteBase) then v else m.read b := by
  have cells : (m.write a v).cell b = m.cell b := by
    apply Fin.ext
    exact m.fold_write a b v
  have universal : m.cell b = backdrop ↔ m.fold b = paletteBase := Fin.ext_iff
  unfold read
  rw [cells, get_write]
  simp only [universal]
  rfl

end VideoMemory

end Famicom.Picture

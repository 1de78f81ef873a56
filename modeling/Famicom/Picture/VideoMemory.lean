import Famicom.Bytes
import Famicom.Cartridge.Header

/-!
# Video memory

Sixteen kilobytes: two pattern tables, four nametables and the palettes. Many addresses name the
same place, so every address is folded onto the canonical one before memory is touched.

* `canonical_lt`: a canonical address lies in the memory.

The canonical address says which memory is used, not which table was meant: with horizontal
mirroring the lower tables use the second kilobyte, and the address of that kilobyte is one of the
upper tables. A canonical address must not be folded again as if it were the address it came from.
-/

namespace Famicom.Picture

/-- Number of the nametable that stands in for table `t` of four. -/
def tableOf (m : Mirroring) (t : Nat) : Nat :=
  match m with
  | .horizontal => t / 2
  | .vertical => t % 2
  | .fourScreen => t

/-- The first palette cell. -/
def paletteBase : Nat := 0x3F00

/-- The canonical palette cell; entry zero of a sprite palette is that of the background palette. -/
def paletteCell (i : Nat) : Nat :=
  if 0x10 ≤ i % 32 ∧ i % 4 = 0 then i % 32 - 0x10 else i % 32

/-- Addresses repeat after sixteen kilobytes, and the nametables once more below the palettes. -/
def unwrap (address : Nat) : Nat :=
  let a := address % 0x4000
  if 0x3000 ≤ a ∧ a < paletteBase then a - 0x1000 else a

/-- The canonical address of the place that `address` names. -/
def canonical (m : Mirroring) (address : Nat) : Nat :=
  let a := unwrap address
  if paletteBase ≤ a then paletteBase + paletteCell (a - paletteBase)
  else if 0x2000 ≤ a then 0x2000 + tableOf m ((a - 0x2000) / 0x400) * 0x400 + a % 0x400
  else a

/-- Below the palettes, unwrapping leaves the four nametables and what precedes them. -/
theorem unwrap_bounds (a : Nat) : unwrap a < 0x3000 ∨ (0x3F00 ≤ unwrap a ∧ unwrap a < 0x4000) := by
  unfold unwrap paletteBase
  by_cases mirror : 0x3000 ≤ a % 0x4000 ∧ a % 0x4000 < 0x3F00
  · rw [if_pos mirror]
    omega
  · rw [if_neg mirror]
    omega

theorem unwrap_of_lt {a : Nat} (bounds : a < 0x3000 ∨ (0x3F00 ≤ a ∧ a < 0x4000)) :
    unwrap a = a := by
  unfold unwrap paletteBase
  rw [if_neg (by omega)]
  omega

theorem paletteCell_lt (i : Nat) : paletteCell i < 32 := by
  unfold paletteCell
  split <;> omega

theorem paletteCell_idem (i : Nat) : paletteCell (paletteCell i) = paletteCell i := by
  unfold paletteCell
  repeat' split
  all_goals omega

theorem tableOf_lt (m : Mirroring) {t : Nat} (few : t < 4) : tableOf m t < 4 := by
  cases m <;> simp only [tableOf] <;> omega

theorem canonical_of_palette (m : Mirroring) {a : Nat} (palette : 0x3F00 ≤ unwrap a) :
    canonical m a = 0x3F00 + paletteCell (unwrap a - 0x3F00) := by
  simp only [canonical, paletteBase, palette, if_true]

theorem canonical_of_nametable (m : Mirroring) {a : Nat} (above : 0x2000 ≤ unwrap a)
    (below : unwrap a < 0x3000) :
    canonical m a = 0x2000 + tableOf m ((unwrap a - 0x2000) / 0x400) * 0x400 +
      unwrap a % 0x400 := by
  have other : ¬ 0x3F00 ≤ unwrap a := by omega
  simp only [canonical, paletteBase, other, above, if_true, if_false]

theorem canonical_of_pattern (m : Mirroring) {a : Nat} (below : unwrap a < 0x2000) :
    canonical m a = unwrap a := by
  have other : ¬ 0x3F00 ≤ unwrap a := by omega
  have other' : ¬ 0x2000 ≤ unwrap a := by omega
  simp only [canonical, paletteBase, other, other', if_false]

/-- A canonical address is one that unwrapping leaves alone. -/
theorem unwrap_canonical (m : Mirroring) (a : Nat) :
    unwrap (canonical m a) = canonical m a := by
  apply unwrap_of_lt
  rcases unwrap_bounds a with below | palette
  · by_cases table : 0x2000 ≤ unwrap a
    · have number := tableOf_lt m (t := (unwrap a - 0x2000) / 0x400) (by omega)
      rw [canonical_of_nametable m table below]
      omega
    · rw [canonical_of_pattern m (by omega)]
      omega
  · have cell := paletteCell_lt (unwrap a - 0x3F00)
    rw [canonical_of_palette m palette.1]
    omega

/-- A canonical address lies in the memory. -/
theorem canonical_lt (m : Mirroring) (a : Nat) : canonical m a < 0x4000 := by
  have bounds := unwrap_bounds (canonical m a)
  rw [unwrap_canonical] at bounds
  omega

/-- Video memory of a console with a given cartridge. -/
structure VideoMemory where
  bytes : Bytes 0x4000
  mirroring : Mirroring

namespace VideoMemory

/-- Memory with the tiles of a cartridge in its pattern tables. -/
def ofTiles (tiles : ByteArray) (mirroring : Mirroring) : VideoMemory :=
  { bytes := (Bytes.fill 0).overwrite 0 (tiles.extract 0 0x2000), mirroring }

/-- Memory without tiles and with four independent nametables. -/
def blank : VideoMemory := ofTiles .empty .fourScreen

instance : Inhabited VideoMemory := ⟨blank⟩

/-- The canonical address of the place that `address` names. -/
def fold (m : VideoMemory) (address : Nat) : Nat := canonical m.mirroring address

/-- The cell that `address` names. -/
def cell (m : VideoMemory) (address : Nat) : Fin 0x4000 :=
  ⟨m.fold address, canonical_lt m.mirroring address⟩

def read (m : VideoMemory) (address : Nat) : UInt8 := m.bytes.get (m.cell address)

def store (m : VideoMemory) (c : Fin 0x4000) (v : UInt8) : VideoMemory :=
  { m with bytes := m.bytes.set c v }

/-- The cell of the universal background colour. -/
def backdrop : Fin 0x4000 := ⟨paletteBase, by decide⟩

/-- Stores a byte as the processor does: entry zero of any palette is the universal background
colour as well. -/
def write (m : VideoMemory) (address : Nat) (v : UInt8) : VideoMemory :=
  let c := m.cell address
  if paletteBase ≤ c.val ∧ c.val % 4 = 0 then (m.store c v).store backdrop v else m.store c v

/-- Entry `entry` of palette `index`; entry zero is the universal background colour. -/
def paletteEntry (m : VideoMemory) (index entry : Nat) : UInt8 :=
  if entry = 0 then m.read paletteBase else m.read (paletteBase + index % 8 * 4 + entry)

/-- The four colours of a palette; the first four palettes are for the background. -/
def palette (m : VideoMemory) (index : Nat) : List UInt8 :=
  [m.paletteEntry index 0, m.paletteEntry index 1, m.paletteEntry index 2, m.paletteEntry index 3]

end VideoMemory

end Famicom.Picture

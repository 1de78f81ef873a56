import Famicom.Bytes

/-!
# Frames

A picture of 256 by 240 pixels. Each pixel is the number of its colour, one of sixty-four that are
named by the six low bits of a byte.

* `pixel_set`: a store shows at its own pixel and nowhere else.
-/

namespace Famicom.Picture

/-! ## Colours -/

structure Rgb where
  red : UInt8
  green : UInt8
  blue : UInt8
  deriving DecidableEq, Repr

/-- The components of a number whose bytes are red, green and blue. -/
def Rgb.ofNat (n : Nat) : Rgb :=
  { red := (n / 65536).toUInt8, green := (n / 256).toUInt8, blue := n.toUInt8 }

/-- The colours that the unit can produce. -/
def masterPalette : Array Rgb := #[
  0x626262, 0x001FB2, 0x2404C8, 0x5200B2, 0x730076, 0x800024, 0x730B00, 0x522800,
  0x244400, 0x005700, 0x005C00, 0x005324, 0x003C76, 0x000000, 0x000000, 0x000000,
  0xABABAB, 0x0D57FF, 0x4B30FF, 0x8A13FF, 0xBC08D6, 0xD21269, 0xC72E00, 0x9D5400,
  0x607B00, 0x209800, 0x00A300, 0x009942, 0x007DB4, 0x000000, 0x000000, 0x000000,
  0xFFFFFF, 0x53AEFF, 0x9085FF, 0xD365FF, 0xFF57FF, 0xFF5DCF, 0xFF7757, 0xFA9E00,
  0xBDC700, 0x7AE700, 0x43F611, 0x26EF7E, 0x2CD5F6, 0x4E4E4E, 0x000000, 0x000000,
  0xFFFFFF, 0xB6E1FF, 0xCED1FF, 0xE9C3FF, 0xFFBCFF, 0xFFBDF4, 0xFFC6C3, 0xFFD59A,
  0xE9E681, 0xCEF481, 0xB6FB9A, 0xA9FAC3, 0xA9F0F4, 0xB8B8B8, 0x000000, 0x000000].map Rgb.ofNat

/-- The number of a colour: its six low bits. -/
def colourNumber (v : UInt8) : UInt8 := v &&& 0x3F

/-- The colour that a byte of palette memory stands for. -/
def rgb (v : UInt8) : Rgb := masterPalette.getD (colourNumber v).toNat ⟨0, 0, 0⟩

/-- The number of a black colour. -/
def black : UInt8 := 0x0F

/-! ## Frames -/

def screenWidth : Nat := 256

def screenHeight : Nat := 240

structure Frame where
  cells : Bytes 61440

namespace Frame

/-- The cell of a pixel, row by row. -/
def cell (x : Fin 256) (y : Fin 240) : Fin 61440 := ⟨y.val * 256 + x.val, by omega⟩

/-- The picture in which the colour of each pixel is given by a function. -/
def ofFn (f : Fin 256 → Fin 240 → UInt8) : Frame :=
  ⟨Bytes.tabulate fun i =>
    f ⟨i.val % 256, Nat.mod_lt _ (by decide)⟩ ⟨i.val / 256, by omega⟩⟩

/-- The picture before anything was drawn. -/
def blank : Frame := ⟨Bytes.fill black⟩

instance : Inhabited Frame := ⟨blank⟩

def pixel (f : Frame) (x : Fin 256) (y : Fin 240) : UInt8 := f.cells.get (cell x y)

def set (f : Frame) (x : Fin 256) (y : Fin 240) (v : UInt8) : Frame := ⟨f.cells.set (cell x y) v⟩

/-- The picture as bytes: red, green and blue of each pixel, row by row. -/
def toRgb (f : Frame) : ByteArray :=
  f.cells.data.foldl (fun acc v =>
    let c := rgb v
    ((acc.push c.red).push c.green).push c.blue) (ByteArray.emptyWithCapacity 184320)

theorem cell_inj {x x' : Fin 256} {y y' : Fin 240} : cell x y = cell x' y' ↔ x = x' ∧ y = y' := by
  simp only [cell, Fin.ext_iff]
  omega

/-- A store shows at its own pixel and nowhere else. -/
theorem pixel_set (f : Frame) (x x' : Fin 256) (y y' : Fin 240) (v : UInt8) :
    (f.set x y v).pixel x' y' = if x = x' ∧ y = y' then v else f.pixel x' y' := by
  simp only [pixel, set, Bytes.get_set, cell_inj]

@[simp] theorem pixel_ofFn (f : Fin 256 → Fin 240 → UInt8) (x : Fin 256) (y : Fin 240) :
    (ofFn f).pixel x y = f x y := by
  have across : (⟨(cell x y).val % 256, Nat.mod_lt _ (by decide)⟩ : Fin 256) = x :=
    Fin.ext (by change (y.val * 256 + x.val) % 256 = x.val; omega)
  have down : (⟨(cell x y).val / 256, by omega⟩ : Fin 240) = y :=
    Fin.ext (by change (y.val * 256 + x.val) / 256 = y.val; omega)
  simp only [pixel, ofFn, Bytes.get_tabulate, across, down]

end Frame

end Famicom.Picture

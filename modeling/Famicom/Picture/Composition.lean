import Famicom.Picture.Frame
import Famicom.Picture.Register
import Famicom.Picture.VideoMemory

/-!
# Composition

A frame is composed at once from a scene: the tables latched for it, video memory with the
patterns, sprite memory and the two settings. The background gives every pixel a colour; the
sprites are then drawn over it, the first one last, so that it ends up on top.

* `Scene.backgroundIndex` is the two-bit pattern index of the background at a pixel.
* `Scene.compose` is the whole picture.
-/

namespace Famicom.Picture

/-- The nametable, attributes and background palettes that a frame is drawn with. The palettes are
four of four colours. -/
structure Latch where
  tiles : Bytes 960
  attributes : Bytes 64
  palettes : Bytes 16

namespace Latch

/-- A latch before anything was latched. -/
def blank : Latch := ⟨.fill 0, .fill 0, .fill 0⟩

instance : Inhabited Latch := ⟨blank⟩

/-- What the selected nametable and the background palettes hold now. -/
def take (memory : VideoMemory) (control : Control) : Latch where
  tiles := .tabulate fun i => memory.read (control.nametableBase + i.val)
  attributes := .tabulate fun i => memory.read (control.nametableBase + 0x3C0 + i.val)
  palettes := .tabulate fun i => memory.paletteEntry (i.val / 4) (i.val % 4)

end Latch

/-- The two-bit index of the `x`-th pixel from the left in a row of a pattern. -/
def patternIndex (low high : UInt8) (x : Nat) : Nat :=
  (high.toNat >>> (7 - x)) % 2 * 2 + (low.toNat >>> (7 - x)) % 2

theorem patternIndex_lt (low high : UInt8) (x : Nat) : patternIndex low high x < 4 := by
  unfold patternIndex
  omega

/-- Everything that a frame is composed from. Each of the sixty-four sprites has four bytes: its
position below the top, tile, attributes and position from the left. -/
structure Scene where
  latch : Latch
  memory : VideoMemory
  sprites : Bytes 256
  control : Control
  mask : Mask

/-- A sprite as it lies in memory. -/
structure Sprite where
  y : UInt8
  tile : UInt8
  attributes : UInt8
  x : UInt8
  deriving DecidableEq, Repr

namespace Sprite

/-- Whether the sprite is not shown because it starts too low. -/
def isHidden (s : Sprite) : Bool := 0xEF ≤ s.y

def flipsAcross (s : Sprite) : Bool := s.attributes &&& 0x40 != 0

def flipsDown (s : Sprite) : Bool := s.attributes &&& 0x80 != 0

/-- Whether the background covers the sprite where it is not transparent. -/
def isBehind (s : Sprite) : Bool := s.attributes &&& 0x20 != 0

/-- The number of the sprite's palette. -/
def palette (s : Sprite) : Nat := 4 + (s.attributes &&& 3).toNat

/-- The first line on which the sprite shows. -/
def top (s : Sprite) : Nat := s.y.toNat + 1

end Sprite

namespace Scene

/-- The byte of a pattern table. -/
def pattern (s : Scene) (address : Fin 0x2000) : UInt8 :=
  s.memory.bytes.get ⟨address.val, by omega⟩

/-- The pattern index of one pixel of a tile in the pattern table at `table`. -/
def tileIndex (s : Scene) (table tile line column : Nat) : Nat :=
  let row := (table + tile * 16 + line) % 0x2000
  patternIndex (s.pattern ⟨row, Nat.mod_lt _ (by decide)⟩)
    (s.pattern ⟨(row + 8) % 0x2000, Nat.mod_lt _ (by decide)⟩) column

/-- The tile of the nametable that covers a pixel. -/
def tileAt (s : Scene) (x : Fin 256) (y : Fin 240) : UInt8 :=
  s.latch.tiles.get ⟨y.val / 8 * 32 + x.val / 8, by omega⟩

/-- The background palette of a pixel: two bits of an attribute byte, which has four such pairs for
the quarters of a square of four by four tiles. -/
def paletteAt (s : Scene) (x : Fin 256) (y : Fin 240) : Nat :=
  let pairs := s.latch.attributes.get ⟨y.val / 32 * 8 + x.val / 32, by omega⟩
  let quarter := y.val / 16 % 2 * 2 + x.val / 16 % 2
  (pairs.toNat >>> (quarter * 2)) % 4

/-- The pattern index of the background at a pixel. -/
def backgroundIndex (s : Scene) (x : Fin 256) (y : Fin 240) : Nat :=
  s.tileIndex s.control.backgroundPatterns (s.tileAt x y).toNat (y.val % 8) (x.val % 8)

/-- The colour of the background at a pixel. -/
def backgroundColour (s : Scene) (x : Fin 256) (y : Fin 240) : UInt8 :=
  let entry := s.paletteAt x y * 4 + s.backgroundIndex x y
  colourNumber (s.latch.palettes.get ⟨entry % 16, Nat.mod_lt _ (by decide)⟩)

/-- The sprite with the given number. -/
def sprite (s : Scene) (i : Fin 64) : Sprite where
  y := s.sprites.get ⟨4 * i.val, by omega⟩
  tile := s.sprites.get ⟨4 * i.val + 1, by omega⟩
  attributes := s.sprites.get ⟨4 * i.val + 2, by omega⟩
  x := s.sprites.get ⟨4 * i.val + 3, by omega⟩

/-- The pattern index of a sprite at a line and column of the sprite, before flipping. A tall sprite
chooses its pattern table by bit zero of its tile and is made of two tiles, one below the other. -/
def spriteIndex (s : Scene) (p : Sprite) (line column : Nat) : Nat :=
  if s.control.tallSprites then
    s.tileIndex (p.tile.toNat % 2 * 0x1000) (p.tile.toNat / 2 * 2 + line / 8) (line % 8) column
  else s.tileIndex s.control.spritePatterns p.tile.toNat line column

/-- The pattern index of a sprite at an offset from its upper left corner. -/
def shownIndex (s : Scene) (p : Sprite) (down across : Nat) : Nat :=
  s.spriteIndex p (if p.flipsDown then s.control.spriteHeight - 1 - down else down)
    (if p.flipsAcross then 7 - across else across)

/-- Draws one pixel of a sprite, if it is on the screen, not transparent and not covered. -/
def drawPixel (s : Scene) (p : Sprite) (down across : Nat) (f : Frame) : Frame :=
  if inside_y : p.top + down < 240 then
    if inside_x : p.x.toNat + across < 256 then
      let x : Fin 256 := ⟨p.x.toNat + across, inside_x⟩
      let y : Fin 240 := ⟨p.top + down, inside_y⟩
      let index := s.shownIndex p down across
      if index = 0 ∨ (p.isBehind ∧ s.backgroundIndex x y ≠ 0) then f
      else f.set x y (colourNumber (s.memory.paletteEntry p.palette index))
    else f
  else f

/-- Draws one sprite, line by line. -/
def drawSprite (s : Scene) (p : Sprite) (f : Frame) : Frame :=
  if p.isHidden then f
  else (List.range s.control.spriteHeight).foldl
    (fun f down => (List.range 8).foldl (fun f across => s.drawPixel p down across f) f) f

/-- The background alone. -/
def background (s : Scene) : Frame := .ofFn s.backgroundColour

/-- The whole picture. -/
def compose (s : Scene) : Frame :=
  if s.mask.showsSprites then
    (List.finRange 64).foldr (fun i f => s.drawSprite (s.sprite i) f) s.background
  else s.background

end Scene

end Famicom.Picture

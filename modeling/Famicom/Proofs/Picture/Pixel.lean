import Famicom.Proofs.Word
import Famicom.Proofs.Picture.Folding
import Famicom.Proofs.Picture.Painter
import Famicom.Proofs.Picture.Snapshot

/-!
# The colour of a pixel

A frame is painted in loops, but the colour of a pixel follows a rule that mentions no loop: it is that
of the first sprite that shows there, or else that of the background. The rule is written down here on
video memory and sprite memory as they are, without latches and without a canvas.

* `groundIndex`, `groundPalette`: what the background has at a pixel.
* `Shows`: when a sprite shows at a pixel, apart from the sprites before it.
* `paints_drawSprite`: drawing a sprite colours the pixels at which it shows, and no others.
* `composed_by_pixel`: completing scanline 0 composes the picture of the rule, and paints it with every
  index in range.
-/

namespace Famicom.Picture

/-! ## The rule -/

/-- A bit of a byte, as a number. -/
def bit (v : UInt8) (i : Nat) : Nat := v.toNat / 2 ^ i % 2

/-- The index of a pixel of the tile whose sixteen bytes begin at an address: one bit from each of its
two planes of eight lines. -/
def texel (m : VideoMemory) (tile line column : Nat) : Nat :=
  2 * bit (m.read (tile + line + 8)) (7 - column) + bit (m.read (tile + line)) (7 - column)

/-- The colour of an entry of a palette; entry zero of every palette is the backdrop. -/
def entryColour (m : VideoMemory) (palette entry : Nat) : UInt8 :=
  colourNumber (m.read (if entry = 0 then 0x3F00 else 0x3F00 + 4 * palette + entry))

namespace PictureUnit

variable (u : PictureUnit)

/-- Where the selected nametable begins. -/
def tableStart : Nat := 0x2000 + 0x400 * (u.control.bits.toNat % 4)

/-- The index of the background at a pixel. -/
def groundIndex (x y : Nat) : Nat :=
  let tile := u.memory.read (u.tableStart + 32 * (y / 8) + x / 8)
  texel u.memory (0x1000 * bit u.control.bits 4 + 16 * tile.toNat) (y % 8) (x % 8)

/-- The palette of the background at a pixel: two bits of an attribute byte, for a quarter of the square
of four by four tiles that the byte stands for. -/
def groundPalette (x y : Nat) : Nat :=
  let pairs := u.memory.read (u.tableStart + 0x3C0 + 8 * (y / 32) + x / 32)
  pairs.toNat / 4 ^ (2 * (y / 16 % 2) + x / 16 % 2) % 4

/-- The height of sprites in lines. -/
def height : Nat := if bit u.control.bits 5 = 1 then 16 else 8

/-- One of the four bytes of a sprite. -/
def spriteByte (i : Fin 64) (field : Fin 4) : UInt8 :=
  u.sprites.get ⟨4 * i.val + field.val, by omega⟩

/-- The sprite with the given number. -/
def sprite (i : Fin 64) : Sprite where
  y := u.spriteByte i 0
  tile := u.spriteByte i 1
  attributes := u.spriteByte i 2
  x := u.spriteByte i 3

/-- The index that a sprite has at a pixel inside of it, the right way round. -/
def spriteIndex (p : Sprite) (x y : Nat) : Nat :=
  let down := y - (p.y.toNat + 1)
  let across := x - p.x.toNat
  let line := if bit p.attributes 7 = 1 then u.height - 1 - down else down
  let column := if bit p.attributes 6 = 1 then 7 - across else across
  if bit u.control.bits 5 = 1 then
    let tile := p.tile.toNat - p.tile.toNat % 2 + line / 8
    texel u.memory (0x1000 * (p.tile.toNat % 2) + 16 * tile) (line % 8) column
  else texel u.memory (0x1000 * bit u.control.bits 3 + 16 * p.tile.toNat) line column

/-- A sprite shows at a pixel, unless one before it does. -/
structure Shows (p : Sprite) (x y : Nat) : Prop where
  enabled : bit u.mask.bits 4 = 1
  onScreen : p.y.toNat < 0xEF
  down : p.y.toNat + 1 ≤ y ∧ y < p.y.toNat + 1 + u.height
  across : p.x.toNat ≤ x ∧ x < p.x.toNat + 8
  solid : u.spriteIndex p x y ≠ 0
  inFront : ¬ (bit p.attributes 5 = 1 ∧ u.groundIndex x y ≠ 0)

/-- The scene that the frame is composed from when scanline 0 is completed. -/
def latchedScene : Scene :=
  { latch := .take u.memory u.control, memory := u.memory, sprites := u.sprites
    control := u.control, mask := u.mask }

end PictureUnit

/-! ## Drawing a sprite -/

namespace Scene

variable (s : Scene)

/-- The colour that a sprite has at a pixel. -/
def spriteColour (p : Sprite) (x : Fin 256) (y : Fin 240) : UInt8 :=
  colourNumber (s.memory.paletteEntry p.palette (s.shownIndex p (y - p.top) (x - p.x.toNat)))

/-- One pixel of a sprite is drawn at a pixel of the screen. -/
def Marks (p : Sprite) (down across : Nat) (x : Fin 256) (y : Fin 240) : Prop :=
  x.val = p.x.toNat + across ∧ y.val = p.top + down ∧ s.shownIndex p down across ≠ 0 ∧
    ¬ (p.isBehind = true ∧ s.backgroundIndex x y ≠ 0)

theorem paints_drawPixel (p : Sprite) (down across : Nat) (f : Frame) :
    Paints Frame.pixel (s.Marks p down across) (s.spriteColour p) f
      (s.drawPixel p down across f) := by
  unfold drawPixel
  by_cases inside_y : p.top + down < 240
  case neg =>
    rw [dif_neg inside_y]
    exact .refl fun x y marks => inside_y (marks.2.1 ▸ y.isLt)
  by_cases inside_x : p.x.toNat + across < 256
  case neg =>
    rw [dif_pos inside_y, dif_neg inside_x]
    exact .refl fun x y marks => inside_x (marks.1 ▸ x.isLt)
  rw [dif_pos inside_y, dif_pos inside_x]
  have place {x : Fin 256} {y : Fin 240} (marks : s.Marks p down across x y) :
      x = ⟨p.x.toNat + across, inside_x⟩ ∧ y = ⟨p.top + down, inside_y⟩ :=
    ⟨Fin.ext marks.1, Fin.ext marks.2.1⟩
  dsimp only
  split
  case isTrue passed =>
    refine .refl fun x y marks => ?_
    obtain ⟨rfl, rfl⟩ := place marks
    exact passed.elim marks.2.2.1 marks.2.2.2
  case isFalse drawn =>
    rw [not_or] at drawn
    refine ⟨fun {x y} marks => ?_, fun {x y} outside => ?_⟩
    · obtain ⟨rfl, rfl⟩ := place marks
      rw [Frame.pixel_set, if_pos ⟨rfl, rfl⟩]
      simp only [spriteColour, Nat.add_sub_cancel_left]
    · rw [Frame.pixel_set, if_neg]
      rintro ⟨rfl, rfl⟩
      exact outside ⟨rfl, rfl, drawn.1, drawn.2⟩

/-- A sprite is drawn at a pixel. -/
structure Covers (p : Sprite) (x : Fin 256) (y : Fin 240) : Prop where
  onScreen : p.isHidden = false
  down : p.top ≤ y ∧ y < p.top + s.control.spriteHeight
  across : p.x.toNat ≤ x ∧ x < p.x.toNat + 8
  solid : s.shownIndex p (y - p.top) (x - p.x.toNat) ≠ 0
  inFront : ¬ (p.isBehind = true ∧ s.backgroundIndex x y ≠ 0)

/-- **Drawing a sprite colours the pixels that it covers**, and no others. -/
theorem paints_drawSprite (p : Sprite) (f : Frame) :
    Paints Frame.pixel (s.Covers p) (s.spriteColour p) f (s.drawSprite p f) := by
  unfold drawSprite
  split
  case isTrue hidden => exact .refl fun x y covers => absurd hidden (by simp [covers.onScreen])
  case isFalse shown =>
    refine (paints_foldl (fun down _ f => paints_foldl (fun across _ f =>
      s.paints_drawPixel p down across f) f) f).congr fun x y => ?_
    simp only [List.mem_range]
    constructor
    · intro covers
      obtain ⟨top, bottom⟩ := covers.down
      obtain ⟨left, right⟩ := covers.across
      exact ⟨y - p.top, by omega, x - p.x.toNat, by omega, by omega, by omega, covers.solid,
        covers.inFront⟩
    · rintro ⟨down, lines, across, columns, left, top, solid, inFront⟩
      have offsets : y.val - p.top = down ∧ x.val - p.x.toNat = across := by omega
      refine ⟨by simpa using shown, by omega, by omega, ?_, inFront⟩
      rw [offsets.1, offsets.2]
      exact solid

/-- Sprites drawn from the last to the first leave the first one on top. -/
theorem pixel_foldr_drawSprite {l : List (Fin 64)} (ascending : l.Pairwise (· < ·)) (f : Frame)
    (x : Fin 256) (y : Fin 240) :
    (∀ i ∈ l, s.Covers (s.sprite i) x y → (∀ j < i, ¬ s.Covers (s.sprite j) x y) →
        (l.foldr (fun i f => s.drawSprite (s.sprite i) f) f).pixel x y =
          s.spriteColour (s.sprite i) x y) ∧
      ((∀ i ∈ l, ¬ s.Covers (s.sprite i) x y) →
        (l.foldr (fun i f => s.drawSprite (s.sprite i) f) f).pixel x y = f.pixel x y) := by
  induction l with
  | nil => exact ⟨fun i member => absurd member List.not_mem_nil, fun _ => rfl⟩
  | cons a l ih =>
    -- The head has the lowest number and is drawn last, so nothing is drawn over it.
    obtain ⟨before, ascending⟩ := List.pairwise_cons.mp ascending
    obtain ⟨first, none⟩ := ih ascending
    have drawn := s.paints_drawSprite (s.sprite a)
      (l.foldr (fun i f => s.drawSprite (s.sprite i) f) f)
    rw [List.foldr_cons]
    constructor
    · intro i member covers lowest
      obtain rfl | later := List.mem_cons.mp member
      · exact drawn.inside covers
      · rw [drawn.outside (lowest a (before i later))]
        exact first i later covers lowest
    · intro nowhere
      rw [drawn.outside (nowhere a List.mem_cons_self)]
      exact none fun i member => nowhere i (List.mem_cons_of_mem a member)

end Scene

/-! ## The rule and the scene -/

section

variable (m : VideoMemory)

theorem read_eq_get {a : Nat} (low : a < 0x2000) : m.read a = m.bytes.get ⟨a, by omega⟩ := by
  have same : unwrap a = a := unwrap_of_lt (by omega)
  have cell : m.cell a = ⟨a, by omega⟩ :=
    Fin.ext ((canonical_of_pattern m.mirroring (by rwa [same])).trans same)
  exact congrArg m.bytes.get cell

theorem patternIndex_eq (low high : UInt8) (column : Nat) :
    patternIndex low high column = 2 * bit high (7 - column) + bit low (7 - column) := by
  simp only [patternIndex, bit, Nat.shiftRight_eq_div_pow]
  omega

/-- The line of a tile in the pattern tables, by the addresses of its bytes. -/
theorem tileIndex_eq_texel (s : Scene) {table tile line : Nat}
    (within : table + tile * 16 + line + 8 < 0x2000) (column : Nat) :
    s.tileIndex table tile line column =
      texel s.memory (table + 16 * tile) line column := by
  obtain ⟨low, high, first, second, indices⟩ := s.exists_line within
  rw [Bytes.get?_of_lt _ (by omega)] at first second
  rw [indices, patternIndex_eq, texel, Nat.mul_comm 16, read_eq_get _ within,
    read_eq_get _ (by omega), Option.some.inj first, Option.some.inj second]

/-- A palette is read at its entry. -/
theorem colourNumber_paletteEntry {palette entry : Nat} (few : palette < 8) :
    colourNumber (m.paletteEntry palette entry) = entryColour m palette entry := by
  unfold VideoMemory.paletteEntry entryColour paletteBase
  rw [Nat.mod_eq_of_lt few, Nat.mul_comm palette]
  split <;> rfl

end

namespace Control

variable (c : Control)

theorem tallSprites_iff : c.tallSprites = true ↔ bit c.bits 5 = 1 := and_mask_iff c.bits rfl

theorem nametableBase_eq : c.nametableBase = 0x2000 + 0x400 * (c.bits.toNat % 4) := by
  rw [nametableBase, nametable, toNat_and_three, Nat.mul_comm]

theorem backgroundPatterns_eq : c.backgroundPatterns = 0x1000 * bit c.bits 4 := by
  have flag : bit c.bits 4 = 0 ∨ bit c.bits 4 = 1 := Nat.mod_two_eq_zero_or_one _
  have on : (c.bits &&& 0x10 != 0) = true ↔ bit c.bits 4 = 1 := and_mask_iff c.bits rfl
  unfold backgroundPatterns
  simp only [on]
  rcases flag with off | on <;> simp [*]

theorem spritePatterns_eq : c.spritePatterns = 0x1000 * bit c.bits 3 := by
  have flag : bit c.bits 3 = 0 ∨ bit c.bits 3 = 1 := Nat.mod_two_eq_zero_or_one _
  have on : (c.bits &&& 0x08 != 0) = true ↔ bit c.bits 3 = 1 := and_mask_iff c.bits rfl
  unfold spritePatterns
  simp only [on]
  rcases flag with off | on <;> simp [*]

end Control

namespace PictureUnit

variable (u : PictureUnit) (x : Fin 256) (y : Fin 240)

theorem tileAt_latchedScene :
    u.latchedScene.tileAt x y = u.memory.read (u.tableStart + 32 * (y.val / 8) + x.val / 8) := by
  have latched : u.latchedScene.tileAt x y =
      u.memory.read (u.control.nametableBase + (y.val / 8 * 32 + x.val / 8)) :=
    Bytes.get_tabulate _ _
  rw [latched, Control.nametableBase_eq, tableStart, Nat.mul_comm (y.val / 8)]
  simp only [Nat.add_assoc]

theorem backgroundIndex_latchedScene :
    u.latchedScene.backgroundIndex x y = u.groundIndex x y := by
  have table := Scene.backgroundPatterns_le u.control
  have tile := (u.latchedScene.tileAt x y).toNat_lt
  have within : u.control.backgroundPatterns + (u.latchedScene.tileAt x y).toNat * 16 +
      y.val % 8 + 8 < 0x2000 := by omega
  refine (tileIndex_eq_texel u.latchedScene within _).trans ?_
  rw [tileAt_latchedScene, Control.backgroundPatterns_eq]
  rfl

theorem paletteAt_latchedScene : u.latchedScene.paletteAt x y = u.groundPalette x y := by
  have latched : u.latchedScene.latch.attributes.get ⟨y.val / 32 * 8 + x.val / 32, by omega⟩ =
      u.memory.read (u.control.nametableBase + 0x3C0 + (y.val / 32 * 8 + x.val / 32)) :=
    Bytes.get_tabulate _ _
  unfold Scene.paletteAt groundPalette
  dsimp only
  rw [latched, Control.nametableBase_eq, tableStart, Nat.mul_comm (y.val / 32),
    Nat.mul_comm (y.val / 16 % 2), Nat.shiftRight_eq_div_pow, Nat.mul_comm _ 2, Nat.pow_mul]
  simp only [Nat.add_assoc]

theorem groundPalette_lt (x y : Nat) : u.groundPalette x y < 4 := Nat.mod_lt _ (by decide)

theorem texel_lt (m : VideoMemory) (tile line column : Nat) : texel m tile line column < 4 := by
  unfold texel bit
  omega

/-- The background is coloured as the palettes have it. -/
theorem backgroundColour_latchedScene :
    u.latchedScene.backgroundColour x y =
      entryColour u.memory (u.groundPalette x y) (u.groundIndex x y) := by
  have few := u.groundPalette_lt x y
  have small : u.groundIndex x y < 4 := texel_lt _ _ _ _
  have entry : (u.groundPalette x y * 4 + u.groundIndex x y) % 16 / 4 = u.groundPalette x y ∧
      (u.groundPalette x y * 4 + u.groundIndex x y) % 16 % 4 = u.groundIndex x y := by omega
  simp only [Scene.backgroundColour, paletteAt_latchedScene, backgroundIndex_latchedScene]
  rw [← colourNumber_paletteEntry u.memory (Nat.lt_trans few (by decide))]
  refine congrArg colourNumber ((Bytes.get_tabulate _ _).trans ?_)
  rw [entry.1, entry.2]

/-! ### Sprites -/

variable (p : Sprite)

theorem spriteHeight_eq : u.control.spriteHeight = u.height := by
  simp only [Control.spriteHeight, height, Control.tallSprites_iff]

theorem isHidden_iff : p.isHidden = false ↔ p.y.toNat < 0xEF := by
  unfold Sprite.isHidden
  rw [decide_eq_false_iff_not, UInt8.not_le, UInt8.lt_iff_toNat_lt]
  rfl

/-- A sprite has its index at every pixel inside of it. -/
theorem shownIndex_latchedScene {p : Sprite} {x y : Nat}
    (down : p.y.toNat + 1 ≤ y ∧ y < p.y.toNat + 1 + u.height) :
    u.latchedScene.shownIndex p (y - p.top) (x - p.x.toNat) = u.spriteIndex p x y := by
  have tile := p.tile.toNat_lt
  have line : (if bit p.attributes 7 = 1 then u.height - 1 - (y - (p.y.toNat + 1))
      else y - (p.y.toNat + 1)) < u.height := by
    split <;> omega
  have flipsDown : p.flipsDown = true ↔ bit p.attributes 7 = 1 := and_mask_iff p.attributes rfl
  have flipsAcross : p.flipsAcross = true ↔ bit p.attributes 6 = 1 := and_mask_iff p.attributes rfl
  have lines : u.latchedScene.control.spriteHeight = u.height := spriteHeight_eq u
  -- Flips only choose the line and the column; from here on it does not matter how.
  unfold Scene.shownIndex Scene.spriteIndex spriteIndex
  simp only [flipsDown, flipsAcross, lines, Control.tallSprites_iff, Sprite.top]
  generalize (if bit p.attributes 7 = 1 then u.height - 1 - (y - (p.y.toNat + 1))
    else y - (p.y.toNat + 1)) = row at line
  generalize (if bit p.attributes 6 = 1 then 7 - (x - p.x.toNat) else x - p.x.toNat) = column
  unfold height at line
  change (if bit u.control.bits 5 = 1 then _ else _) = _
  by_cases tall : bit u.control.bits 5 = 1
  · rw [if_pos tall] at line ⊢
    rw [if_pos tall, tileIndex_eq_texel _ (by omega), Nat.mul_comm _ 0x1000]
    have upper : p.tile.toNat / 2 * 2 = p.tile.toNat - p.tile.toNat % 2 := by omega
    rw [upper]
    rfl
  · rw [if_neg tall] at line ⊢
    have table : u.latchedScene.control.spritePatterns = 0x1000 * bit u.control.bits 3 :=
      u.control.spritePatterns_eq
    have flag : bit u.control.bits 3 < 2 := Nat.mod_lt _ (by decide)
    rw [if_neg tall, table, tileIndex_eq_texel _ (by omega)]
    rfl

theorem spriteColour_latchedScene {p : Sprite} {x : Fin 256} {y : Fin 240}
    (down : p.y.toNat + 1 ≤ y ∧ y < p.y.toNat + 1 + u.height) :
    u.latchedScene.spriteColour p x y =
      entryColour u.memory (4 + p.attributes.toNat % 4) (u.spriteIndex p x y) := by
  have palette : p.palette = 4 + p.attributes.toNat % 4 :=
    congrArg (4 + ·) (toNat_and_three p.attributes)
  have few : 4 + p.attributes.toNat % 4 < 8 := by omega
  unfold Scene.spriteColour
  rw [shownIndex_latchedScene u down, palette]
  exact colourNumber_paletteEntry u.memory few

/-- A sprite shows where it is drawn, if sprites are drawn. -/
theorem shows_iff : u.Shows p x y ↔
    u.mask.showsSprites = true ∧ u.latchedScene.Covers p x y := by
  have enabled : u.mask.showsSprites = true ↔ bit u.mask.bits 4 = 1 := and_mask_iff u.mask.bits rfl
  have behind : p.isBehind = true ↔ bit p.attributes 5 = 1 := and_mask_iff p.attributes rfl
  have height : u.latchedScene.control.spriteHeight = u.height := spriteHeight_eq u
  constructor
  · intro shows
    refine ⟨enabled.mpr shows.enabled, (isHidden_iff p).mpr shows.onScreen, ?_, shows.across, ?_, ?_⟩
    · rw [height]
      exact shows.down
    · rw [shownIndex_latchedScene u shows.down]
      exact shows.solid
    · rw [backgroundIndex_latchedScene, behind]
      exact shows.inFront
  · rintro ⟨on, covers⟩
    have down := covers.down
    rw [height] at down
    refine ⟨enabled.mp on, (isHidden_iff p).mp covers.onScreen, down, covers.across, ?_, ?_⟩
    · rw [← shownIndex_latchedScene u down]
      exact covers.solid
    · rw [← backgroundIndex_latchedScene, ← behind]
      exact covers.inFront

/-! ## Composition -/

/-- **The colour of every pixel of a frame follows the rule.** When scanline 0 is completed the painter
composes the frame with every index in range. A pixel has the colour of the sprite with the lowest number
that shows there, from one of the last four palettes, and where none shows that of the background. -/
theorem composed_by_pixel (u : PictureUnit) (first : u.scanline = 0) :
    u.latchedScene.paint? u.frame = some u.finishScanline.2.frame ∧
      (∀ address, u.memory.fold address < 0x4000) ∧
      ∀ (x : Fin 256) (y : Fin 240),
        (∀ i, u.Shows (u.sprite i) x y → (∀ j < i, ¬ u.Shows (u.sprite j) x y) →
          u.finishScanline.2.frame.pixel x y =
            entryColour u.memory (4 + (u.sprite i).attributes.toNat % 4)
              (u.spriteIndex (u.sprite i) x y)) ∧
        ((∀ i, ¬ u.Shows (u.sprite i) x y) →
          u.finishScanline.2.frame.pixel x y =
            entryColour u.memory (u.groundPalette x y) (u.groundIndex x y)) := by
  have composed : u.finishScanline.2.frame = u.latchedScene.compose := by
    rw [frame_finishScanline, if_pos first]
    rfl
  rw [composed]
  refine ⟨u.latchedScene.paint?_eq u.frame, canonical_lt u.memory.mirroring, fun x y => ?_⟩
  have background : u.latchedScene.background.pixel x y =
      entryColour u.memory (u.groundPalette x y) (u.groundIndex x y) :=
    (Frame.pixel_ofFn _ x y).trans (u.backgroundColour_latchedScene x y)
  obtain ⟨lowest, none⟩ := u.latchedScene.pixel_foldr_drawSprite (List.pairwise_lt_finRange 64)
    u.latchedScene.background x y
  simp only [shows_iff]
  unfold Scene.compose
  by_cases on : u.mask.showsSprites = true
  · have shown : u.latchedScene.mask.showsSprites = true := on
    rw [if_pos shown]
    simp only [on, true_and]
    refine ⟨fun i covers before => ?_, fun nowhere => ?_⟩
    · refine (lowest i (List.mem_finRange i) covers before).trans ?_
      exact u.spriteColour_latchedScene (spriteHeight_eq u ▸ covers.down)
    · exact (none fun i _ => nowhere i).trans background
  · have off : ¬ u.latchedScene.mask.showsSprites = true := on
    rw [if_neg off]
    exact ⟨fun i shown => absurd shown.1 on, fun _ => background⟩

/-- Sixty-four sprites lie on top of one another in the upper left corner, on the second line. -/
theorem composed_by_pixel_of_stack :
    let tiles := VideoMemory.blank.store ⟨0, by decide⟩ 0x80
    let u : PictureUnit :=
      { ofMemory (tiles.store ⟨0x3F11, by decide⟩ 0x16) with mask := ⟨0x10⟩ }
    u.scanline = 0 ∧ (∀ i, u.Shows (u.sprite i) (0 : Fin 256) (1 : Fin 240)) ∧
      u.finishScanline.2.frame.pixel 0 1 = 0x16 := by
  intro tiles u
  have blank (i : Fin 0x4000) : VideoMemory.blank.bytes.get i = 0 := by
    refine (Bytes.get_overwrite _ _ _ i).trans ((dif_neg ?_).trans (Bytes.get_fill 0 i))
    rintro ⟨-, inside⟩
    exact absurd inside (Nat.not_lt_zero _)
  have read (a : Nat) : u.memory.read a =
      if (⟨0x3F11, by decide⟩ : Fin 0x4000) = u.memory.cell a then 0x16
      else if (⟨0, by decide⟩ : Fin 0x4000) = u.memory.cell a then 0x80 else 0 := by
    unfold VideoMemory.read
    simp only [u, tiles, ofMemory, VideoMemory.store, Bytes.get_set, blank]
  have plane : u.memory.read 0 = 0x80 := (read 0).trans (by decide)
  have other : u.memory.read 8 = 0 := (read 8).trans (by decide)
  have entry : u.memory.read 0x3F11 = 0x16 := (read 0x3F11).trans (by decide)
  have sprite (i : Fin 64) : u.sprite i = ⟨0, 0, 0, 0⟩ := by
    simp only [sprite, spriteByte, u, ofMemory, Bytes.get_fill]
  have control : u.control = ⟨0⟩ := rfl
  have index : u.spriteIndex ⟨0, 0, 0, 0⟩ 0 1 = 1 := by
    simp [spriteIndex, control, texel, bit, plane, other]
  have shows (i : Fin 64) : u.Shows (u.sprite i) (0 : Fin 256) (1 : Fin 240) := by
    rw [sprite]
    have enabled : bit u.mask.bits 4 = 1 := by
      change bit 0x10 4 = 1
      decide
    have down : 1 < 0 + 1 + u.height := by simp [height, control, bit]
    exact ⟨enabled, by decide, ⟨Nat.le_refl 1, down⟩, by decide, index ▸ Nat.one_ne_zero,
      fun covered => absurd covered.1 (by decide)⟩
  refine ⟨rfl, shows, ?_⟩
  refine (((composed_by_pixel u rfl).2.2 0 1).1 0 (shows 0) fun j before => ?_).trans ?_
  · exact absurd before (Fin.not_lt_zero j)
  · rw [sprite]
    change entryColour u.memory 4 (u.spriteIndex ⟨0, 0, 0, 0⟩ 0 1) = 0x16
    rw [index, entryColour, if_neg Nat.one_ne_zero, entry]
    decide

end PictureUnit

end Famicom.Picture

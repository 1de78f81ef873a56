import Mathlib.Data.List.FinRange
import Famicom.Picture.Composition

/-!
# The painter

A frame is painted tile by tile and then sprite by sprite, each line by line and pixel by pixel, over
whatever was on the canvas. The painter here does it in that order with indices that are plain numbers,
and gives up at the first one that is out of range. It never does, and its picture is the composed one.

* `Paints`: a region shows the picture, and the rest is as before.
* `paints_foldlM`: painting one part after another paints all of them.
* `Scene.paint?`: the painter.
* `Scene.paint?_eq`: the painter gives up nowhere and paints the composed picture.
-/

namespace Famicom

/-- The byte at an index, if the block reaches that far. -/
def Bytes.get? {n : Nat} (b : Bytes n) (i : Nat) : Option UInt8 :=
  if inside : i < n then some (b.get ⟨i, inside⟩) else none

theorem Bytes.get?_of_lt {n i : Nat} (b : Bytes n) (inside : i < n) :
    b.get? i = some (b.get ⟨i, inside⟩) :=
  dif_pos inside

namespace Picture

/-! ## Regions -/

section

variable {γ β : Type} {look : γ → Fin 256 → Fin 240 → β} {picture : Fin 256 → Fin 240 → β}

/-- From one canvas to the next a region comes to show the picture, and the rest is as before. -/
structure Paints (look : γ → Fin 256 → Fin 240 → β) (region : Fin 256 → Fin 240 → Prop)
    (picture : Fin 256 → Fin 240 → β) (before after : γ) : Prop where
  inside : ∀ {x y}, region x y → look after x y = picture x y
  outside : ∀ {x y}, ¬ region x y → look after x y = look before x y

namespace Paints

variable {r r' : Fin 256 → Fin 240 → Prop} {f g h : γ}

theorem refl (empty : ∀ x y, ¬ r x y) : Paints look r picture f f :=
  ⟨fun {x y} inside => absurd inside (empty x y), fun _ => rfl⟩

theorem congr (painted : Paints look r picture f g) (same : ∀ x y, r' x y ↔ r x y) :
    Paints look r' picture f g :=
  ⟨fun {x y} inside => painted.inside ((same x y).mp inside),
    fun {x y} outside => painted.outside (mt (same x y).mpr outside)⟩

/-- Painting two regions with one picture paints both, also where they overlap. -/
theorem trans (first : Paints look r picture f g) (second : Paints look r' picture g h) :
    Paints look (fun x y => r x y ∨ r' x y) picture f h := by
  refine ⟨fun {x y} inside => ?_, fun {x y} outside => ?_⟩
  · by_cases later : r' x y
    · exact second.inside later
    · rw [second.outside later]
      exact first.inside (inside.resolve_right later)
  · rw [second.outside fun later => outside (.inr later),
      first.outside fun earlier => outside (.inl earlier)]

end Paints

variable {α : Type} {region : α → Fin 256 → Fin 240 → Prop}

/-- **Painting one part after another paints all of them**, and nothing else. -/
theorem paints_foldlM {step : γ → α → Option γ} {l : List α}
    (each : ∀ k ∈ l, ∀ f, ∃ g, step f k = some g ∧ Paints look (region k) picture f g) (f : γ) :
    ∃ g, l.foldlM step f = some g ∧
      Paints look (fun x y => ∃ k ∈ l, region k x y) picture f g := by
  induction l generalizing f with
  | nil =>
    refine ⟨f, rfl, .refl fun x y => ?_⟩
    simp only [List.not_mem_nil, false_and, exists_false, not_false_iff]
  | cons a l ih =>
    obtain ⟨g, done, first⟩ := each a List.mem_cons_self f
    obtain ⟨h, rest, second⟩ := ih (fun k member => each k (List.mem_cons_of_mem a member)) g
    refine ⟨h, by rw [List.foldlM_cons, done]; exact rest, (first.trans second).congr fun x y => ?_⟩
    simp only [List.mem_cons, exists_eq_or_imp]

theorem paints_foldl {step : γ → α → γ} {l : List α}
    (each : ∀ k ∈ l, ∀ f, Paints look (region k) picture f (step f k)) (f : γ) :
    Paints look (fun x y => ∃ k ∈ l, region k x y) picture f (l.foldl step f) := by
  have checked (k : α) (member : k ∈ l) (f : γ) :
      ∃ g, some (step f k) = some g ∧ Paints look (region k) picture f g :=
    ⟨_, rfl, each k member f⟩
  obtain ⟨g, painted, region⟩ := paints_foldlM checked f
  have plain : l.foldlM (fun f k => some (step f k)) f = some (l.foldl step f) := List.foldlM_pure
  rw [plain] at painted
  exact Option.some.inj painted ▸ region

end

/-- A loop whose every round succeeds is the loop without failures. -/
theorem foldlM_eq_some {γ α : Type} {step? : γ → α → Option γ} {step : γ → α → γ} {l : List α}
    (each : ∀ k ∈ l, ∀ f, step? f k = some (step f k)) (f : γ) :
    l.foldlM step? f = some (l.foldl step f) := by
  induction l generalizing f with
  | nil => rfl
  | cons a l ih =>
    rw [List.foldlM_cons, each a List.mem_cons_self f, List.foldl_cons]
    exact ih (fun k member => each k (List.mem_cons_of_mem a member)) _

/-! ## The painter -/

/-- A frame in the making, and which of its pixels hold a background that is not transparent. -/
structure Canvas where
  frame : Frame
  solid : Fin 61440 → Bool

/-- The picture with one cell replaced, if there is such a cell. -/
def Frame.set? (f : Frame) (i : Nat) (colour : UInt8) : Option Frame :=
  if inside : i < 61440 then some ⟨f.cells.set ⟨i, inside⟩ colour⟩ else none

/-- The canvas with one cell of the background painted, if there is such a cell. -/
def Canvas.set? (c : Canvas) (i : Nat) (colour : UInt8) (solid : Bool) : Option Canvas := do
  let frame ← c.frame.set? i colour
  return { frame, solid := fun j => if j.val = i then solid else c.solid j }

/-- Whether a cell holds a solid background, if there is such a cell. -/
def Canvas.solid? (c : Canvas) (i : Nat) : Option Bool :=
  if inside : i < 61440 then some (c.solid ⟨i, inside⟩) else none

/-- An entry of a latched palette, if there are such a palette and such an entry. -/
def Latch.entry? (l : Latch) (palette entry : Nat) : Option UInt8 :=
  if entry < 4 then l.palettes.get? (palette * 4 + entry) else none

namespace Scene

/-- Paints the tile in a row and column of the nametable. -/
def paintTile? (s : Scene) (row column : Nat) (c : Canvas) : Option Canvas := do
  let tile ← s.latch.tiles.get? (row * 32 + column)
  let pairs ← s.latch.attributes.get? (row / 4 * 8 + column / 4)
  let quarter := row % 4 / 2 * 2 + column % 4 / 2
  let palette := (pairs.toNat >>> (quarter * 2)) % 4
  let address := s.control.backgroundPatterns + tile.toNat * 16
  (List.range 8).foldlM (fun c y => do
    let low ← s.memory.bytes.get? (address + y)
    let high ← s.memory.bytes.get? (address + y + 8)
    (List.range 8).foldlM (fun c x => do
      let index := patternIndex low high x
      let colour ← s.latch.entry? palette index
      c.set? ((row * 8 + y) * 256 + (column * 8 + x)) (colourNumber colour) (index != 0)) c) c

/-- Paints all tiles, row by row. -/
def paintTiles? (s : Scene) (c : Canvas) : Option Canvas :=
  (List.range 30).foldlM
    (fun c row => (List.range 32).foldlM (fun c column => s.paintTile? row column c) c) c

/-- The address of the pattern of one line of a sprite. -/
def lineAddress (s : Scene) (p : Sprite) (line : Nat) : Nat :=
  if s.control.tallSprites then
    let top := p.tile.toNat / 2 * 2
    if 8 ≤ line then p.tile.toNat % 2 * 0x1000 + (top + 1) * 16 + (line - 8)
    else p.tile.toNat % 2 * 0x1000 + top * 16 + line
  else s.control.spritePatterns + p.tile.toNat * 16 + line

/-- Paints one line of a sprite, as far as it is on the screen. -/
def paintLine? (s : Scene) (c : Canvas) (p : Sprite) (row : Nat) (f : Frame) : Option Frame :=
  if 240 ≤ p.top + row then some f
  else do
    let line := if p.flipsDown then s.control.spriteHeight - 1 - row else row
    let low ← s.memory.bytes.get? (s.lineAddress p line)
    let high ← s.memory.bytes.get? (s.lineAddress p line + 8)
    (List.range 8).foldlM (fun f column =>
      if 256 ≤ p.x.toNat + column then some f
      else do
        let cell := (p.top + row) * 256 + (p.x.toNat + column)
        let covered ← c.solid? cell
        let index := patternIndex low high (if p.flipsAcross then 7 - column else column)
        if index = 0 ∨ (p.isBehind ∧ covered) then some f
        else do
          let colour ← (s.memory.palette p.palette)[index]?
          f.set? cell (colourNumber colour)) f

/-- Paints the sprite with the given number, if there is one. -/
def paintSprite? (s : Scene) (c : Canvas) (f : Frame) (number : Nat) : Option Frame := do
  let y ← s.sprites.get? (number * 4)
  let tile ← s.sprites.get? (number * 4 + 1)
  let attributes ← s.sprites.get? (number * 4 + 2)
  let x ← s.sprites.get? (number * 4 + 3)
  let p : Sprite := { y, tile, attributes, x }
  if p.isHidden then some f
  else (List.range s.control.spriteHeight).foldlM (fun f row => s.paintLine? c p row f) f

/-- Paints the whole picture over a frame: the background, and then the sprites from the last one to
the first. -/
def paint? (s : Scene) (f : Frame) : Option Frame := do
  let c ← s.paintTiles? { frame := f, solid := fun _ => false }
  if s.mask.showsSprites then (List.range 64).reverse.foldlM (s.paintSprite? c) c.frame
  else some c.frame

end Scene

/-! ## Cells -/

/-- A frame is determined by its pixels. -/
theorem Frame.ext_pixel {f g : Frame} (same : ∀ x y, f.pixel x y = g.pixel x y) : f = g := by
  obtain ⟨cells⟩ := f
  obtain ⟨cells'⟩ := g
  refine congrArg Frame.mk (Bytes.ext_get fun i => ?_)
  have pixel := same ⟨i.val % 256, Nat.mod_lt _ (by decide)⟩ ⟨i.val / 256, by omega⟩
  have place : Frame.cell ⟨i.val % 256, Nat.mod_lt _ (by decide)⟩ ⟨i.val / 256, by omega⟩ = i :=
    Fin.ext (Nat.div_add_mod' i.val 256)
  unfold Frame.pixel at pixel
  rwa [place] at pixel

theorem Frame.set?_eq (f : Frame) (x : Fin 256) (y : Fin 240) (colour : UInt8) :
    f.set? (y.val * 256 + x.val) colour = some (f.set x y colour) := dif_pos (Frame.cell x y).isLt

/-- What there is to see of a canvas at a pixel. -/
def Canvas.look (c : Canvas) (x : Fin 256) (y : Fin 240) : UInt8 × Bool :=
  (c.frame.pixel x y, c.solid (Frame.cell x y))

theorem Canvas.paints_set? (c : Canvas) (picture : Fin 256 → Fin 240 → UInt8 × Bool) (x : Fin 256)
    (y : Fin 240) :
    ∃ c', c.set? (y.val * 256 + x.val) (picture x y).1 (picture x y).2 = some c' ∧
      Paints Canvas.look (fun x' y' => x' = x ∧ y' = y) picture c c' := by
  refine ⟨_, by rw [Canvas.set?, Frame.set?_eq]; rfl, ?_, ?_⟩
  · rintro x' y' ⟨rfl, rfl⟩
    simp only [Canvas.look, Frame.pixel_set, and_self, if_true]
    exact Prod.ext rfl (if_pos rfl)
  · intro x' y' other
    have cell : (Frame.cell x' y').val ≠ y.val * 256 + x.val := fun same =>
      other (Frame.cell_inj.mp (Fin.ext same))
    have pixel : ¬ (x = x' ∧ y = y') := fun same => other ⟨same.1.symm, same.2.symm⟩
    simp only [Canvas.look, Frame.pixel_set, if_neg pixel, if_neg cell]

theorem Canvas.solid?_eq (c : Canvas) (x : Fin 256) (y : Fin 240) :
    c.solid? (y.val * 256 + x.val) = some (c.solid (Frame.cell x y)) :=
  dif_pos (Frame.cell x y).isLt

theorem Latch.entry?_eq (l : Latch) {palette entry : Nat} (few : palette < 4) (small : entry < 4) :
    l.entry? palette entry = some (l.palettes.get ⟨palette * 4 + entry, by omega⟩) := by
  rw [Latch.entry?, if_pos small]
  exact Bytes.get?_of_lt _ _

theorem VideoMemory.palette_getElem? (m : VideoMemory) (index : Nat) {entry : Nat}
    (small : entry < 4) : (m.palette index)[entry]? = some (m.paletteEntry index entry) := by
  obtain rfl | rfl | rfl | rfl : entry = 0 ∨ entry = 1 ∨ entry = 2 ∨ entry = 3 := by omega
  all_goals rfl

namespace Scene

/-- The two bytes of a line of a tile lie in the pattern tables, and they make its indices. -/
theorem exists_line (s : Scene) {table tile line : Nat}
    (within : table + tile * 16 + line + 8 < 0x2000) :
    ∃ low high, s.memory.bytes.get? (table + tile * 16 + line) = some low ∧
      s.memory.bytes.get? (table + tile * 16 + line + 8) = some high ∧
      ∀ column, s.tileIndex table tile line column = patternIndex low high column := by
  have low : (table + tile * 16 + line) % 0x2000 = table + tile * 16 + line :=
    Nat.mod_eq_of_lt (by omega)
  have high : (table + tile * 16 + line + 8) % 0x2000 = table + tile * 16 + line + 8 :=
    Nat.mod_eq_of_lt within
  refine ⟨_, _, Bytes.get?_of_lt _ (by omega), Bytes.get?_of_lt _ (by omega), fun column => ?_⟩
  simp only [tileIndex, pattern, low, high]

/-! ## The background -/

/-- What the background is at a pixel: its colour and whether it is solid there. -/
def ground (s : Scene) (x : Fin 256) (y : Fin 240) : UInt8 × Bool :=
  (s.backgroundColour x y, s.backgroundIndex x y != 0)

theorem backgroundPatterns_le (c : Control) : c.backgroundPatterns ≤ 0x1000 := by
  unfold Control.backgroundPatterns
  split <;> decide

theorem backgroundIndex_lt (s : Scene) (x : Fin 256) (y : Fin 240) : s.backgroundIndex x y < 4 :=
  patternIndex_lt _ _ _

/-- The colour of the background at a pixel, by the entry of the latched palette. -/
theorem entry?_latch (s : Scene) (x : Fin 256) (y : Fin 240) :
    ∃ colour, s.latch.entry? (s.paletteAt x y) (s.backgroundIndex x y) = some colour ∧
      s.ground x y = (colourNumber colour, s.backgroundIndex x y != 0) := by
  have few : s.paletteAt x y < 4 := Nat.mod_lt _ (by decide)
  have small := s.backgroundIndex_lt x y
  have entry : (s.paletteAt x y * 4 + s.backgroundIndex x y) % 16 =
      s.paletteAt x y * 4 + s.backgroundIndex x y := Nat.mod_eq_of_lt (by omega)
  refine ⟨_, Latch.entry?_eq _ few small, ?_⟩
  simp only [ground, backgroundColour, entry]

/-- A pixel of a tile is painted as the background is there. -/
theorem paints_paintDot (s : Scene) (x : Fin 256) (y : Fin 240) {palette index : Nat}
    (selected : s.paletteAt x y = palette) (shown : s.backgroundIndex x y = index) (c : Canvas) :
    ∃ c', (do
        let colour ← s.latch.entry? palette index
        c.set? (y.val * 256 + x.val) (colourNumber colour) (index != 0)) = some c' ∧
      Paints Canvas.look (fun x' y' => x' = x ∧ y' = y) s.ground c c' := by
  obtain ⟨colour, entry, ground⟩ := s.entry?_latch x y
  obtain ⟨c', painted, region⟩ := c.paints_set? s.ground x y
  rw [selected, shown] at entry
  rw [ground, shown] at painted
  exact ⟨c', by rw [entry]; exact painted, region⟩

/-- **A tile is painted with every index in range.** -/
theorem paints_paintTile? (s : Scene) {row column : Nat} (rows : row < 30) (columns : column < 32)
    (c : Canvas) :
    ∃ c', s.paintTile? row column c = some c' ∧
      Paints Canvas.look
        (fun x y => ∃ k ∈ List.range 8, ∃ j ∈ List.range 8,
          x.val = column * 8 + j ∧ y.val = row * 8 + k) s.ground c c' := by
  have tiles : row * 32 + column < 960 := by omega
  have attributes : row / 4 * 8 + column / 4 < 64 := by omega
  unfold paintTile?
  simp only [Bytes.get?_of_lt _ tiles, Bytes.get?_of_lt _ attributes, Option.bind_eq_bind,
    Option.bind_some]
  refine paints_foldlM (fun k line c => ?_) c
  have lines : k < 8 := List.mem_range.mp line
  have table := backgroundPatterns_le s.control
  have tile := (s.latch.tiles.get ⟨row * 32 + column, tiles⟩).toNat_lt
  have within : s.control.backgroundPatterns +
      (s.latch.tiles.get ⟨row * 32 + column, tiles⟩).toNat * 16 + k + 8 < 0x2000 := by omega
  obtain ⟨low, high, first, second, indices⟩ := s.exists_line within
  rw [first, second]
  refine paints_foldlM (fun j dot c => ?_) c
  have dots : j < 8 := List.mem_range.mp dot
  let x : Fin 256 := ⟨column * 8 + j, by omega⟩
  let y : Fin 240 := ⟨row * 8 + k, by omega⟩
  have down : (row * 8 + k) / 8 = row ∧ (row * 8 + k) / 32 = row / 4 ∧
      (row * 8 + k) / 16 % 2 = row % 4 / 2 ∧ (row * 8 + k) % 8 = k := by omega
  have across : (column * 8 + j) / 8 = column ∧ (column * 8 + j) / 32 = column / 4 ∧
      (column * 8 + j) / 16 % 2 = column % 4 / 2 ∧ (column * 8 + j) % 8 = j := by omega
  have selected : s.paletteAt x y =
      ((s.latch.attributes.get ⟨row / 4 * 8 + column / 4, attributes⟩).toNat >>>
        ((row % 4 / 2 * 2 + column % 4 / 2) * 2)) % 4 := by
    simp only [paletteAt, x, y, down, across]
  have shown : s.backgroundIndex x y = patternIndex low high j := by
    rw [← indices]
    simp only [backgroundIndex, tileAt, x, y, down, across]
  obtain ⟨c', painted, region⟩ := s.paints_paintDot x y selected shown c
  exact ⟨c', painted, region.congr fun x' y' => by simp only [Fin.ext_iff, x, y]⟩

/-- **The background is painted all over**, whatever was on the canvas. -/
theorem exists_paintTiles? (s : Scene) (c : Canvas) :
    ∃ c', s.paintTiles? c = some c' ∧ c'.frame = s.background ∧
      ∀ x y, c'.solid (Frame.cell x y) = (s.backgroundIndex x y != 0) := by
  have tiles (c : Canvas) : ∃ c', s.paintTiles? c = some c' ∧ Paints Canvas.look _ s.ground c c' :=
    paints_foldlM (fun row inside c => paints_foldlM (fun column inside' c =>
      s.paints_paintTile? (List.mem_range.mp inside) (List.mem_range.mp inside') c) c) c
  obtain ⟨c', painted, region⟩ := tiles c
  have everywhere (x : Fin 256) (y : Fin 240) : c'.look x y = s.ground x y := by
    refine region.inside ⟨y.val / 8, List.mem_range.mpr (by omega), x.val / 8,
      List.mem_range.mpr (by omega), y.val % 8, List.mem_range.mpr (by omega), x.val % 8,
      List.mem_range.mpr (by omega), ?_, ?_⟩
    all_goals omega
  refine ⟨c', painted, Frame.ext_pixel fun x y => ?_, fun x y => ?_⟩
  · rw [background, Frame.pixel_ofFn]
    exact congrArg Prod.fst (everywhere x y)
  · exact congrArg Prod.snd (everywhere x y)

/-! ## The sprites -/

theorem lineAddress_of_tall {s : Scene} (tall : s.control.tallSprites = true) (p : Sprite)
    (line : Nat) (inside : line < 16) :
    s.lineAddress p line =
      p.tile.toNat % 2 * 0x1000 + (p.tile.toNat / 2 * 2 + line / 8) * 16 + line % 8 := by
  rw [lineAddress, if_pos tall]
  dsimp only
  split <;> omega

/-- The two bytes of a line of a sprite lie in the pattern tables, and they make its indices. -/
theorem exists_spriteLine (s : Scene) (p : Sprite) {line : Nat}
    (inside : line < s.control.spriteHeight) :
    ∃ low high, s.memory.bytes.get? (s.lineAddress p line) = some low ∧
      s.memory.bytes.get? (s.lineAddress p line + 8) = some high ∧
      ∀ column, s.spriteIndex p line column = patternIndex low high column := by
  have tile := p.tile.toNat_lt
  unfold Control.spriteHeight at inside
  unfold spriteIndex
  cases tall : s.control.tallSprites with
  | true =>
    rw [tall, if_pos rfl] at inside
    rw [lineAddress_of_tall tall p line inside]
    exact s.exists_line (by omega)
  | false =>
    rw [tall, if_neg Bool.false_ne_true] at inside
    have table : s.control.spritePatterns ≤ 0x1000 := by
      unfold Control.spritePatterns
      split <;> decide
    rw [lineAddress, tall]
    exact s.exists_line (by omega)

variable {s : Scene} {c : Canvas}

/-- **A line of a sprite is painted with every index in range.** -/
theorem paintLine?_eq (solid : ∀ x y, c.solid (Frame.cell x y) = (s.backgroundIndex x y != 0))
    (p : Sprite) {row : Nat} (inside : row < s.control.spriteHeight) (f : Frame) :
    s.paintLine? c p row f =
      some ((List.range 8).foldl (fun f column => s.drawPixel p row column f) f) := by
  unfold paintLine?
  split
  · rename_i below
    have nothing (f : Frame) (column : Nat) : s.drawPixel p row column f = f :=
      dif_neg (Nat.not_lt.mpr below)
    rw [List.foldl_fixed' (nothing f)]
  · rename_i above
    have line : (if p.flipsDown then s.control.spriteHeight - 1 - row else row) <
        s.control.spriteHeight := by
      split <;> omega
    obtain ⟨low, high, first, second, indices⟩ := s.exists_spriteLine p line
    simp only [first, second, Option.bind_eq_bind, Option.bind_some]
    refine foldlM_eq_some (fun column member f => ?_) f
    unfold drawPixel
    rw [dif_pos (Nat.not_le.mp above)]
    by_cases outside : 256 ≤ p.x.toNat + column
    · rw [if_pos outside, dif_neg (Nat.not_lt.mpr outside)]
    · rw [if_neg outside, dif_pos (Nat.not_le.mp outside)]
      let x : Fin 256 := ⟨p.x.toNat + column, Nat.not_le.mp outside⟩
      let y : Fin 240 := ⟨p.top + row, Nat.not_le.mp above⟩
      have covered : c.solid? ((p.top + row) * 256 + (p.x.toNat + column)) =
          some (s.backgroundIndex x y != 0) := by
        rw [← solid]
        exact c.solid?_eq x y
      have index : s.shownIndex p row column =
          patternIndex low high (if p.flipsAcross then 7 - column else column) := indices _
      have small : s.shownIndex p row column < 4 := index ▸ patternIndex_lt _ _ _
      simp only [covered, Option.bind_some, ← index, bne_iff_ne]
      by_cases passed : s.shownIndex p row column = 0 ∨
          (p.isBehind = true ∧ s.backgroundIndex x y ≠ 0)
      · rw [if_pos passed, if_pos passed]
      · rw [if_neg passed, if_neg passed, VideoMemory.palette_getElem? _ _ small]
        exact f.set?_eq x y _

/-- **A sprite is painted with every index in range.** -/
theorem paintSprite?_eq (solid : ∀ x y, c.solid (Frame.cell x y) = (s.backgroundIndex x y != 0))
    (i : Fin 64) (f : Frame) : s.paintSprite? c f i.val = some (s.drawSprite (s.sprite i) f) := by
  have bytes (k : Nat) (few : k < 4) :
      s.sprites.get? (i.val * 4 + k) = some (s.sprites.get ⟨4 * i.val + k, by omega⟩) := by
    rw [Nat.mul_comm]
    exact Bytes.get?_of_lt _ _
  unfold paintSprite? drawSprite
  simp only [bytes 1 (by decide), bytes 2 (by decide), bytes 3 (by decide),
    show s.sprites.get? (i.val * 4) = _ from bytes 0 (by decide), Option.bind_eq_bind,
    Option.bind_some]
  split
  · rename_i hidden
    exact congrArg some (if_pos hidden).symm
  · rename_i shown
    refine Eq.trans ?_ (congrArg some (if_neg shown).symm)
    exact foldlM_eq_some (fun row member f =>
      paintLine?_eq solid (s.sprite i) (List.mem_range.mp member) f) f

/-- **The painter gives up nowhere and paints the composed picture**, whatever it paints over. -/
theorem paint?_eq (s : Scene) (f : Frame) : s.paint? f = some s.compose := by
  obtain ⟨c, painted, frame, solid⟩ := s.exists_paintTiles? ⟨f, fun _ => false⟩
  unfold paint? compose
  rw [painted, Option.bind_eq_bind, Option.bind_some, frame]
  split
  · have numbers : List.range 64 = (List.finRange 64).map Fin.val :=
      List.map_coe_finRange_eq_range.symm
    rw [numbers, ← List.map_reverse, List.foldlM_map,
      foldlM_eq_some (fun i _ f => paintSprite?_eq solid i f), List.foldl_reverse]
  · rfl

end Scene

end Picture

end Famicom

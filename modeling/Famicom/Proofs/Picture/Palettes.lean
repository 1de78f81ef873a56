import Famicom.Proofs.Picture.Port
import Famicom.Proofs.Picture.Snapshot

/-!
# What the palettes hold

Two rules give a palette cell several addresses. Entry zero of a sprite palette is that of the background
palette with the same number, and a store to entry zero of any palette reaches the backdrop as well. On
top of that the palettes repeat every thirty-two addresses. After any history the byte that a cell shows
is told from the stores alone, each of them taken with the address at which the data register stood.

* `OnCell`: the data register never stands at a second address of a palette cell.
* `Feeds`: which stores a palette cell keeps.
* `read_actAll`: a palette cell holds the latest byte of those stores.
* `palettes_actAll`: what every palette address shows, to a look at memory and to a read of the data
  register.
-/

namespace Famicom.Picture

/-! ## Where the data register stands -/

/-- The address is below the palettes, or the canonical one of a palette cell. -/
def OnCell (a : Nat) : Prop :=
  a < 0x3F00 ∨ ∃ i < 32, paletteCell i = i ∧ a = 0x3F00 + i

theorem onCell_canonical (m : Mirroring) (a : Nat) : OnCell (canonical m a) := by
  rcases unwrap_bounds a with below | inside
  · have low := canonical_lt_of_nametable m below
    exact .inl (by omega)
  · exact .inr ⟨_, paletteCell_lt _, paletteCell_idem _, canonical_of_palette m inside.1⟩

/-- Half an address reaches the palettes at their first cell only. -/
theorem onCell_half (v : UInt8) : OnCell (v.toNat % 64 * 256) := by
  by_cases top : v.toNat % 64 = 63
  · rw [top]
    exact .inr ⟨0, by decide, rfl, rfl⟩
  · exact .inl (by omega)

theorem OnCell.lt {a : Nat} (place : OnCell a) : a < 0x4000 := by
  rcases place with below | ⟨i, small, -, rfl⟩ <;> omega

/-! ## Palette cells -/

/-- A store at the address `x` reaches the palette cell `i`. -/
def Feeds (i x : Nat) : Prop := x = 0x3F00 + i ∨ (i = 0 ∧ 0x3F00 ≤ x ∧ x % 4 = 0)

instance (i : Nat) : DecidablePred (Feeds i) := fun _ => inferInstanceAs (Decidable (_ ∨ _))

/-- Any palette address folds onto the cell at its distance from the first one. -/
theorem canonical_palette (m : Mirroring) {a : Nat} (low : 0x3F00 ≤ a) (high : a < 0x4000) :
    canonical m a = 0x3F00 + paletteCell (a - 0x3F00) := by
  have same : unwrap a = a := unwrap_of_lt (.inr ⟨low, high⟩)
  rw [canonical_of_palette m (by omega), same]

namespace VideoMemory

variable (m : VideoMemory)

theorem fold_palette {i : Nat} (cell : paletteCell i = i) (small : i < 32) :
    m.fold (0x3F00 + i) = 0x3F00 + i := by
  rw [fold_eq_canonical, canonical_palette _ (by omega) (by omega), Nat.add_sub_cancel_left, cell]

/-- Two palette addresses show the same byte if they have the same cell. -/
theorem read_eq_of_paletteCell {a b : Nat} (left : 0x3F00 ≤ a ∧ a < 0x4000)
    (right : 0x3F00 ≤ b ∧ b < 0x4000) (same : paletteCell (a - 0x3F00) = paletteCell (b - 0x3F00)) :
    m.read a = m.read b := by
  have folded : m.cell a = m.cell b := by
    rw [m.cell_eq_iff, fold_eq_canonical, fold_eq_canonical, canonical_palette _ left.1 left.2,
      canonical_palette _ right.1 right.2, same]
  rw [read, folded, read]

/-- A palette cell keeps the stores that reach it. -/
theorem read_write_palette {a i : Nat} (place : OnCell a) (cell : paletteCell i = i)
    (small : i < 32) (v : UInt8) :
    (m.write a v).read (0x3F00 + i) = if Feeds i a then v else m.read (0x3F00 + i) := by
  have reaches : (m.fold (0x3F00 + i) = m.fold a ∨
      IsEntryZero a ∧ m.fold (0x3F00 + i) = paletteBase) ↔ Feeds i a := by
    rw [m.fold_palette cell small]
    unfold Feeds IsEntryZero paletteBase
    rcases place with below | ⟨j, smallj, cellj, rfl⟩
    · have low := unwrap_lt_of_lt below
      have away := canonical_lt_of_nametable m.mirroring low
      rw [fold_eq_canonical]
      omega
    · have stays : unwrap (0x3F00 + j) = 0x3F00 + j := unwrap_of_lt (by omega)
      rw [m.fold_palette cellj smallj, stays]
      omega
  rw [read_write]
  simp only [reaches]

end VideoMemory

namespace PictureUnit

/-! ## Stores -/

/-- The store that an act makes, with the address at which the data register stands. -/
def storeOf (u : PictureUnit) : Act → List (Nat × UInt8)
  | .write .data v => [(u.address, v)]
  | _ => []

/-- The stores of a history. -/
def storesAll (u : PictureUnit) : List Act → List (Nat × UInt8)
  | [] => []
  | a :: rest => u.storeOf a ++ (u.act a).storesAll rest

/-- The latest byte that was stored at one of some addresses. -/
def latest (p : Nat → Prop) [DecidablePred p] (stores : List (Nat × UInt8)) (before : UInt8) :
    UInt8 :=
  ((stores.filter fun s => p s.1).map Prod.snd).getLastD before

theorem latest_append (p : Nat → Prop) [DecidablePred p] (first rest : List (Nat × UInt8))
    (before : UInt8) : latest p (first ++ rest) before = latest p rest (latest p first before) := by
  simp only [latest, List.filter_append, List.map_append, getLastD_append]

/-- No act takes the data register to a second address of a palette cell. -/
theorem onCell_act {u : PictureUnit} (place : OnCell u.address) (a : Act) :
    OnCell (u.act a).address := by
  cases a with
  | read r =>
    cases r
    case data => exact onCell_canonical _ _
    all_goals exact place
  | write r v =>
    cases r
    case scroll =>
      simp only [act, writeRegister]
      split <;> exact place
    case address =>
      simp only [act, writeRegister]
      split
      · exact onCell_canonical _ _
      · exact onCell_half v
    case data => exact onCell_canonical _ _
    all_goals exact place
  | loadSprites sprites => exact place
  | advance dots =>
    have kept : (u.advance dots).2.address = u.address :=
      congrArg Ports.address (ports_advance u dots)
    change OnCell (u.advance dots).2.address
    rw [kept]
    exact place

theorem onCell_actAll {u : PictureUnit} (place : OnCell u.address) (as : List Act) :
    OnCell (u.actAll as).address := by
  induction as generalizing u with
  | nil => exact place
  | cons a rest ih => exact ih (onCell_act place a)

theorem memory_act (u : PictureUnit) (a : Act) :
    (u.act a).memory = (u.storeOf a).foldl (fun m s => m.write s.1 s.2) u.memory := by
  cases a with
  | read r => cases r <;> rfl
  | write r v =>
    cases r
    case scroll | address =>
      simp only [act, writeRegister, storeOf]
      split <;> rfl
    all_goals rfl
  | loadSprites sprites => rfl
  | advance dots => exact congrArg Ports.memory (ports_advance u dots)

/-- An act changes a palette cell by the store that it makes. -/
theorem read_act {u : PictureUnit} (place : OnCell u.address) (a : Act) {i : Nat}
    (cell : paletteCell i = i) (small : i < 32) :
    (u.act a).memory.read (0x3F00 + i) =
      latest (Feeds i) (u.storeOf a) (u.memory.read (0x3F00 + i)) := by
  rw [memory_act]
  unfold storeOf latest
  split
  · simp only [List.foldl_cons, List.foldl_nil, u.memory.read_write_palette place cell small]
    by_cases feeds : Feeds i u.address <;> simp [feeds]
  · rfl

/-- **A palette cell holds the latest byte of the stores that reach it.** -/
theorem read_actAll {u : PictureUnit} (place : OnCell u.address) (as : List Act) {i : Nat}
    (cell : paletteCell i = i) (small : i < 32) :
    (u.actAll as).memory.read (0x3F00 + i) =
      latest (Feeds i) (u.storesAll as) (u.memory.read (0x3F00 + i)) := by
  induction as generalizing u with
  | nil => rfl
  | cons a rest ih =>
    have later := ih (onCell_act place a)
    rw [read_act place a cell small] at later
    rw [storesAll, latest_append]
    exact later

/-! ## What is seen -/

/-- In the palettes the data register answers at once. -/
theorem readRegister_of_palette {u : PictureUnit} (inside : paletteBase ≤ u.memory.fold u.address) :
    (u.readRegister .data).1 = u.memory.read u.address :=
  if_pos inside

/-- After a palette address was set, the data register answers with what is seen there. -/
theorem readRegister_pointAt (u : PictureUnit) {a : Nat} (low : 0x3F00 ≤ a) (high : a < 0x4000) :
    ((u.pointAt a).readRegister .data).1 = u.memory.read a := by
  have inside : 0x3F00 ≤ unwrap a := by
    rw [unwrap_of_lt (.inr ⟨low, high⟩)]
    exact low
  have settled : u.memory.fold (u.memory.fold a) = u.memory.fold a :=
    canonical_canonical_palette u.memory.mirroring inside
  have bypasses : paletteBase ≤ u.memory.fold (u.memory.fold a) := by
    rw [settled]
    exact (paletteBase_le_canonical_iff u.memory.mirroring a).mpr inside
  have same : u.memory.cell (u.memory.fold a) = u.memory.cell a :=
    (u.memory.cell_eq_iff _ _).mpr settled
  rw [pointAt_eq]
  refine (readRegister_of_palette bypasses).trans ?_
  rw [VideoMemory.read, same, VideoMemory.read]

/-- Where the data register stands in the palettes, it stands on a canonical address. -/
theorem fold_address_of_palette {u : PictureUnit} (place : OnCell u.address)
    (low : 0x3F00 ≤ u.address) : u.memory.fold u.address = u.address := by
  rcases place with below | ⟨i, small, cell, same⟩
  · omega
  · rw [same, u.memory.fold_palette cell small]

/-- The address is that of entry zero of a palette. -/
def AtEntryZero (a : Nat) : Prop := (0x3F00 ≤ a ∧ a < 0x4000) ∧ (a - 0x3F00) % 4 = 0

instance : DecidablePred AtEntryZero := fun _ => inferInstanceAs (Decidable (_ ∧ _))

/-- What the palettes show after some stores. The backdrop is the latest byte stored at entry zero
of any palette; it is entry zero of all eight palettes, and of the four that a frame is drawn with.
The other background palettes have an entry zero of their own in memory, which the sprite palettes
share, and every other cell holds the latest byte stored there. The palettes repeat, and the data
register shows the same at every palette address, whether it was set or reached. -/
structure PalettesHold (u : PictureUnit) (stores : List (Nat × UInt8)) : Prop where
  backdrop : u.memory.read 0x3F00 = latest AtEntryZero stores 0
  palettes : ∀ index < 8, (u.memory.palette index)[0]? = some (latest AtEntryZero stores 0)
  latched : ∀ i : Fin 4, (Latch.take u.memory u.control).palettes.get ⟨4 * i.val, by omega⟩ =
    latest AtEntryZero stores 0
  entryZero : ∀ k ∈ [4, 8, 12], u.memory.read (0x3F00 + k) = latest (· = 0x3F00 + k) stores 0
  other : ∀ i < 32, i % 4 ≠ 0 →
    u.memory.read (0x3F00 + i) = latest (· = 0x3F00 + i) stores 0
  sprites : ∀ k ∈ [0, 4, 8, 12], u.memory.read (0x3F10 + k) = u.memory.read (0x3F00 + k)
  repeats : ∀ a n, 0x3F00 ≤ a → a + 32 * n < 0x4000 →
    u.memory.read (a + 32 * n) = u.memory.read a
  port : ∀ a, 0x3F00 ≤ a → a < 0x4000 →
    ((u.pointAt a).readRegister .data).1 = u.memory.read a
  standing : 0x3F00 ≤ u.address → (u.readRegister .data).1 = u.memory.read u.address

/-- Entry zero of any palette feeds the backdrop. -/
theorem feeds_zero_iff {a : Nat} (high : a < 0x4000) : Feeds 0 a ↔ AtEntryZero a := by
  unfold Feeds AtEntryZero
  omega

theorem feeds_iff {i a : Nat} (other : i ≠ 0) : Feeds i a ↔ a = 0x3F00 + i := by
  unfold Feeds
  omega

theorem paletteCell_of_not_entryZero {i : Nat} (small : i < 32) (other : i % 4 ≠ 0) :
    paletteCell i = i := by
  unfold paletteCell
  split <;> omega

/-- At power-on the palettes hold zeros, whatever tiles the cartridge has. -/
theorem read_palette_ofTiles (tiles : ByteArray) (m : Mirroring) {i : Nat}
    (cell : paletteCell i = i) (small : i < 32) :
    (VideoMemory.ofTiles tiles m).read (0x3F00 + i) = 0 := by
  have place : ((VideoMemory.ofTiles tiles m).cell (0x3F00 + i)).val = 0x3F00 + i :=
    VideoMemory.fold_palette _ cell small
  have size : (tiles.extract 0 0x2000).size ≤ 0x2000 := by
    rw [ByteArray.size_extract]
    omega
  refine (Bytes.get_overwrite _ _ _ _).trans ?_
  rw [dif_neg (by rw [place]; omega), Bytes.get_fill]

/-- The stores of a history are made where the data register stands, which is in memory. -/
theorem lt_of_mem_storesAll {u : PictureUnit} (place : OnCell u.address) {as : List Act}
    {s : Nat × UInt8} (stored : s ∈ u.storesAll as) : s.1 < 0x4000 := by
  induction as generalizing u with
  | nil => exact absurd stored List.not_mem_nil
  | cons a rest ih =>
    rcases List.mem_append.mp stored with first | later
    · unfold storeOf at first
      split at first
      · rw [List.mem_singleton.mp first]
        exact place.lt
      · exact absurd first List.not_mem_nil
    · exact ih (onCell_act place a) later

theorem latest_congr {p q : Nat → Prop} [DecidablePred p] [DecidablePred q]
    {stores : List (Nat × UInt8)} (same : ∀ s ∈ stores, p s.1 ↔ q s.1) (before : UInt8) :
    latest p stores before = latest q stores before := by
  have filtered : (stores.filter fun s => p s.1) = stores.filter fun s => q s.1 :=
    List.filter_congr fun s among => by simp only [same s among]
  rw [latest, filtered, latest]

/-- **The palettes hold what was stored last**, after any history from power-on: the backdrop follows
entry zero of every palette, the other entries zero of the background follow their own address, and
every other cell follows its own one, while all further addresses show one of these cells. -/
theorem palettes_actAll (tiles : ByteArray) (mirroring : Mirroring) (as : List Act) :
    let start := ofMemory (.ofTiles tiles mirroring)
    PalettesHold (start.actAll as) (start.storesAll as) := by
  intro start
  have place : OnCell start.address := .inl (Nat.zero_lt_succ 0x3EFF)
  have held {i : Nat} (cell : paletteCell i = i) (small : i < 32) :
      (start.actAll as).memory.read (0x3F00 + i) = latest (Feeds i) (start.storesAll as) 0 := by
    rw [read_actAll place as cell small]
    exact congrArg (latest _ _) (read_palette_ofTiles tiles mirroring cell small)
  have own {i : Nat} (cell : paletteCell i = i) (small : i < 32) (other : i ≠ 0) :
      (start.actAll as).memory.read (0x3F00 + i) =
        latest (· = 0x3F00 + i) (start.storesAll as) 0 := by
    rw [held cell small]
    exact latest_congr (fun s _ => feeds_iff other) 0
  have backdrop :
      (start.actAll as).memory.read 0x3F00 = latest AtEntryZero (start.storesAll as) 0 := by
    refine (held (i := 0) rfl (by decide)).trans ?_
    exact latest_congr (fun s stored => feeds_zero_iff (lt_of_mem_storesAll place stored)) 0
  constructor
  case backdrop => exact backdrop
  case palettes => exact fun index _ => congrArg some backdrop
  case latched =>
    intro i
    refine (Bytes.get_tabulate _ _).trans ?_
    have zero : 4 * i.val % 4 = 0 := Nat.mul_mod_right 4 i.val
    rw [VideoMemory.paletteEntry, if_pos zero]
    exact backdrop
  case entryZero =>
    intro k among
    simp only [List.mem_cons, List.not_mem_nil, or_false] at among
    rcases among with rfl | rfl | rfl <;> exact own rfl (by decide) (by decide)
  case other =>
    intro i small other
    exact own (paletteCell_of_not_entryZero small other) small (by omega)
  case sprites =>
    intro k among
    simp only [List.mem_cons, List.not_mem_nil, or_false] at among
    rcases among with rfl | rfl | rfl | rfl <;>
      exact VideoMemory.read_eq_of_paletteCell _ (by decide) (by decide) rfl
  case repeats =>
    intro a n low high
    refine VideoMemory.read_eq_of_paletteCell _ ⟨by omega, high⟩ ⟨low, by omega⟩ ?_
    unfold paletteCell
    have same : (a + 32 * n - 0x3F00) % 32 = (a - 0x3F00) % 32 := by
      omega
    have quarter : (a + 32 * n - 0x3F00) % 4 = (a - 0x3F00) % 4 := by
      omega
    rw [same, quarter]
  case port => exact fun a low high => readRegister_pointAt _ low high
  case standing =>
    intro low
    refine readRegister_of_palette ?_
    rw [fold_address_of_palette (onCell_actAll place as) low]
    exact low

/-- The backdrop is the byte of the second background palette, which came later. -/
example : latest AtEntryZero [(0x3F00, 1), (0x3F04, 2), (0x3F01, 3)] 0 = 2 := by
  decide

end PictureUnit

end Famicom.Picture

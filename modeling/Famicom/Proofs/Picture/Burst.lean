import Mathlib.Data.Nat.Find
import Mathlib.Logic.Function.Iterate
import Famicom.Proofs.Picture.Port

/-!
# Bursts through the data port

The data register moves its address after every access, so that a run of bytes needs its address only
once. The address that is moved is a canonical one, though, and moving and folding do not commute
everywhere:

* from below the palettes a burst never enters them, since it has left the mirror of the nametables
  before;
* from the palettes it never gets past the end of memory;
* in steps of one it does not get past entry zero of a sprite palette, which it has taken for the
  background palette.

`StraysAfter` says where, and `burst_eq_iff` that a burst does what accesses with an address each
would do exactly if it strays nowhere before its last access.
-/

namespace Famicom.Picture

/-- The address after `i` accesses in steps of `step`, when it was set to `a` before them. -/
def trail (m : Mirroring) (step a i : Nat) : Nat :=
  (fun p => canonical m (p + step))^[i] (canonical m a)

/-- Whether a burst in steps of `step` loses its way after the access meant for `x`. -/
def StraysAfter (step x : Nat) : Prop :=
  (x < paletteBase ∧ paletteBase ≤ x + step) ∨ 0x4000 ≤ x + step ∨
    (step = 1 ∧ paletteBase ≤ x ∧ 16 ≤ x % 32 ∧ x % 4 = 0)

/-- Whether a burst of `n` accesses from `a` on strays nowhere before its last access. -/
def Straight (step a n : Nat) : Prop :=
  ∀ i, i + 1 < n → ¬ StraysAfter step (a % 0x4000 + i * step)

variable {m : Mirroring} {step a : Nat}

theorem trail_zero (m : Mirroring) (step a : Nat) : trail m step a 0 = canonical m a := rfl

theorem trail_succ (m : Mirroring) (step a i : Nat) :
    trail m step a (i + 1) = canonical m (trail m step a i + step) :=
  Function.iterate_succ_apply' _ _ _

theorem exists_trail_eq (m : Mirroring) (step a i : Nat) : ∃ y, trail m step a i = canonical m y := by
  cases i with
  | zero => exact ⟨a, rfl⟩
  | succ i => exact ⟨_, trail_succ m step a i⟩

/-! ## What a twice folded address is -/

theorem canonical_canonical_of_lt (m : Mirroring) {x : Nat} (below : x < 0x2000) :
    canonical m (canonical m x) = x := by
  have unwrapped : unwrap x = x := unwrap_of_lt (by omega)
  rw [canonical_canonical_pattern m (by omega), canonical_of_pattern m (by omega), unwrapped]

theorem canonical_canonical_of_tables (m : Mirroring) {x : Nat} (above : 0x2000 ≤ x)
    (below : x < 0x3F00) : canonical m (canonical m x) = 0x2000 + x % repetition m := by
  have unwrapped : 0x2000 ≤ unwrap x ∧ unwrap x < 0x3000 ∧
      unwrap x % repetition m = x % repetition m := by
    unfold unwrap paletteBase
    dsimp only
    split <;> cases m <;> simp only [repetition] <;> omega
  rw [canonical_canonical_nametable m unwrapped.1 unwrapped.2.1, unwrapped.2.2]

theorem canonical_canonical_of_palettes (m : Mirroring) {x : Nat} (above : 0x3F00 ≤ x)
    (below : x < 0x4000) : canonical m (canonical m x) = 0x3F00 + paletteCell x := by
  have unwrapped : unwrap x = x := unwrap_of_lt (by omega)
  have cell : paletteCell (x - 0x3F00) = paletteCell x := by
    unfold paletteCell
    split <;> split <;> omega
  rw [canonical_canonical_palette m (by omega), canonical_of_palette m (by omega), unwrapped, cell]

/-! ## Staying on course -/

theorem paletteCell_add {x : Nat} (increment : step = 1 ∨ step = 32)
    (stays : ¬ StraysAfter step x) (palette : 0x3F00 ≤ x) :
    paletteCell (0x3F00 + paletteCell x + step) = paletteCell (x + step) := by
  unfold StraysAfter paletteBase at stays
  unfold paletteCell
  rcases increment with rfl | rfl
  · have : ¬ (16 ≤ x % 32 ∧ x % 4 = 0) := by omega
    rw [if_neg this]
    split <;> split <;> omega
  · repeat' split
    all_goals omega

theorem add_of_palettes {x z : Nat} (increment : step = 1 ∨ step = 32)
    (stays : ¬ StraysAfter step x) (palette : 0x3F00 ≤ x) (folded : z = canonical m (canonical m x)) :
    canonical m (canonical m (z + step)) = canonical m (canonical m (x + step)) := by
  have cell := paletteCell_lt x
  have inside : x + step < 0x4000 := by
    unfold StraysAfter at stays
    omega
  rw [canonical_canonical_of_palettes m palette (by omega)] at folded
  subst folded
  rw [canonical_canonical_of_palettes m (by omega) (by omega),
    canonical_canonical_of_palettes m (by omega) inside, paletteCell_add increment stays palette]

theorem add_of_tables {x z : Nat} (increment : step = 1 ∨ step = 32) (stays : ¬ StraysAfter step x)
    (above : 0x2000 ≤ x) (below : x < 0x3F00) (place_above : 0x2000 ≤ z) (place_below : z < 0x3000)
    (same : z % repetition m = x % repetition m) :
    canonical m (canonical m (z + step)) = canonical m (canonical m (x + step)) := by
  have inside : x + step < 0x3F00 := by
    unfold StraysAfter paletteBase at stays
    omega
  rw [canonical_canonical_of_tables m (x := z + step) (by omega) (by omega),
    canonical_canonical_of_tables m (x := x + step) (by omega) inside, Nat.add_mod z, same,
    ← Nat.add_mod]

/-- Where a burst does not stray, the next access goes to the place that it was meant for if this one
did. -/
theorem canonical_canonical_add {x y : Nat} (increment : step = 1 ∨ step = 32)
    (stays : ¬ StraysAfter step x) (same : canonical m (canonical m y) = canonical m (canonical m x)) :
    canonical m (canonical m (canonical m y + step)) = canonical m (canonical m (x + step)) := by
  have unwrapped := unwrap_canonical m y
  have regions := canonical_regions m y
  have regions' := canonical_regions m (canonical m y)
  by_cases pattern : x < 0x2000
  · rw [canonical_canonical_of_lt m pattern] at same
    have : canonical m y = x := by omega
    rw [this]
  · by_cases below : x < 0x3F00
    · have place : x % repetition m < 0x1000 := by
        cases m <;> simp only [repetition] <;> omega
      rw [canonical_canonical_of_tables m (by omega) below] at same
      have kept := canonical_mod_repetition m (a := canonical m y) (by omega) (by omega)
      refine add_of_tables increment stays (by omega) below (by omega) (by omega) ?_
      rw [same, unwrapped] at kept
      rw [← kept]
      cases m <;> simp only [repetition] <;> omega
    · have inside : x < 0x4000 := by
        unfold StraysAfter at stays
        omega
      have palette : 0x3F00 ≤ unwrap y := by
        rw [canonical_canonical_of_palettes m (by omega) inside] at same
        omega
      refine add_of_palettes increment stays (by omega) ?_
      rw [← same, canonical_canonical_palette m palette]

/-- A burst that has not strayed yet works on the place that it is meant to work on. -/
theorem canonical_trail (m : Mirroring) (increment : step = 1 ∨ step = 32) (a : Nat) {i : Nat}
    (straight : ∀ j < i, ¬ StraysAfter step (a % 0x4000 + j * step)) :
    canonical m (trail m step a i) = canonical m (canonical m (a % 0x4000 + i * step)) := by
  induction i with
  | zero => rw [trail_zero, Nat.zero_mul, Nat.add_zero, canonical_of_mod]
  | succ i ih =>
    obtain ⟨y, folded⟩ := exists_trail_eq m step a i
    have before := ih fun j earlier => straight j (by omega)
    rw [folded] at before
    rw [trail_succ, folded, canonical_canonical_add increment (straight i (by omega)) before,
      Nat.succ_mul, Nat.add_assoc]

/-! ## Going astray -/

theorem trail_lt (m : Mirroring) (increment : step = 1 ∨ step = 32)
    (below : a % 0x4000 < 0x3F00) (i : Nat) : trail m step a i < 0x3000 := by
  induction i with
  | zero =>
    rw [trail_zero, ← canonical_of_mod]
    exact canonical_lt_of_nametable m (unwrap_lt_of_lt below)
  | succ i ih =>
    rw [trail_succ]
    exact canonical_lt_of_nametable m (unwrap_lt_of_lt (by omega))

theorem le_trail (m : Mirroring) (increment : step = 1 ∨ step = 32)
    (above : 0x3F00 ≤ a % 0x4000) (i : Nat) : 0x3F00 ≤ trail m step a i ∧ trail m step a i < 0x3F20 := by
  have folded (p : Nat) (palette : 0x3F00 ≤ unwrap p) :
      0x3F00 ≤ canonical m p ∧ canonical m p < 0x3F20 := by
    have := paletteCell_lt (unwrap p - 0x3F00)
    rw [canonical_of_palette m palette]
    omega
  induction i with
  | zero =>
    rw [trail_zero, ← canonical_of_mod]
    exact folded _ (by rw [unwrap_of_lt (by omega)]; exact above)
  | succ i ih =>
    rw [trail_succ]
    exact folded _ (by rw [unwrap_of_lt (by omega)]; omega)

/-- Steps of one do not lead out of the background palettes. -/
theorem trail_lt_of_background (m : Mirroring) (above : 0x3F00 ≤ a % 0x4000) {i k : Nat}
    (entered : trail m 1 a i < 0x3F10) (later : i ≤ k) : trail m 1 a k < 0x3F10 := by
  obtain ⟨d, rfl⟩ := Nat.exists_eq_add_of_le later
  clear later
  induction d with
  | zero => exact entered
  | succ d ih =>
    have palette := (le_trail m (.inl rfl) above (i + d)).1
    rw [← Nat.add_assoc, trail_succ, canonical_of_palette m (by rw [unwrap_of_lt (by omega)]; omega),
      unwrap_of_lt (by omega)]
    unfold paletteCell
    split <;> omega

/-- In the palettes the address of a burst is the place it works on. -/
theorem canonical_trail_of_palettes (m : Mirroring) (increment : step = 1 ∨ step = 32)
    (above : 0x3F00 ≤ a % 0x4000) (i : Nat) :
    canonical m (trail m step a i) = trail m step a i := by
  obtain ⟨y, folded⟩ := exists_trail_eq m step a i
  have palette := (le_trail m increment above i).1
  rw [folded] at palette ⊢
  exact canonical_canonical_palette m ((paletteBase_le_canonical_iff m y).1 palette)

theorem not_isEntryZero_of_lt {p : Nat} (below : p < 0x3000) : ¬ IsEntryZero p := by
  rintro ⟨palette, -⟩
  have := unwrap_lt_of_lt (a := p) (by omega)
  unfold paletteBase at palette
  omega

theorem exists_crossing (f : Nat → Nat) {c : Nat} (below : f 0 < c) :
    ∀ {i : Nat}, c ≤ f i → ∃ j < i, f j < c ∧ c ≤ f (j + 1)
  | 0, beyond => absurd beyond (by omega)
  | i + 1, beyond => by
    by_cases already : c ≤ f i
    · obtain ⟨j, earlier, crosses⟩ := exists_crossing f below already
      exact ⟨j, by omega, crosses⟩
    · exact ⟨i, by omega, by omega, beyond⟩

/-- From below the palettes a burst should have entered them, and stays below them. -/
theorem ne_of_strays_below (m : Mirroring) (increment : step = 1 ∨ step = 32) {x : Nat}
    (start : a % 0x4000 < 0x3F00) (below : x < 0x3F00) (strays : StraysAfter step x) (k : Nat) :
    canonical m (trail m step a k) ≠ canonical m (canonical m (x + step)) ∧
      ¬ IsEntryZero (trail m step a k) := by
  have next : 0x3F00 ≤ x + step ∧ x + step < 0x4000 := by
    unfold StraysAfter paletteBase at strays
    omega
  have short := trail_lt m increment start k
  have folded := canonical_lt_of_nametable m (unwrap_lt_of_lt (a := trail m step a k) (by omega))
  rw [canonical_canonical_of_palettes m next.1 next.2]
  exact ⟨by omega, not_isEntryZero_of_lt short⟩

/-- At the end of memory a burst should have begun again with the tiles, and stays in the palettes. -/
theorem ne_of_strays_end (m : Mirroring) (increment : step = 1 ∨ step = 32) {x : Nat}
    (start : 0x3F00 ≤ a % 0x4000) (inside : x < 0x4000) (beyond : 0x4000 ≤ x + step) (k : Nat) :
    canonical m (trail m step a k) ≠ canonical m (canonical m (x + step)) ∧
      canonical m (canonical m (x + step)) ≠ paletteBase := by
  have palette := (le_trail m increment start k).1
  rw [canonical_trail_of_palettes m increment start, ← canonical_of_mod m (x + step),
    canonical_canonical_of_lt m (by omega)]
  unfold paletteBase
  omega

/-- At entry zero of a sprite palette a burst should have gone on in this palette, and goes on in the
background palette. -/
theorem ne_of_strays_sprites (m : Mirroring) {i : Nat} (start : 0x3F00 ≤ a % 0x4000)
    (first : ∀ j < i, ¬ StraysAfter 1 (a % 0x4000 + j * 1))
    (inside : a % 0x4000 + i * 1 + 1 < 0x4000)
    (sprites : 16 ≤ (a % 0x4000 + i * 1) % 32) (entry : (a % 0x4000 + i * 1) % 4 = 0) (k : Nat) :
    canonical m (trail m 1 a k) ≠ canonical m (canonical m (a % 0x4000 + i * 1 + 1)) ∧
      canonical m (canonical m (a % 0x4000 + i * 1 + 1)) ≠ paletteBase := by
  have next : paletteCell (a % 0x4000 + i * 1 + 1) = (a % 0x4000 + i * 1) % 32 + 1 := by
    unfold paletteCell
    split <;> omega
  rw [canonical_canonical_of_palettes m (by omega) inside, next]
  refine ⟨?_, by unfold paletteBase; omega⟩
  by_cases passed : k ≤ i
  · rw [canonical_trail m (.inl rfl) a fun j earlier => first j (by omega),
      canonical_canonical_of_palettes m (by omega) (by omega)]
    -- the same cell of the palettes was passed 32 accesses ago at least, and entry zero of a sprite
    -- palette since then
    have four_ago := first (i - 4)
    have twenty_ago := first (i - 20)
    unfold StraysAfter paletteBase at four_ago twenty_ago
    unfold paletteCell
    split <;> omega
  · have place := canonical_trail m (.inl rfl) a first
    rw [canonical_trail_of_palettes m (.inl rfl) start,
      canonical_canonical_of_palettes m (by omega) (by omega)] at place
    have background : trail m 1 a i < 0x3F10 := by
      rw [place]
      unfold paletteCell
      split <;> omega
    have := trail_lt_of_background m start background (k := k) (by omega)
    rw [canonical_trail_of_palettes m (.inl rfl) start]
    omega

/-- Where a burst strays for the first time, it should have gone to a place that it touches neither
before nor later. -/
theorem ne_of_strays (m : Mirroring) (increment : step = 1 ∨ step = 32) (a : Nat) {i : Nat}
    (first : ∀ j < i, ¬ StraysAfter step (a % 0x4000 + j * step))
    (strays : StraysAfter step (a % 0x4000 + i * step)) (k : Nat) :
    canonical m (trail m step a k) ≠
        canonical m (canonical m (a % 0x4000 + (i + 1) * step)) ∧
      ¬ (IsEntryZero (trail m step a k) ∧
        canonical m (canonical m (a % 0x4000 + (i + 1) * step)) = paletteBase) := by
  have next : a % 0x4000 + (i + 1) * step = a % 0x4000 + i * step + step := by
    rw [Nat.succ_mul, Nat.add_assoc]
  by_cases below : a % 0x4000 < 0x3F00
  · have inside : a % 0x4000 + i * step < 0x3F00 := by
      by_contra inside
      obtain ⟨j, earlier, crosses, crosses'⟩ := exists_crossing (fun j => a % 0x4000 + j * step)
        (c := 0x3F00) (by omega) (i := i) (by omega)
      rw [Nat.succ_mul, ← Nat.add_assoc] at crosses'
      exact first j earlier (.inl ⟨crosses, crosses'⟩)
    have apart := ne_of_strays_below m increment below inside strays k
    rw [next]
    exact ⟨apart.1, fun other => apart.2 other.1⟩
  · have inside : a % 0x4000 + i * step < 0x4000 := by
      cases i with
      | zero => omega
      | succ i =>
        have stays := first i (by omega)
        rw [Nat.succ_mul]
        unfold StraysAfter at stays
        omega
    rw [next]
    by_cases beyond : 0x4000 ≤ a % 0x4000 + i * step + step
    · have apart := ne_of_strays_end (a := a) m increment (by omega) inside beyond k
      exact ⟨apart.1, fun other => apart.2 other.2⟩
    · obtain ⟨rfl, sprites, entry⟩ : step = 1 ∧ 16 ≤ (a % 0x4000 + i * step) % 32 ∧
          (a % 0x4000 + i * step) % 4 = 0 := by
        unfold StraysAfter paletteBase at strays
        omega
      have apart := ne_of_strays_sprites (a := a) m (by omega) first (by omega) sprites entry k
      exact ⟨apart.1, fun other => apart.2 other.2⟩

/-! ## Many stores -/

namespace VideoMemory

/-- Stores bytes one after another, the `i`-th of them at `f i`. -/
def writeMany : VideoMemory → (Nat → Nat) → List UInt8 → VideoMemory
  | m, _, [] => m
  | m, f, v :: vs => writeMany (m.write (f 0) v) (fun i => f (i + 1)) vs

theorem write_congr (m : VideoMemory) {a b : Nat} (same : m.fold a = m.fold b) (v : UInt8) :
    m.write a v = m.write b v := by
  unfold write
  rw [(m.cell_eq_iff a b).2 same]

theorem writeMany_congr (m : VideoMemory) {f g : Nat → Nat} {vs : List UInt8}
    (same : ∀ i < vs.length, m.fold (f i) = m.fold (g i)) :
    m.writeMany f vs = m.writeMany g vs := by
  induction vs generalizing m f g with
  | nil => rfl
  | cons v vs ih =>
    rw [writeMany, writeMany, m.write_congr (same 0 (Nat.zero_lt_succ _))]
    refine ih _ fun i inside => ?_
    rw [fold_write, fold_write]
    exact same (i + 1) (Nat.succ_lt_succ inside)

/-- A place that no store goes to keeps its byte. -/
theorem get_writeMany_of_ne (m : VideoMemory) (f : Nat → Nat) (vs : List UInt8) (c : Fin 0x4000)
    (missed : ∀ i, m.fold (f i) ≠ c.val ∧ ¬ (IsEntryZero (f i) ∧ c = backdrop)) :
    (m.writeMany f vs).bytes.get c = m.bytes.get c := by
  induction vs generalizing m f with
  | nil => rfl
  | cons v vs ih =>
    rw [writeMany, ih _ _ fun i => by rw [fold_write]; exact missed (i + 1), get_write,
      if_neg (not_or_intro (missed 0).1.symm (missed 0).2)]

theorem get_writeMany_of_get (m : VideoMemory) (f : Nat → Nat) (n : Nat) {v : UInt8}
    {c : Fin 0x4000} (held : m.bytes.get c = v) :
    (m.writeMany f (List.replicate n v)).bytes.get c = v := by
  induction n generalizing m f with
  | zero => exact held
  | succ n ih =>
    refine ih _ _ ?_
    rw [get_write, held]
    exact ite_self v

/-- A place that one of the stores goes to holds the byte that is stored everywhere. -/
theorem get_writeMany_of_eq (m : VideoMemory) (f : Nat → Nat) {i n : Nat} (inside : i < n)
    (v : UInt8) {c : Fin 0x4000} (hit : m.fold (f i) = c.val) :
    (m.writeMany f (List.replicate n v)).bytes.get c = v := by
  induction n generalizing m f i with
  | zero => omega
  | succ n ih =>
    cases i with
    | zero =>
      refine get_writeMany_of_get _ _ n ?_
      rw [get_write, if_pos (.inl hit.symm)]
    | succ i => exact ih _ _ (Nat.lt_of_succ_lt_succ inside) (by rw [fold_write]; exact hit)

end VideoMemory

/-! ## Bursts -/

theorem Control.increment_eq (c : Control) : c.increment = 1 ∨ c.increment = 32 := by
  unfold Control.increment
  split
  · exact .inr rfl
  · exact .inl rfl

namespace PictureUnit

/-- Writes bytes to the data register, one after another. -/
def writeAll (u : PictureUnit) (vs : List UInt8) : PictureUnit :=
  vs.foldl (fun u v => u.writeRegister .data v) u

/-- Stores bytes from `a` on and sets the address only once. -/
def writeBurst (u : PictureUnit) (a : Nat) (vs : List UInt8) : PictureUnit :=
  (u.pointAt a).writeAll vs

/-- Stores bytes from `a` on and sets the address for each of them. -/
def writeEach (u : PictureUnit) (a : Nat) (vs : List UInt8) : PictureUnit :=
  vs.zipIdx.foldl (fun u e => u.poke ((a + e.2 * u.control.increment) % 0x4000) e.1) u

/-- Reads from the data register so many times. -/
def readMany (u : PictureUnit) (n : Nat) : PictureUnit :=
  (fun u => (u.readRegister .data).2)^[n] u

/-- The place that the next read of the data register fetches its byte from. -/
def fetches (u : PictureUnit) : Fin 0x4000 := u.memory.cell u.address

theorem address_readMany (u : PictureUnit) (a n : Nat) :
    ((u.pointAt a).readMany n).address = trail u.memory.mirroring u.control.increment a n ∧
      ((u.pointAt a).readMany n).memory = u.memory ∧
      ((u.pointAt a).readMany n).control = u.control := by
  induction n with
  | zero => rw [pointAt_eq]; exact ⟨rfl, rfl, rfl⟩
  | succ n ih =>
    obtain ⟨address, memory, control⟩ := ih
    rw [readMany, Function.iterate_succ_apply']
    change nextAddress ((u.pointAt a).readMany n) = _ ∧ ((u.pointAt a).readMany n).memory = _ ∧
      ((u.pointAt a).readMany n).control = _
    refine ⟨?_, memory, control⟩
    rw [nextAddress, address, memory, control, trail_succ]
    rfl

theorem writeAll_memory (u : PictureUnit) (vs : List UInt8) :
    (u.writeAll vs).memory =
      u.memory.writeMany
        (fun i => (fun p => canonical u.memory.mirroring (p + u.control.increment))^[i] u.address)
        vs := by
  induction vs generalizing u with
  | nil => rfl
  | cons v vs ih =>
    have rest := ih (u.writeRegister .data v)
    have arrangement : (u.writeRegister .data v).memory.mirroring = u.memory.mirroring :=
      VideoMemory.mirroring_write _ _ _
    rw [arrangement] at rest
    exact rest

theorem writeBurst_memory (u : PictureUnit) (a : Nat) (vs : List UInt8) :
    (u.writeBurst a vs).memory =
      u.memory.writeMany (trail u.memory.mirroring u.control.increment a) vs := by
  rw [writeBurst, writeAll_memory, pointAt_eq]
  rfl

theorem poke_control (u : PictureUnit) (a : Nat) (v : UInt8) : (u.poke a v).control = u.control := by
  rw [poke, pointAt_eq]
  rfl

theorem canonical_start (m : Mirroring) (a d : Nat) :
    canonical m ((a + d) % 0x4000) = canonical m (a % 0x4000 + d) := by
  rw [← Nat.mod_add_mod a, canonical_of_mod]

theorem foldl_poke_memory (u : PictureUnit) (a k : Nat) (vs : List UInt8) :
    ((vs.zipIdx k).foldl (fun u e => u.poke ((a + e.2 * u.control.increment) % 0x4000) e.1) u).memory =
      u.memory.writeMany
        (fun i => canonical u.memory.mirroring (a % 0x4000 + (k + i) * u.control.increment)) vs := by
  induction vs generalizing u k with
  | nil => rfl
  | cons v vs ih =>
    have shift (i : Nat) : k + 1 + i = k + (i + 1) := by omega
    rw [List.zipIdx_cons, List.foldl_cons, ih, poke_control, poke_memory,
      VideoMemory.mirroring_write, VideoMemory.writeMany, VideoMemory.fold_eq_canonical,
      canonical_start]
    simp only [shift, Nat.add_zero]

theorem writeEach_memory (u : PictureUnit) (a : Nat) (vs : List UInt8) :
    (u.writeEach a vs).memory =
      u.memory.writeMany
        (fun i => canonical u.memory.mirroring (a % 0x4000 + i * u.control.increment)) vs := by
  rw [writeEach, foldl_poke_memory]
  simp only [Nat.zero_add]

/-- The place that a freshly addressed read fetches its byte from. -/
theorem fetches_pointAt (u : PictureUnit) (a d : Nat) :
    (u.pointAt ((a + d) % 0x4000)).fetches.val =
      canonical u.memory.mirroring (canonical u.memory.mirroring (a % 0x4000 + d)) := by
  rw [pointAt_eq, ← canonical_start]
  rfl

theorem fetches_readMany (u : PictureUnit) (a i : Nat) :
    ((u.pointAt a).readMany i).fetches.val =
      canonical u.memory.mirroring (trail u.memory.mirroring u.control.increment a i) := by
  obtain ⟨address, memory, -⟩ := address_readMany u a i
  unfold fetches
  rw [address, memory]
  rfl

theorem writeBurst_eq_of_straight {u : PictureUnit} {a : Nat} {vs : List UInt8}
    (straight : Straight u.control.increment a vs.length) :
    (u.writeBurst a vs).memory = (u.writeEach a vs).memory := by
  rw [writeBurst_memory, writeEach_memory]
  refine VideoMemory.writeMany_congr _ fun i inside => ?_
  exact canonical_trail _ u.control.increment_eq a fun j earlier => straight j (by omega)

/-- The first place where a burst strays. -/
theorem exists_first_stray {step a n : Nat} (crooked : ¬ Straight step a n) :
    ∃ i, i + 1 < n ∧ StraysAfter step (a % 0x4000 + i * step) ∧
      ∀ j < i, ¬ StraysAfter step (a % 0x4000 + j * step) := by
  classical
  have exists_stray : ∃ i, i + 1 < n ∧ StraysAfter step (a % 0x4000 + i * step) := by
    by_contra inside
    exact crooked fun i within strays => inside ⟨i, within, strays⟩
  obtain ⟨inside, strays⟩ := Nat.find_spec exists_stray
  refine ⟨Nat.find exists_stray, inside, strays, fun j earlier stray => ?_⟩
  exact Nat.find_min exists_stray earlier ⟨by omega, stray⟩

/-- A burst that strays leaves out the place where it should have gone, which some byte shows. -/
theorem writeBurst_ne_of_not_straight {u : PictureUnit} {a n : Nat}
    (crooked : ¬ Straight u.control.increment a n) :
    ∃ v, (u.writeBurst a (List.replicate n v)).memory ≠
      (u.writeEach a (List.replicate n v)).memory := by
  obtain ⟨i, inside, strays, first⟩ := exists_first_stray crooked
  have apart := ne_of_strays u.memory.mirroring u.control.increment_eq a first strays
  obtain ⟨c, place⟩ : ∃ c : Fin 0x4000, c.val = canonical u.memory.mirroring
      (canonical u.memory.mirroring (a % 0x4000 + (i + 1) * u.control.increment)) :=
    ⟨⟨_, canonical_lt _ _⟩, rfl⟩
  have missed : ∀ k, u.memory.fold (trail u.memory.mirroring u.control.increment a k) ≠ c.val ∧
      ¬ (IsEntryZero (trail u.memory.mirroring u.control.increment a k) ∧
        c = VideoMemory.backdrop) := by
    intro k
    rw [place]
    refine ⟨(apart k).1, ?_⟩
    rintro ⟨entry, rfl⟩
    exact (apart k).2 ⟨entry, place.symm⟩
  refine ⟨u.memory.bytes.get c + 1, fun same => ?_⟩
  have burst := u.memory.get_writeMany_of_ne (trail u.memory.mirroring u.control.increment a)
    (List.replicate n (u.memory.bytes.get c + 1)) c missed
  have each := u.memory.get_writeMany_of_eq
    (fun i => canonical u.memory.mirroring (a % 0x4000 + i * u.control.increment)) inside
    (u.memory.bytes.get c + 1) (c := c) place.symm
  rw [writeBurst_memory, writeEach_memory] at same
  rw [same, each] at burst
  exact absurd burst (by simp)

/-- **When a burst does what it should.** With every increment and every mirroring, storing `n` bytes
from `a` on with one address leaves the memory that storing each of them with its own address
leaves, whatever the bytes are, exactly if the burst strays nowhere before its last access; and the
reads of a burst fetch from the places of reads with an address each exactly then. -/
theorem burst_eq_iff (u : PictureUnit) (a n : Nat) :
    ((∀ vs : List UInt8, vs.length = n →
        (u.writeBurst a vs).memory = (u.writeEach a vs).memory) ↔
      Straight u.control.increment a n) ∧
    ((∀ i < n, ((u.pointAt a).readMany i).fetches =
        (u.pointAt ((a + i * u.control.increment) % 0x4000)).fetches) ↔
      Straight u.control.increment a n) := by
  refine ⟨⟨fun agree => ?_, fun agree vs count => ?_⟩, fun agree => ?_, fun agree i inside => ?_⟩
  · by_contra crooked
    obtain ⟨v, differs⟩ := writeBurst_ne_of_not_straight crooked
    exact differs (agree _ List.length_replicate)
  · subst count
    exact writeBurst_eq_of_straight agree
  · by_contra crooked
    obtain ⟨i, inside, strays, first⟩ := exists_first_stray crooked
    have apart := ne_of_strays u.memory.mirroring u.control.increment_eq a first strays (i + 1)
    refine apart.1 ?_
    rw [← fetches_readMany, ← fetches_pointAt, agree (i + 1) inside]
  · apply Fin.ext
    rw [fetches_readMany, fetches_pointAt]
    exact canonical_trail _ u.control.increment_eq a fun j earlier => agree j (by omega)

/-- Two bytes stored from `$3F10` on: the second one should get into the first sprite palette, and
gets into the first background palette. -/
theorem writeBurst_ne_at_sprite_palette :
    ((ofMemory .blank).writeBurst 0x3F10 [0x0F, 0x16]).memory ≠
      ((ofMemory .blank).writeEach 0x3F10 [0x0F, 0x16]).memory := by
  intro same
  rw [writeBurst_memory, writeEach_memory] at same
  have cells := congrArg (fun m => m.bytes.get ⟨0x3F11, by decide⟩) same
  simp only [VideoMemory.writeMany, VideoMemory.get_write, VideoMemory.fold_write] at cells
  rw [if_neg (by decide), if_neg (by decide), if_pos (by decide)] at cells
  have blank : (VideoMemory.ofTiles .empty .fourScreen).read 0x3F11 = 0 := read_without_tiles _ _
  exact absurd (cells.symm.trans blank) (by decide)

end PictureUnit

end Famicom.Picture

/-!
# Blocks of bytes of a fixed size

Every memory of the console (work space, video memory, sprite memory, the picture) is a block whose
size never changes, so the size is part of the type and no access can miss.

* `get_set`: a store shows at its own cell and nowhere else.
* `get_tabulate`: a block built from a function holds that function's values.
* `ext_get`: a block is determined by its cells.
-/

namespace Famicom

/-- A block of exactly `n` bytes. -/
structure Bytes (n : Nat) where
  data : ByteArray
  size_eq : data.size = n

namespace Bytes

variable {n : Nat}

/-- The byte in cell `i`. -/
@[inline] def get (b : Bytes n) (i : Fin n) : UInt8 :=
  b.data.get i.val (by rw [b.size_eq]; exact i.isLt)

/-- The block with cell `i` overwritten. -/
@[inline] def set (b : Bytes n) (i : Fin n) (v : UInt8) : Bytes n where
  data := b.data.set i.val v (by rw [b.size_eq]; exact i.isLt)
  size_eq := by
    obtain ⟨⟨xs⟩, size⟩ := b
    exact (Array.size_set _).trans size

/-- Appends `f i` to `acc` for the `k` indices `i` before `n` that are still missing. -/
def tabulateFrom (f : Fin n → UInt8) : (k : Nat) → k ≤ n → ByteArray → ByteArray
  | 0, _, acc => acc
  | k + 1, few, acc => tabulateFrom f k (by omega) (acc.push (f ⟨n - (k + 1), by omega⟩))

theorem size_tabulateFrom (f : Fin n → UInt8) (k : Nat) (few : k ≤ n) (acc : ByteArray) :
    (tabulateFrom f k few acc).size = acc.size + k := by
  induction k generalizing acc with
  | zero => rfl
  | succ k ih => rw [tabulateFrom, ih, ByteArray.size_push]; omega

/-- The block whose cell `i` holds `f i`. -/
def tabulate (f : Fin n → UInt8) : Bytes n where
  data := tabulateFrom f n (Nat.le_refl n) (ByteArray.emptyWithCapacity n)
  size_eq := by
    rw [size_tabulateFrom]
    change 0 + n = n
    omega

/-- The block that holds `v` everywhere. -/
def fill (v : UInt8) : Bytes n := tabulate fun _ => v

/-- The first `n` bytes of `source`, followed by zeros where it is shorter. -/
def ofByteArray (source : ByteArray) : Bytes n :=
  tabulate fun i => if inside : i.val < source.size then source.get i.val inside else 0

/-- The block with `source` copied over its cells from `start` on; bytes past the end are
dropped. -/
def overwrite (b : Bytes n) (start : Nat) (source : ByteArray) : Bytes n :=
  tabulate fun i =>
    if inside : start ≤ i.val ∧ i.val - start < source.size then
      source.get (i.val - start) inside.2
    else b.get i

instance : Inhabited (Bytes n) := ⟨fill 0⟩

theorem ext_get {a b : Bytes n} (same : ∀ i, a.get i = b.get i) : a = b := by
  obtain ⟨⟨xs⟩, size⟩ := a
  obtain ⟨⟨ys⟩, size'⟩ := b
  have equal : xs = ys := by
    apply Array.ext
    · exact size.trans size'.symm
    · intro i inside _
      exact same ⟨i, by rw [← size]; exact inside⟩
  subst equal
  rfl

/-- A store shows at its own cell and nowhere else. -/
theorem get_set (b : Bytes n) (i j : Fin n) (v : UInt8) :
    (b.set i v).get j = if i = j then v else b.get j := by
  obtain ⟨⟨xs⟩, size⟩ := b
  change xs.size = n at size
  have place : i.val < xs.size := by omega
  have place' : j.val < xs.size := by omega
  have kept : j.val < (xs.set i.val v place).size := by rw [Array.size_set]; exact place'
  change (xs.set i.val v place)[j.val] = if i = j then v else xs[j.val]
  rw [Array.getElem_set]
  simp only [Fin.ext_iff]

theorem get_set_of_ne (b : Bytes n) {i j : Fin n} (v : UInt8) (apart : i ≠ j) :
    (b.set i v).get j = b.get j := by
  simp [get_set, apart]

theorem data_tabulateFrom (f : Fin n → UInt8) (k : Nat) (few : k ≤ n) (acc : ByteArray)
    (i : Nat) (inside : i < n) (size : acc.size = n - k)
    (done : ∀ present : i < acc.size, acc.get i present = f ⟨i, inside⟩) :
    (tabulateFrom f k few acc).get i (by rw [size_tabulateFrom]; omega) = f ⟨i, inside⟩ := by
  induction k generalizing acc with
  | zero => exact done (by omega)
  | succ k ih =>
    refine ih (by omega) _ (by rw [ByteArray.size_push]; omega) ?_
    intro present
    obtain ⟨xs⟩ := acc
    have length : xs.size = n - (k + 1) := size
    change (xs.push _).getInternal i _ = _
    rw [Array.getInternal_eq_getElem, Array.getElem_push]
    split
    · rename_i earlier
      exact done earlier
    · congr 2
      rw [ByteArray.size_push] at present
      change i < xs.size + 1 at present
      omega

@[simp] theorem get_tabulate (f : Fin n → UInt8) (i : Fin n) : (tabulate f).get i = f i :=
  data_tabulateFrom f n (Nat.le_refl n) _ i.val i.isLt (by rw [Nat.sub_self]; rfl)
    (fun present => absurd present (Nat.not_lt_zero _))

@[simp] theorem get_fill (v : UInt8) (i : Fin n) : (fill v : Bytes n).get i = v := by
  simp [fill]

theorem get_overwrite (b : Bytes n) (start : Nat) (source : ByteArray) (i : Fin n) :
    (b.overwrite start source).get i =
      if inside : start ≤ i.val ∧ i.val - start < source.size then
        source.get (i.val - start) inside.2
      else b.get i :=
  get_tabulate _ i

end Bytes

end Famicom

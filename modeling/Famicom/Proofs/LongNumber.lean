import Mathlib.Data.Nat.Digits.Lemmas

/-!
# Numbers of several bytes

A program keeps a number that is too large for one byte in several, the least significant one first.

* `unsigned` and `signed`: the number that bytes stand for, without a sign and in two's complement.
* `Fits`: the number has a two's complement form of so many bytes; `fits_iff` gives the bounds.
* `unsigned_complement`, `signed_complement`: what becomes of it when all bits are turned over.
-/

namespace Famicom.LongNumber

/-- The sum of the bytes, each with its power of 256. -/
def unsigned (bs : List UInt8) : Nat := Nat.ofDigits 256 (bs.map UInt8.toNat)

/-- In two's complement the upper half of the numbers stands for the negative ones. -/
def signed (bs : List UInt8) : Int :=
  if 2 * unsigned bs < 256 ^ bs.length then unsigned bs else unsigned bs - 256 ^ bs.length

/-- `z` can be represented by `n` bytes in two's complement. -/
def Fits (n : Nat) (z : Int) : Prop := ∃ bs : List UInt8, bs.length = n ∧ signed bs = z

/-! ## Without a sign -/

@[simp] theorem unsigned_nil : unsigned [] = 0 := rfl

@[simp] theorem unsigned_cons (b : UInt8) (bs : List UInt8) :
    unsigned (b :: bs) = b.toNat + 256 * unsigned bs := by
  rw [unsigned, List.map_cons, Nat.ofDigits_cons]
  rfl

theorem unsigned_append_singleton (bs : List UInt8) (b : UInt8) :
    unsigned (bs ++ [b]) = unsigned bs + 256 ^ bs.length * b.toNat := by
  rw [unsigned, List.map_append, Nat.ofDigits_append, List.length_map, List.map_singleton,
    Nat.ofDigits_singleton]
  rfl

/-- Bytes are digits. -/
theorem digit_lt (bs : List UInt8) : ∀ d ∈ bs.map UInt8.toNat, d < 256 := by
  intro d among
  obtain ⟨b, -, rfl⟩ := List.mem_map.mp among
  exact b.toNat_lt

theorem unsigned_lt (bs : List UInt8) : unsigned bs < 256 ^ bs.length := by
  have bound := Nat.ofDigits_lt_base_pow_length (b := 256) (by decide) (digit_lt bs)
  rwa [List.length_map] at bound

theorem unsigned_injective {bs bs' : List UInt8} (long : bs.length = bs'.length)
    (same : unsigned bs = unsigned bs') : bs = bs' := by
  have digits : bs.map UInt8.toNat = bs'.map UInt8.toNat :=
    Nat.ofDigits_inj_of_len_eq (by decide) (by simpa using long) (digit_lt bs) (digit_lt bs') same
  exact List.map_injective_iff.mpr (fun _ _ => UInt8.toNat_inj.mp) digits

theorem exists_unsigned (n : Nat) {k : Nat} (small : k < 256 ^ n) :
    ∃ bs : List UInt8, bs.length = n ∧ unsigned bs = k := by
  induction n generalizing k with
  | zero => exact ⟨[], rfl, (Nat.lt_one_iff.mp small).symm⟩
  | succ n ih =>
    rw [Nat.pow_succ] at small
    obtain ⟨bs, long, rest⟩ := ih (k := k / 256) (by omega)
    refine ⟨UInt8.ofNat k :: bs, by simp [long], ?_⟩
    rw [unsigned_cons, rest, UInt8.toNat_ofNat']
    omega

/-! ## In two's complement -/

/-- The number of forms of at least one byte is even. -/
theorem even_forms {n : Nat} (positive : n ≠ 0) : ∃ half, 256 ^ n = 2 * half := by
  obtain ⟨k, rfl⟩ := Nat.exists_eq_succ_of_ne_zero positive
  exact ⟨256 ^ k * 128, by rw [Nat.pow_succ]; omega⟩

theorem signed_cons (b : UInt8) {bs : List UInt8} (nonempty : bs ≠ []) :
    signed (b :: bs) = b.toNat + 256 * signed bs := by
  obtain ⟨half, even⟩ := even_forms (n := bs.length) (by simpa using nonempty)
  have small := b.toNat_lt
  have even' : (256 : Int) ^ bs.length = 2 * half := by exact_mod_cast even
  simp only [signed, unsigned_cons, List.length_cons, Nat.pow_succ, Int.pow_succ, even, even']
  split <;> split <;> push_cast <;> omega

/-- The bounds of two's complement. -/
theorem fits_iff {n : Nat} {z : Int} : Fits n z ↔ -256 ^ n ≤ 2 * z ∧ 2 * z < 256 ^ n := by
  constructor
  · rintro ⟨bs, rfl, rfl⟩
    have small : (unsigned bs : Int) < 256 ^ bs.length := by exact_mod_cast unsigned_lt bs
    have above : (256 : Int) ^ bs.length = (256 ^ bs.length : Nat) := by push_cast; rfl
    unfold signed
    rw [above] at small ⊢
    split <;> omega
  · rintro ⟨low, high⟩
    have above : (256 : Int) ^ n = (256 ^ n : Nat) := by push_cast; rfl
    rw [above] at low high
    rcases Int.lt_or_le z 0 with negative | positive
    · obtain ⟨bs, rfl, form⟩ := exists_unsigned n (k := (z + (256 ^ n : Nat)).toNat) (by omega)
      refine ⟨bs, rfl, ?_⟩
      rw [signed, form, if_neg (by omega), above]
      omega
    · obtain ⟨bs, rfl, form⟩ := exists_unsigned n (k := z.toNat) (by omega)
      refine ⟨bs, rfl, ?_⟩
      rw [signed, form, if_pos (by omega)]
      omega

/-- Whether a number fits is decided above its lowest byte. -/
theorem fits_succ {n : Nat} (positive : n ≠ 0) (b : UInt8) (z : Int) :
    Fits (n + 1) (b.toNat + 256 * z) ↔ Fits n z := by
  obtain ⟨half, even⟩ := even_forms positive
  have small := b.toNat_lt
  have even' : (256 : Int) ^ n = 2 * half := by exact_mod_cast even
  rw [fits_iff, fits_iff, Int.pow_succ, even']
  omega

/-! ## The complement -/

theorem unsigned_complement (bs : List UInt8) :
    unsigned (bs.map (~~~·)) + unsigned bs + 1 = 256 ^ bs.length := by
  induction bs with
  | nil => rfl
  | cons b bs ih =>
    have turned : (~~~b).toNat = 255 - b.toNat := UInt8.toNat_not b
    have small := b.toNat_lt
    rw [List.map_cons, unsigned_cons, unsigned_cons, turned, List.length_cons, Nat.pow_succ]
    omega

theorem signed_complement {bs : List UInt8} (nonempty : bs ≠ []) :
    signed (bs.map (~~~·)) = -1 - signed bs := by
  obtain ⟨half, even⟩ := even_forms (n := bs.length) (by simpa using nonempty)
  have even' : (256 : Int) ^ bs.length = 2 * half := by exact_mod_cast even
  have both := unsigned_complement bs
  rw [even] at both
  simp only [signed, List.length_map, even, even']
  split <;> split <;> omega

end Famicom.LongNumber

import Famicom.Proofs.Word
import Famicom.Proofs.LongNumber
import Famicom.Proofs.Processor.Flags
import Famicom.Proofs.Processor.Moves

/-!
# The carry

The carry is what one byte hands on to the next. Each operation that uses it is an equation between
numbers: what goes in with the old carry comes out with the new one.

* `Arithmetic.sum_add` and `overflow_add`: addition, and when its result has no form of one byte.
* `Arithmetic.sum_rotateLeft`, `sum_rotateRight` and the same for the shifts: a carry enters at one end
  and another one leaves at the other end.
-/

namespace Famicom.Processor

open LongNumber

/-- The live carry. -/
def Machine.carry {M : Type} (s : Machine M) : Bool := s.registers.status.get .carry

namespace Arithmetic

open Status

variable (s : Status) (a b v : UInt8)

/-! ## Addition -/

theorem toNat_carryIn : (carryIn s).toNat = (s.get .carry).toNat := by
  unfold carryIn
  cases s.get .carry <;> rfl

theorem get_carry_add :
    (add s a b).2.get .carry = decide (0xFF < a.toNat + b.toNat + (s.get .carry).toNat) := by
  simp [add, toNat_carryIn]

theorem toNat_add : (add s a b).1.toNat = (a.toNat + b.toNat + (s.get .carry).toNat) % 256 := by
  change (a + b + carryIn s).toNat = _
  rw [UInt8.toNat_add, UInt8.toNat_add, toNat_carryIn, Nat.mod_add_mod]

/-- Addition loses nothing. -/
theorem sum_add :
    (add s a b).1.toNat + 256 * ((add s a b).2.get .carry).toNat =
      a.toNat + b.toNat + (s.get .carry).toNat := by
  have small := a.toNat_lt
  have small' := b.toNat_lt
  have carry := (s.get .carry).toNat_le
  rw [toNat_add, get_carry_add]
  by_cases large : 0xFF < a.toNat + b.toNat + (s.get .carry).toNat
  · rw [decide_eq_true large, Bool.toNat_true]
    omega
  · rw [decide_eq_false large, Bool.toNat_false]
    omega

/-- The top bit of a byte is its sign. -/
theorem get_negative : get ⟨v⟩ .negative = decide (128 ≤ v.toNat) := by
  have small := v.toNat_lt
  have top : (v &&& Flag.negative.mask != 0) = true ↔ v.toNat / 2 ^ 7 % 2 = 1 := and_mask_iff v rfl
  rw [Bool.eq_iff_iff, decide_eq_true_iff]
  exact top.trans (by omega)

theorem get_overflow_add :
    (add s a b).2.get .overflow =
      (get ⟨a⟩ .negative == get ⟨b⟩ .negative &&
        get ⟨a⟩ .negative != get ⟨(add s a b).1⟩ .negative) := by
  have other (x y : UInt8) :
      ((x ^^^ y) &&& 0x80 != 0) = (get ⟨x⟩ .negative != get ⟨y⟩ .negative) :=
    get_xor x y .negative
  have same (x y : UInt8) :
      ((x ^^^ y) &&& 0x80 == 0) = (get ⟨x⟩ .negative == get ⟨y⟩ .negative) := by
    rw [← Bool.not_inj_iff]
    exact other x y
  simp [add, same, other]

theorem signed_singleton :
    signed [v] = if v.toNat < 128 then (v.toNat : Int) else v.toNat - 256 := by
  have half : 2 * v.toNat < 256 ↔ v.toNat < 128 := by omega
  simp [signed, half]

/-- Overflow says that the sum of two signed bytes has no form of one byte. -/
theorem overflow_add :
    (add s a b).2.get .overflow = true ↔
      ¬ Fits 1 (signed [a] + signed [b] + (s.get .carry).toNat) := by
  have small := a.toNat_lt
  have small' := b.toNat_lt
  have carry := (s.get .carry).toNat_le
  rw [get_overflow_add, get_negative, get_negative, get_negative, toNat_add, fits_iff,
    signed_singleton, signed_singleton]
  simp only [Bool.and_eq_true, beq_iff_eq, bne_iff_ne, ne_eq, decide_eq_decide]
  split <;> split <;> omega

/-! ## Shifts and rotations -/

/-- Nothing enters at the bottom. -/
theorem sum_shiftLeft :
    (shiftLeft s v).1.toNat + 256 * ((shiftLeft s v).2.get .carry).toNat = 2 * v.toNat := by
  have table : ∀ n : Fin 256, (UInt8.ofFin n <<< 1).toNat +
      256 * (UInt8.ofFin n &&& 0x80 != 0).toNat = 2 * n.val := by
    decide +kernel
  simpa [shiftLeft] using table v.toFin

/-- The old carry enters at the bottom. -/
theorem sum_rotateLeft :
    (rotateLeft s v).1.toNat + 256 * ((rotateLeft s v).2.get .carry).toNat =
      2 * v.toNat + (s.get .carry).toNat := by
  have table : ∀ (n : Fin 256) (c : Bool), (UInt8.ofFin n <<< 1 ||| if c then 1 else 0).toNat +
      256 * (UInt8.ofFin n &&& 0x80 != 0).toNat = 2 * n.val + c.toNat := by
    decide +kernel
  simpa [rotateLeft, carryIn] using table v.toFin (s.get .carry)

/-- Nothing enters at the top. -/
theorem sum_shiftRight :
    2 * (shiftRight s v).1.toNat + ((shiftRight s v).2.get .carry).toNat = v.toNat := by
  have table : ∀ n : Fin 256, 2 * (UInt8.ofFin n >>> 1).toNat +
      (UInt8.ofFin n &&& 1 != 0).toNat = n.val := by
    decide +kernel
  simpa [shiftRight] using table v.toFin

/-- The old carry enters at the top. -/
theorem sum_rotateRight :
    2 * (rotateRight s v).1.toNat + ((rotateRight s v).2.get .carry).toNat =
      v.toNat + 256 * (s.get .carry).toNat := by
  have table : ∀ (n : Fin 256) (c : Bool),
      2 * (UInt8.ofFin n >>> 1 ||| if c then 0x80 else 0).toNat +
        (UInt8.ofFin n &&& 1 != 0).toNat = n.val + 256 * c.toNat := by
    decide +kernel
  simpa [rotateRight, carryTop] using table v.toFin (s.get .carry)

end Arithmetic

end Famicom.Processor

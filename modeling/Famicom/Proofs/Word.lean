import Famicom.Processor.Machine
import Mathlib.Data.Nat.Bitwise

/-!
# Bits, bytes and words

The registers and headers of the console keep several values in one byte. Masks and shifts take them
apart, and here they are quotients and remainders of the byte's number. A word is put together from a
low and a high byte, and taken apart into them. The stack lives in page one.

* `and_mask_iff`: a mask of one bit tests that bit.
* `toNat_and_three`, `toNat_shiftRight_four`, `toNat_and_upper`: fields of more than one bit.
* `word_lowByte_highByte`: a word is the word of its bytes.
* `page_or_word_succ`: counting on inside a page counts the low byte on.
* `stackAddress_eq`: the stack pointer is an offset into page one.
-/

namespace Famicom

/-! ## Bits of a byte -/

variable (v : UInt8)

/-- A mask of one bit tests that bit. -/
theorem and_mask_iff {mask : UInt8} {i : Nat} (single : mask.toNat = 2 ^ i) :
    (v &&& mask != 0) = true ↔ v.toNat / 2 ^ i % 2 = 1 := by
  have masked : (v &&& mask).toNat = (v.toNat.testBit i).toNat * 2 ^ i := by
    rw [UInt8.toNat_and, single, Nat.and_two_pow]
  rw [bne_iff_ne, ne_eq, ← UInt8.toNat_inj, masked, Nat.testBit_eq_decide_div_mod_eq]
  by_cases on : v.toNat / 2 ^ i % 2 = 1 <;> simp [on]

theorem toNat_and_three : (v &&& 3).toNat = v.toNat % 4 :=
  (UInt8.toNat_and v 3).trans (Nat.and_two_pow_sub_one_eq_mod v.toNat 2)

theorem toNat_shiftRight_two : (v >>> 2).toNat = v.toNat / 4 :=
  (UInt8.toNat_shiftRight v 2).trans (Nat.shiftRight_eq_div_pow v.toNat 2)

theorem toNat_shiftRight_four : (v >>> 4).toNat = v.toNat / 16 :=
  (UInt8.toNat_shiftRight v 4).trans (Nat.shiftRight_eq_div_pow v.toNat 4)

/-- The upper half of a byte, in its place. -/
theorem toNat_and_upper : (v &&& 0xF0).toNat = v.toNat / 16 * 16 := by
  have table : ∀ n : Fin 256, (UInt8.ofFin n &&& 0xF0).toNat = n.val / 16 * 16 := by
    decide +kernel
  exact table v.toFin

end Famicom

namespace Famicom.Processor

/-! ## Words and their bytes -/

theorem word_succ_succ (w : UInt16) : w + 1 + 1 = w + 2 := UInt16.add_assoc w 1 1

theorem byte_succ_succ (b : UInt8) : b + 1 + 1 = b + 2 := UInt8.add_assoc b 1 1

theorem byte_succ_add_two (b : UInt8) : b + 1 + 2 = b + 3 := UInt8.add_assoc b 1 2

theorem byte_pred_pred (b : UInt8) : b - 1 - 1 = b - 2 := by
  grind

theorem toNat_word (low high : UInt8) :
    (word low high).toNat = high.toNat * 256 + low.toNat := by
  have low_lt := low.toNat_lt
  have high_lt := high.toNat_lt
  have shifted : (high.toNat <<< 8) % 2 ^ 16 = high.toNat <<< 8 := by
    rw [Nat.shiftLeft_eq]
    omega
  have joined : high.toNat <<< 8 ||| low.toNat = high.toNat <<< 8 + low.toNat :=
    (Nat.shiftLeft_add_eq_or_of_lt low_lt high.toNat).symm
  simp only [word, UInt16.toNat_or, UInt16.toNat_shiftLeft, UInt8.toNat_toUInt16]
  change high.toNat <<< 8 % 2 ^ 16 ||| low.toNat = _
  rw [shifted, joined, Nat.shiftLeft_eq]

theorem toNat_lowByte (w : UInt16) : (lowByte w).toNat = w.toNat % 256 :=
  UInt16.toNat_toUInt8 w

theorem toNat_highByte (w : UInt16) : (highByte w).toNat = w.toNat / 256 := by
  have small := w.toNat_lt
  simp only [highByte, UInt16.toNat_toUInt8, UInt16.toNat_shiftRight]
  change w.toNat >>> 8 % 256 = _
  rw [Nat.shiftRight_eq_div_pow]
  omega

/-- A word is the word of its bytes. -/
theorem word_lowByte_highByte (w : UInt16) : word (lowByte w) (highByte w) = w := by
  apply UInt16.toNat_inj.mp
  rw [toNat_word, toNat_lowByte, toNat_highByte]
  omega

/-- The page of a word is its high byte. -/
theorem word_and_page (low high : UInt8) :
    word low high &&& (0xFF00 : UInt16) = high.toUInt16 <<< 8 := by
  have page : ∀ i : Fin 16, (0xFF00#16).getLsbD i = decide (8 ≤ i.val) := by decide
  apply UInt16.eq_of_toBitVec_eq
  apply BitVec.eq_of_getLsbD_eq
  intro i small
  have mask : (0xFF00#16).getLsbD i = decide (8 ≤ i) := page ⟨i, small⟩
  rcases Nat.lt_or_ge i 8 with inside | above
  · simp [word, mask, inside]
  · simp [word, mask, above]

/-- The place of the next word inside its page. -/
theorem word_succ_and_offset (low high : UInt8) :
    (word low high + 1) &&& (0x00FF : UInt16) = (low + 1).toUInt16 := by
  apply UInt16.toNat_inj.mp
  rw [UInt16.toNat_and, UInt16.toNat_add, toNat_word, UInt8.toNat_toUInt16, UInt8.toNat_add]
  change (high.toNat * 256 + low.toNat + 1) % 65536 &&& 2 ^ 8 - 1 = (low.toNat + 1) % 256
  rw [Nat.and_two_pow_sub_one_eq_mod]
  omega

/-- Counting on inside a page counts the low byte on. -/
theorem page_or_word_succ (low high : UInt8) :
    (word low high &&& 0xFF00) ||| ((word low high + 1) &&& 0x00FF) = word (low + 1) high := by
  rw [word_and_page, word_succ_and_offset]
  rfl

/-- The stack pointer is an offset into page one. -/
theorem stackAddress_eq (sp : UInt8) : stackAddress sp = 0x0100 + sp.toUInt16 := by
  have small := sp.toNat_lt
  apply UInt16.toNat_inj.mp
  simp only [stackAddress, UInt16.toNat_or, UInt16.toNat_add, UInt8.toNat_toUInt16]
  change 2 ^ 8 * 1 ||| sp.toNat = (256 + sp.toNat) % 65536
  rw [← Nat.two_pow_add_eq_or_of_lt small]
  omega

end Famicom.Processor

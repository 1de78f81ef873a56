import Famicom.CommandLine
import Famicom.Proofs.Text.Numeral
import Mathlib.Data.List.TakeWhile

/-!
# Which texts are addresses

An address is dollar signs and then marks `0x`, any number of each, with a hexadecimal numeral
behind them. Neither a dollar sign nor a mark can begin a numeral, so that what stands in front of
it can be taken away without a look at the rest.

* `denotes_numeralPart_iff`: what is left of a text is a numeral exactly if the text is an address.
* `parse_exact`: what is read are the addresses up to 65535, among them those that are printed.
-/

namespace Famicom.CommandLine.Address

open Text Numeral

variable {n : Nat} {numeral : List Char}

/-- What may stand in front of a numeral. -/
def front (dollars marks : Nat) : List Char :=
  List.replicate dollars '$' ++ (List.replicate marks ['0', 'x']).flatten

/-- The text has the form of an address with the number `n`, which may be too large for one. -/
def IsAddress (text : List Char) (n : Nat) : Prop :=
  ∃ dollars marks numeral, text = front dollars marks ++ numeral ∧ Denotes 16 numeral n

/-- The text without what may stand in front of the numeral. -/
def numeralPart (text : List Char) : List Char := dropMarks (text.dropWhile (· == '$'))

theorem parse_eq (text : String) :
    parse text = (Numeral.read 16 maxAddress (numeralPart text.toList)).map Nat.toUInt16 := rfl

/-! ## Nothing is lost -/

theorem exists_dollars (text : List Char) :
    ∃ k, text = List.replicate k '$' ++ text.dropWhile (· == '$') := by
  have dollars : text.takeWhile (· == '$') =
      List.replicate (text.takeWhile (· == '$')).length '$' :=
    List.eq_replicate_of_mem fun _ member =>
      eq_of_beq (List.mem_takeWhile_imp (p := (· == '$')) member)
  refine ⟨(text.takeWhile (· == '$')).length, ?_⟩
  rw [← dollars, List.takeWhile_append_dropWhile]

theorem exists_marks (text : List Char) :
    ∃ k, text = (List.replicate k ['0', 'x']).flatten ++ dropMarks text := by
  fun_induction dropMarks text with
  | case1 rest ih =>
    obtain ⟨k, split⟩ := ih
    refine ⟨k + 1, ?_⟩
    rw [List.replicate_succ, List.flatten_cons, List.append_assoc, ← split]
    rfl
  | case2 text _ => exact ⟨0, rfl⟩

theorem exists_front (text : List Char) :
    ∃ dollars marks, text = front dollars marks ++ numeralPart text := by
  obtain ⟨dollars, first⟩ := exists_dollars text
  obtain ⟨marks, second⟩ := exists_marks (text.dropWhile (· == '$'))
  exact ⟨dollars, marks, by rw [front, numeralPart, List.append_assoc, ← second, ← first]⟩

/-! ## Nothing of the numeral is taken -/

theorem dropWhile_dollars (k : Nat) {rest : List Char} (absent : '$' ∉ rest) :
    (List.replicate k '$' ++ rest).dropWhile (· == '$') = rest := by
  rw [List.dropWhile_append_of_pos (fun c member => by simp [List.eq_of_mem_replicate member]),
    List.dropWhile_eq_self_iff]
  intro member dollar
  exact absent (eq_of_beq dollar ▸ List.getElem_mem member)

theorem dropMarks_marks (k : Nat) {rest : List Char} (absent : 'x' ∉ rest) :
    dropMarks ((List.replicate k ['0', 'x']).flatten ++ rest) = rest := by
  induction k with
  | zero =>
    change dropMarks rest = rest
    unfold dropMarks
    split
    · simp at absent
    · rfl
  | succ k ih =>
    rw [List.replicate_succ, List.flatten_cons, List.append_assoc]
    exact ih

/-- **Dollar signs and marks can be taken away one after the other.** -/
theorem numeralPart_front (denoted : Denotes 16 numeral n) (dollars marks : Nat) :
    numeralPart (front dollars marks ++ numeral) = numeral := by
  have absent : '$' ∉ (List.replicate marks ['0', 'x']).flatten ++ numeral := by
    intro member
    obtain mark | member := List.mem_append.mp member
    · obtain ⟨mark, among, member⟩ := List.mem_flatten.mp mark
      obtain rfl := List.eq_of_mem_replicate among
      exact absurd member (by decide)
    · exact denoted.not_mem (by decide) rfl member
  rw [numeralPart, front, List.append_assoc, dropWhile_dollars dollars absent,
    dropMarks_marks marks (denoted.not_mem (by decide) rfl)]

theorem denotes_numeralPart_iff {text : List Char} :
    Denotes 16 (numeralPart text) n ↔ IsAddress text n := by
  constructor
  · intro denoted
    obtain ⟨dollars, marks, split⟩ := exists_front text
    exact ⟨dollars, marks, numeralPart text, split, denoted⟩
  · rintro ⟨dollars, marks, numeral, rfl, denoted⟩
    rw [numeralPart_front denoted]
    exact denoted

/-! ## Exactness -/

theorem parse_eq_ok_iff {text : String} {a : UInt16} :
    parse text = .ok a ↔ ∃ n, IsAddress text.toList n ∧ n ≤ maxAddress ∧ a.toNat = n := by
  rw [parse_eq]
  constructor
  · intro parsed
    cases done : Numeral.read 16 maxAddress (numeralPart text.toList) with
    | error defect =>
      rw [done] at parsed
      cases parsed
    | ok n =>
      rw [done] at parsed
      obtain ⟨denoted, within⟩ := read_eq_ok_iff.mp done
      refine ⟨n, denotes_numeralPart_iff.mp denoted, within, ?_⟩
      rw [← Except.ok.inj parsed]
      exact UInt16.toNat_ofNat_of_lt' (Nat.lt_succ_of_le within)
  · rintro ⟨n, address, within, rfl⟩
    rw [read_eq_ok_iff.mpr ⟨denotes_numeralPart_iff.mpr address, within⟩]
    exact congrArg Except.ok (UInt16.ofNat_toNat)

/-- A numeral is an address, behind a mark or not. -/
theorem isAddress_of_mark {mark : String} (printed : mark ∈ ["", "$", "0x"])
    (denoted : Denotes 16 numeral n) : IsAddress (mark.toList ++ numeral) n := by
  simp only [List.mem_cons, List.not_mem_nil, or_false] at printed
  rcases printed with rfl | rfl | rfl
  · exact ⟨0, 0, numeral, rfl, denoted⟩
  · exact ⟨1, 0, numeral, rfl, denoted⟩
  · exact ⟨0, 1, numeral, rfl, denoted⟩

/-- A printed address is read back, whichever case its letters are changed to. -/
theorem parse_padded {mark : String} (printed : mark ∈ ["", "$", "0x"]) (recase : Char → Char)
    (shapes : ∀ d < 16, IsDigit 16 (recase (Hexadecimal.digit d)) d) {width : Nat}
    (pos : 0 < width) {a : UInt16} (fits : a.toNat < 16 ^ width) :
    parse (mark ++ String.ofList ((Hexadecimal.padded width a.toNat).map recase)) = .ok a := by
  have denoted := denotes_padded recase shapes pos fits
  refine parse_eq_ok_iff.mpr ⟨a.toNat, ?_, Nat.le_of_lt_succ a.toNat_lt, rfl⟩
  rw [String.toList_append, String.toList_ofList]
  exact isAddress_of_mark printed denoted

/-- **Addresses are read exactly.** A text is read as an address if and only if it is dollar signs,
marks and a hexadecimal numeral in that order, and the number is at most 65535; the address is this
number. An address that is printed with any number of digits that is enough for it, in capital or
small letters, behind a mark or not, is read back. -/
theorem parse_exact (text : String) (a : UInt16) :
    (parse text = .ok a ↔ ∃ n, IsAddress text.toList n ∧ n ≤ 0xFFFF ∧ a.toNat = n) ∧
      ∀ width, 0 < width → a.toNat < 16 ^ width → ∀ mark ∈ ["", "$", "0x"],
        ∀ digits ∈ [Hexadecimal.padded width a.toNat,
            (Hexadecimal.padded width a.toNat).map Char.toLower],
          parse (mark ++ String.ofList digits) = .ok a := by
  refine ⟨parse_eq_ok_iff, ?_⟩
  intro width pos fits mark printed digits member
  have capital := parse_padded printed id (by decide) pos fits
  have small := parse_padded printed Char.toLower (by decide) pos fits
  rw [List.map_id] at capital
  simp only [List.mem_cons, List.not_mem_nil, or_false] at member
  rcases member with rfl | rfl
  · exact capital
  · exact small

/-- A text with all that may stand in front of a numeral, with many zeros and letters of both cases,
and an address that is printed with more digits than it needs. -/
theorem parse_exact_of_marked_zeros :
    IsAddress "$$0x0x+0000c0De".toList 0xC0DE ∧ parse "$$0x0x+0000c0De" = .ok 0xC0DE ∧
      0 < 6 ∧ (0xC0DE : UInt16).toNat < 16 ^ 6 ∧ "0x" ∈ ["", "$", "0x"] ∧
      parse ("0x" ++ String.ofList ((Hexadecimal.padded 6 0xC0DE).map Char.toLower)) =
        .ok 0xC0DE := by
  have address : IsAddress "$$0x0x+0000c0De".toList 0xC0DE :=
    ⟨2, 2, "+0000c0De".toList, by decide,
      .signed (by decide) ⟨[0, 0, 0, 0, 12, 0, 13, 14], by decide, rfl⟩⟩
  obtain ⟨read, printed⟩ := parse_exact "$$0x0x+0000c0De" 0xC0DE
  exact ⟨address, read.mpr ⟨_, address, by decide, rfl⟩, by decide, by decide, by decide,
    printed 6 (by decide) (by decide) "0x" (by decide) _ (by decide)⟩

/-- A mark behind the sign is none. -/
example : parse "+0x10" = .error .badDigit := by decide

end Famicom.CommandLine.Address

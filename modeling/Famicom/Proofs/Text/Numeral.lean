import Famicom.Text.Numeral
import Mathlib.Data.List.Forall2
import Mathlib.Data.Nat.Digits.Defs

/-!
# Which texts are numerals

The digits of a base are the first characters of an alphabet of thirty-six, whose letters are small
or capital. A numeral is one digit or more, the most significant one first, with or without a plus
sign in front. It denotes the sum of its digits, each with its power of the base.

* `digit?_eq_some_iff`: the digits that are read are those of the alphabet.
* `readDigits_eq_ok_iff`: a number that is too large after some digits is so in the end, and thus the
  check after each digit decides about the whole.
* `read_eq_ok_iff`: what is read are the numerals of the numbers within the limit.
* `denotes_padded`: numbers printed with a fixed width are among them, in capital or small letters.
-/

namespace Famicom.Text.Numeral

variable {base limit d n m : Nat} {c : Char} {text : List Char}

/-! ## Digits -/

/-- The digits in ascending order, with small letters. -/
def smallDigits : List Char :=
  ['0', '1', '2', '3', '4', '5', '6', '7', '8', '9', 'a', 'b', 'c', 'd', 'e', 'f', 'g', 'h', 'i',
    'j', 'k', 'l', 'm', 'n', 'o', 'p', 'q', 'r', 's', 't', 'u', 'v', 'w', 'x', 'y', 'z']

/-- The digits in ascending order, with capital letters. -/
def capitalDigits : List Char :=
  ['0', '1', '2', '3', '4', '5', '6', '7', '8', '9', 'A', 'B', 'C', 'D', 'E', 'F', 'G', 'H', 'I',
    'J', 'K', 'L', 'M', 'N', 'O', 'P', 'Q', 'R', 'S', 'T', 'U', 'V', 'W', 'X', 'Y', 'Z']

/-- The character is the digit of the base with the value `d`. -/
structure IsDigit (base : Nat) (c : Char) (d : Nat) : Prop where
  lt_base : d < base
  shape : smallDigits[d]? = some c ∨ capitalDigits[d]? = some c

instance (base : Nat) (c : Char) (d : Nat) : Decidable (IsDigit base c d) :=
  decidable_of_iff (d < base ∧ (smallDigits[d]? = some c ∨ capitalDigits[d]? = some c))
    ⟨fun digit => ⟨digit.1, digit.2⟩, fun digit => ⟨digit.lt_base, digit.shape⟩⟩

/-- Characters in a range that stand in a row from a place on are found at their places. -/
theorem getElem?_of_within {alphabet : List Char} {first last : Char} {offset : Nat}
    (start : Nat) (row : ∀ k ≤ last.toNat - first.toNat,
      alphabet[start + k]? = some (Char.ofNat (first.toNat + k)))
    (apart : offset + start = first.toNat) (within : (first ≤ c && c ≤ last) = true)
    (value : c.toNat - offset = d) : alphabet[d]? = some c := by
  rw [Bool.and_eq_true, decide_eq_true_eq, decide_eq_true_eq, Char.le_def, Char.le_def,
    UInt32.le_iff_toNat_le, UInt32.le_iff_toNat_le] at within
  obtain ⟨low, high⟩ : first.toNat ≤ c.toNat ∧ c.toNat ≤ last.toNat := within
  have place : d = start + (c.toNat - first.toNat) := by omega
  rw [place, row _ (by omega), Nat.add_sub_cancel' low, Char.ofNat_toNat]

theorem isDigit_of_digit? (read : digit? base c = some d) : IsDigit base c d := by
  simp only [digit?, Option.filter_eq_some_iff, decide_eq_true_eq] at read
  obtain ⟨value, lt⟩ := read
  refine ⟨lt, ?_⟩
  split at value
  · rename_i figure
    exact .inl (getElem?_of_within 0 (by decide) rfl figure (Option.some.inj value))
  split at value
  · rename_i small
    exact .inl (getElem?_of_within 10 (by decide) rfl small (Option.some.inj value))
  split at value
  · rename_i capital
    exact .inr (getElem?_of_within 10 (by decide) rfl capital (Option.some.inj value))
  · cases value

/-- An alphabet that is read in order gives each of its characters the value of its place. -/
theorem digit?_of_getElem? {alphabet : List Char}
    (values : alphabet.map (digit? 36) = (List.range 36).map some)
    (shape : alphabet[d]? = some c) : digit? 36 c = some d := by
  have place := congrArg (·[d]?) values
  simp only [List.getElem?_map, shape, Option.map_some] at place
  obtain ⟨k, found, value⟩ := Option.map_eq_some_iff.mp place.symm
  obtain ⟨_, rfl⟩ := List.getElem?_eq_some_iff.mp found
  rw [← value, List.getElem_range]

theorem digit?_of_isDigit (digit : IsDigit base c d) : digit? base c = some d := by
  obtain ⟨lt, shape⟩ := digit
  have largest : digit? 36 c = some d := by
    obtain small | capital := shape
    · exact digit?_of_getElem? (by decide) small
    · exact digit?_of_getElem? (by decide) capital
  -- The base only decides how many of the digits there are.
  simp only [digit?, Option.filter_eq_some_iff, decide_eq_true_eq] at largest ⊢
  exact ⟨largest.1, lt⟩

/-- **The digits that are read are those of the alphabet.** -/
theorem digit?_eq_some_iff : digit? base c = some d ↔ IsDigit base c d :=
  ⟨isDigit_of_digit?, digit?_of_isDigit⟩

theorem not_isDigit_of_digit? (other : digit? base c = none) (d : Nat) : ¬ IsDigit base c d := by
  intro digit
  rw [digit?_of_isDigit digit] at other
  cases other

/-! ## Numbers -/

/-- The characters are digits with the number `n`, the most significant one first. -/
def Spells (base : Nat) (text : List Char) (n : Nat) : Prop :=
  ∃ ds, List.Forall₂ (IsDigit base) text ds ∧ Nat.ofDigits base ds.reverse = n

theorem Spells.exists_isDigit (spelled : Spells base text n) (member : c ∈ text) :
    ∃ d, IsDigit base c d := by
  obtain ⟨ds, digits, -⟩ := spelled
  induction digits with
  | nil => cases member
  | @cons a d l _ digit _ ih =>
    cases member with
    | head => exact ⟨d, digit⟩
    | tail _ member => exact ih member

/-- The text is a numeral of `n`. -/
inductive Denotes (base : Nat) : List Char → Nat → Prop where
  | bare {digits : List Char} {n : Nat} (nonempty : digits ≠ []) (spelled : Spells base digits n) :
      Denotes base digits n
  | signed {digits : List Char} {n : Nat} (nonempty : digits ≠ []) (spelled : Spells base digits n) :
      Denotes base ('+' :: digits) n

/-- The number that digits make behind those of `n`. -/
def extend (base n : Nat) (ds : List Nat) : Nat := ds.foldl (fun m d => m * base + d) n

theorem extend_zero (base : Nat) (ds : List Nat) :
    extend base 0 ds = Nat.ofDigits base ds.reverse := by
  rw [Nat.ofDigits_eq_foldr, List.foldr_reverse]
  simp only [extend, Nat.cast_id, Nat.mul_comm, Nat.add_comm]

/-- More digits make no smaller number. -/
theorem le_extend (pos : 0 < base) (n : Nat) (ds : List Nat) : n ≤ extend base n ds := by
  induction ds generalizing n with
  | nil => exact Nat.le_refl n
  | cons d ds ih =>
    calc
      n ≤ n * base := Nat.le_mul_of_pos_right n pos
      _ ≤ n * base + d := Nat.le_add_right _ d
      _ ≤ extend base (n * base + d) ds := ih _

/-- **Digits are read if the number that they make in the end is within the limit.** -/
theorem readDigits_eq_ok_iff (fits : n ≤ limit) :
    readDigits base limit n text = .ok m ↔
      (∃ ds, List.Forall₂ (IsDigit base) text ds ∧ extend base n ds = m) ∧ m ≤ limit := by
  induction text generalizing n with
  | nil =>
    constructor
    · intro read
      cases read
      exact ⟨⟨[], .nil, rfl⟩, fits⟩
    · rintro ⟨⟨ds, digits, rfl⟩, -⟩
      cases digits
      rfl
  | cons c cs ih =>
    rw [readDigits]
    constructor
    · intro read
      split at read
      · cases read
      rename_i d digit
      split at read
      · rename_i within
        obtain ⟨⟨ds, digits, rfl⟩, le⟩ := (ih within).mp read
        exact ⟨⟨d :: ds, .cons (digit?_eq_some_iff.mp digit) digits, rfl⟩, le⟩
      · cases read
    · rintro ⟨⟨ds, digits, rfl⟩, le⟩
      cases digits with
      | @cons _ d _ ds digit digits =>
        have pos : 0 < base := Nat.zero_lt_of_lt digit.lt_base
        have within : n * base + d ≤ limit := Nat.le_trans (le_extend pos _ ds) le
        rw [digit?_eq_some_iff.mpr digit]
        dsimp only
        rw [if_pos within]
        exact (ih within).mpr ⟨⟨ds, digits, rfl⟩, le⟩

theorem readDigits_zero_eq_ok_iff :
    readDigits base limit 0 text = .ok n ↔ Spells base text n ∧ n ≤ limit := by
  simp only [readDigits_eq_ok_iff (Nat.zero_le limit), extend_zero, Spells]

theorem read_plus {cs : List Char} (nonempty : cs ≠ []) :
    read base limit ('+' :: cs) = readDigits base limit 0 cs := by
  obtain ⟨d, ds, rfl⟩ := List.exists_cons_of_ne_nil nonempty
  rfl

theorem read_cons (bare : c ≠ '+') (cs : List Char) :
    read base limit (c :: cs) = readDigits base limit 0 (c :: cs) := by
  unfold read
  split
  · rename_i empty
    cases empty
  · rename_i same
    exact absurd (List.cons.inj same).1 bare
  · rename_i same
    exact absurd (List.cons.inj same).1 bare
  · rfl

/-- **What is read are the numerals of the numbers within the limit.** -/
theorem read_eq_ok_iff :
    read base limit text = .ok n ↔ Denotes base text n ∧ n ≤ limit := by
  constructor
  · intro done
    unfold read at done
    split at done
    · cases done
    · cases done
    · rename_i cs lone
      obtain ⟨spelled, le⟩ := readDigits_zero_eq_ok_iff.mp done
      exact ⟨.signed lone spelled, le⟩
    · rename_i empty _ _
      obtain ⟨spelled, le⟩ := readDigits_zero_eq_ok_iff.mp done
      exact ⟨.bare empty spelled, le⟩
  · rintro ⟨numeral, le⟩
    cases numeral with
    | signed nonempty spelled =>
      rw [read_plus nonempty]
      exact readDigits_zero_eq_ok_iff.mpr ⟨spelled, le⟩
    | bare nonempty spelled =>
      obtain ⟨c, cs, rfl⟩ := List.exists_cons_of_ne_nil nonempty
      have bare : c ≠ '+' := by
        rintro rfl
        obtain ⟨d, digit⟩ := spelled.exists_isDigit List.mem_cons_self
        exact not_isDigit_of_digit? rfl d digit
      rw [read_cons bare]
      exact readDigits_zero_eq_ok_iff.mpr ⟨spelled, le⟩

/-- Only digits and the plus sign stand in a numeral. -/
theorem Denotes.not_mem (numeral : Denotes base text n) (unsigned : c ≠ '+')
    (other : digit? base c = none) : c ∉ text := by
  intro member
  cases numeral with
  | bare _ spelled =>
    obtain ⟨d, digit⟩ := spelled.exists_isDigit member
    exact not_isDigit_of_digit? other d digit
  | signed _ spelled =>
    obtain ⟨d, digit⟩ := spelled.exists_isDigit (List.mem_of_ne_of_mem unsigned member)
    exact not_isDigit_of_digit? other d digit

/-! ## Numerals of a fixed width -/

theorem Spells.append_singleton (spelled : Spells base text n) (digit : IsDigit base c d) :
    Spells base (text ++ [c]) (d + base * n) := by
  obtain ⟨ds, digits, rfl⟩ := spelled
  refine ⟨ds ++ [d], List.rel_append digits (.cons digit .nil), ?_⟩
  rw [List.reverse_append, List.reverse_singleton, List.singleton_append, Nat.ofDigits_cons]

theorem spells_padded (recase : Char → Char)
    (shapes : ∀ d < 16, IsDigit 16 (recase (Hexadecimal.digit d)) d) {width : Nat}
    (fits : n < 16 ^ width) : Spells 16 ((Hexadecimal.padded width n).map recase) n := by
  induction width generalizing n with
  | zero =>
    obtain rfl : n = 0 := Nat.lt_one_iff.mp fits
    exact ⟨[], .nil, rfl⟩
  | succ width ih =>
    rw [Nat.pow_succ] at fits
    have front := ih (n := n / 16) (by omega)
    have last := shapes (n % 16) (Nat.mod_lt n (by decide))
    rw [Hexadecimal.padded, List.map_append, List.map_singleton]
    have spelled := front.append_singleton last
    rwa [Nat.mod_add_div] at spelled

/-- **A number that is printed with enough digits is denoted by them,** whichever case their letters
are changed to. -/
theorem denotes_padded (recase : Char → Char)
    (shapes : ∀ d < 16, IsDigit 16 (recase (Hexadecimal.digit d)) d) {width : Nat}
    (pos : 0 < width) (fits : n < 16 ^ width) :
    Denotes 16 ((Hexadecimal.padded width n).map recase) n := by
  refine .bare ?_ (spells_padded recase shapes fits)
  rw [← List.length_pos_iff, List.length_map, Hexadecimal.length_padded]
  exact pos

end Famicom.Text.Numeral

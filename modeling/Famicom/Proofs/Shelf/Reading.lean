import Famicom.Shelf
import Mathlib.Data.List.DropRight
import Mathlib.Data.List.TakeDrop

/-!
# Manifests are read back as they were written

A manifest is written in one form and read in many. The form it is written in is among those that are
read, and nothing is lost on the way: names may hold any characters, and numbers are exact as long as
they fit in sixty-four bits.

* `number_toDigits`: a whole number is read back from its digits.
* `quotedFrom_encode`: quoted text is read back from its escapes.
* `entry_entryInside`, `entryList_entriesText`: so are an entry and a list of entries.
* `read_text`: so is a manifest.
* `decodeManifest_content`: so is the manifest in a file.
-/

namespace Famicom.Shelf

open Text

namespace Manifest

/-- What follows a reader that succeeded goes on with what it read. -/
theorem ok_bind {α β : Type} (a : α) (next : α → Except Complaint β) :
    (Except.ok a >>= next) = next a := rfl

/-! ## Numbers -/

/-- What stands behind the number of a manifest, and is no part of a number. -/
inductive EndsNumber : List Char → Prop where
  | comma (rest : List Char) : EndsNumber (',' :: rest)
  | newline (rest : List Char) : EndsNumber ('\n' :: rest)

theorem digits_append {ds rest : List Char} (all : ∀ c ∈ ds, c.isDigit = true)
    (ends : EndsNumber rest) : digits (ds ++ rest) = (ds, rest) := by
  unfold digits
  rw [List.span_eq_takeWhile_dropWhile, List.takeWhile_append_of_pos all,
    List.dropWhile_append_of_pos all]
  cases ends <;> simp

theorem le_ofDigitChars (ds : List Char) (n : Nat) : n ≤ Nat.ofDigitChars 10 ds n := by
  induction ds generalizing n with
  | nil => exact Nat.le_refl n
  | cons d ds ih =>
    rw [Nat.ofDigitChars_cons]
    exact Nat.le_trans (by omega) (ih _)

theorem accumulate_eq {ds : List Char} {n : Nat} (fits : Nat.ofDigitChars 10 ds n ≤ maxWhole) :
    accumulate n ds = (Nat.ofDigitChars 10 ds n, ds.length) := by
  induction ds generalizing n with
  | nil => rfl
  | cons d ds ih =>
    rw [Nat.ofDigitChars_cons] at fits ⊢
    have step : n * 10 + (d.toNat - 48) = 10 * n + (d.toNat - '0'.toNat) := by
      change n * 10 + (d.toNat - 48) = 10 * n + (d.toNat - 48)
      omega
    have within := Nat.le_trans (le_ofDigitChars ds _) fits
    rw [accumulate, step]
    dsimp only
    rw [if_pos within, ih fits]
    rfl

/-- A number above zero begins with another digit. -/
theorem ne_zero_of_toDigits {n : Nat} (pos : 0 < n) {d : Char} {ds : List Char}
    (form : Nat.toDigits 10 n = d :: ds) : d ≠ '0' := by
  induction n using Nat.strongRecOn generalizing ds with
  | ind n ih =>
    rw [Nat.toDigits_eq_if (by decide)] at form
    split at form
    · rename_i small
      obtain ⟨rfl, -⟩ := List.cons.inj form
      intro zero
      have value := Nat.toNat_digitChar_of_lt_ten small
      rw [zero] at value
      change 48 = 48 + n at value
      omega
    · rename_i large
      obtain ⟨e, es, front⟩ := List.exists_cons_of_ne_nil (Nat.toDigits_ne_nil (n := n / 10) (b := 10))
      rw [front] at form
      obtain ⟨rfl, -⟩ := List.cons.inj form
      exact ih (n / 10) (by omega) (by omega) front

/-- **A whole number is read back from its digits.** -/
theorem number_toDigits {n : Nat} (fits : n ≤ maxWhole) {rest : List Char}
    (ends : EndsNumber rest) :
    number true (Nat.toDigits 10 n ++ rest) = .ok (.whole n, rest) := by
  have all : ∀ c ∈ Nat.toDigits 10 n, c.isDigit = true := fun c mem =>
    Nat.isDigit_of_mem_toDigits (by decide) (by decide) mem
  have value : Nat.ofDigitChars 10 (Nat.toDigits 10 n) 0 = n :=
    Nat.ofDigitChars_toDigits (by decide) (by decide)
  have counted : accumulate 0 (Nat.toDigits 10 n) = (n, (Nat.toDigits 10 n).length) := by
    rw [accumulate_eq (by rw [value]; exact fits), value]
  unfold number
  rw [digits_append all ends]
  dsimp only
  split
  · rename_i nothing
    exact absurd nothing Nat.toDigits_ne_nil
  · -- Only zero itself begins with a zero.
    rename_i d ds form
    rcases Nat.eq_zero_or_pos n with rfl | pos
    · cases form
    · exact absurd rfl (ne_zero_of_toDigits pos form)
  · rw [counted]
    dsimp only
    rw [Nat.sub_self]
    cases ends <;> simp [afterDigits]

theorem head_toDigits (n : Nat) :
    ∃ d ds, Nat.toDigits 10 n = d :: ds ∧ d.isDigit = true := by
  obtain ⟨d, ds, form⟩ := List.exists_cons_of_ne_nil (Nat.toDigits_ne_nil (n := n) (b := 10))
  refine ⟨d, ds, form, Nat.isDigit_of_mem_toDigits (b := 10) (n := n) (by decide) (by decide) ?_⟩
  rw [form]
  exact List.mem_cons_self

theorem isBlank_of_isDigit {d : Char} (digit : d.isDigit = true) : isBlank d = false := by
  unfold isBlank
  by_contra blank
  simp only [Bool.not_eq_false, Bool.or_eq_true, beq_iff_eq] at blank
  rcases blank with ((rfl | rfl) | rfl) | rfl <;> exact absurd digit (by decide)

theorem whole_toDigits (expected : String) {n : Nat} (fits : n ≤ maxWhole) {rest : List Char}
    (ends : EndsNumber rest) :
    whole expected (' ' :: (Nat.toDigits 10 n ++ rest)) = .ok (n, rest) := by
  have read := number_toDigits fits ends
  obtain ⟨d, ds, form, digit⟩ := head_toDigits n
  rw [form] at read ⊢
  have bare : skipBlanks (' ' :: (d :: ds ++ rest)) = d :: (ds ++ rest) := by
    rw [skipBlanks, List.dropWhile_cons_of_pos (by decide), List.cons_append,
      List.dropWhile_cons_of_neg (by simp [isBlank_of_isDigit digit])]
  have unsigned : d ≠ '-' := by
    rintro rfl
    exact absurd digit (by decide)
  rw [List.cons_append] at read
  simp only [whole, bare, digit, if_true, read, ok_bind]
  rfl

/-! ## Quoted text -/

theorem hexValue?_digit : ∀ k < 16, hexValue? (Quoted.digit k) = some k := by decide

theorem hexValue4?_digits {k : Nat} (low : k < 32) :
    hexValue4? '0' '0' (Quoted.digit (k / 16)) (Quoted.digit (k % 16)) = some k := by
  have zero : hexValue? '0' = some 0 := by decide
  have high := hexValue?_digit (k / 16) (by omega)
  have low := hexValue?_digit (k % 16) (by omega)
  simp only [hexValue4?, zero, high, low, Option.bind_eq_bind, Option.bind_some, Option.pure_def,
    Option.some.injEq]
  omega

theorem quotedFrom_unicode {a b c d : Char} {n : Nat} (value : hexValue4? a b c d = some n)
    (low : n < 32) (done rest : List Char) :
    quotedFrom done ('\\' :: 'u' :: a :: b :: c :: d :: rest) =
      quotedFrom (Char.ofNat n :: done) rest := by
  have notLow : isLow n = false := by
    simp only [isLow, Bool.and_eq_false_iff, decide_eq_false_iff_not]
    omega
  have notHigh : isHigh n = false := by
    simp only [isHigh, Bool.and_eq_false_iff, decide_eq_false_iff_not]
    omega
  -- A second escape right behind this one is looked at together with it.
  by_cases pair : ∃ e f g h more, rest = '\\' :: 'u' :: e :: f :: g :: h :: more
  · obtain ⟨e, f, g, h, more, rfl⟩ := pair
    simp only [quotedFrom, value, notLow, notHigh, Bool.false_eq_true, if_false]
  · rw [quotedFrom]
    · simp only [value, notLow, notHigh, Bool.false_eq_true, if_false]
    · intro e f g h more same
      exact pair ⟨e, f, g, h, more, same⟩

/-- A character is read back from the way it is written. -/
theorem quotedFrom_encodeChar (c : Char) (done rest : List Char) :
    quotedFrom done (Quoted.encodeChar c ++ rest) = quotedFrom (c :: done) rest := by
  unfold Quoted.encodeChar
  split
  · subst_vars; simp [quotedFrom, escaped?]
  split
  · subst_vars; simp [quotedFrom, escaped?]
  split
  · subst_vars; simp [quotedFrom, escaped?]
  split
  · subst_vars; simp [quotedFrom, escaped?]
  split
  · subst_vars; simp [quotedFrom, escaped?]
  split
  · subst_vars; simp [quotedFrom, escaped?]
  split
  · subst_vars; simp [quotedFrom, escaped?]
  split
  · rename_i control
    simp only [List.cons_append, List.nil_append]
    rw [quotedFrom_unicode (hexValue4?_digits control) control, Char.ofNat_toNat]
  · rename_i _ backslash _ _ _ _ _ plain
    simp [quotedFrom, backslash, plain]

/-- **Quoted text is read back from its escapes.** -/
theorem quotedFrom_encode (t done rest : List Char) :
    quotedFrom done (t.flatMap Quoted.encodeChar ++ '"' :: rest) =
      .ok (done.reverse ++ t, rest) := by
  induction t generalizing done with
  | nil => simp [quotedFrom]
  | cons c t ih =>
    rw [List.flatMap_cons, List.append_assoc, quotedFrom_encodeChar, ih]
    simp

theorem string_encode (t rest : List Char) :
    string (' ' :: (Quoted.encode t ++ rest)) = .ok (String.ofList t, rest) := by
  have read := quotedFrom_encode t [] rest
  have bare : skipBlanks (' ' :: (Quoted.encode t ++ rest)) =
      '"' :: (t.flatMap Quoted.encodeChar ++ '"' :: rest) := by
    simp [skipBlanks, isBlank, Quoted.encode]
  rw [List.reverse_nil, List.nil_append] at read
  simp only [string, bare, quoted, read, ok_bind]
  rfl

/-! ## Members -/

section Members

variable {σ : Type} {member : String → σ → List Char → Except Complaint (σ × List Char)}

/-- A member in front is read, and the others are read after it. -/
theorem members_cons {first : Bool} {state state' : σ} {text opened behind rest : List Char}
    (key : String) (next : nextKey first text = .ok (some opened))
    (named : quoted opened = .ok (key.toList, behind))
    (value : member key state behind = .ok (state', rest)) (fuel : Nat) :
    members member first state text (fuel + 1) = members member false state' rest fuel := by
  simp only [members, next, named, ok_bind, String.ofList_toList, value]

theorem members_nil {first : Bool} {text : List Char} (next : nextKey first text = .ok none)
    (state : σ) (fuel : Nat) :
    members member first state text (fuel + 1) = .ok (state, pastObject text) := by
  simp only [members, next, ok_bind]
  rfl

end Members

theorem field_none {α : Type} {reader : List Char → Except Complaint (α × List Char)}
    {text rest : List Char} {a : α} (value : reader text = .ok (a, rest)) (name : String) :
    field name reader none (':' :: text) = .ok (some a, rest) := by
  have mark : colon (':' :: text) = .ok text := rfl
  simp [field, mark, ok_bind, value]

/-! ## Entries -/

theorem toNat_le_maxWhole (id : UInt64) : id.toNat ≤ maxWhole := Nat.le_pred_of_lt id.toNat_lt

/-- The text of an entry behind its opening brace. -/
def entryInside (e : Entry) (rest : List Char) : List Char :=
  "\n      \"id\":".toList ++ ' ' :: (Nat.toDigits 10 e.id.toNat ++
    (",\n      \"name\":".toList ++ ' ' :: (Quoted.encode e.name.toList ++
      (",\n      \"size\":".toList ++ ' ' :: (Nat.toDigits 10 e.size ++
        ("\n    \x7d".toList ++ rest))))))

/-- Before an entry stand blanks and its opening brace. -/
theorem skipBlanks_text (e : Entry) (rest : List Char) :
    skipBlanks ('\n' :: (e.text ++ rest)) = '\x7b' :: entryInside e rest := by
  have form : e.text ++ rest = "    \x7b".toList ++ entryInside e rest := by
    unfold entryInside
    simp only [Entry.text, Entry.lines, List.intercalate, List.intersperse]
    simp
  rw [form]
  rfl

theorem le_length_entryInside (e : Entry) (rest : List Char) :
    4 ≤ (entryInside e rest).length := by
  unfold entryInside
  rw [List.length_append]
  exact Nat.le_add_right_of_le (by decide)

/-- The members of an entry are read one after another. -/
theorem members_entryInside {e : Entry} (fits : e.size ≤ maxWhole) (rest : List Char)
    (fuel : Nat) :
    members entryMember true ⟨none, none, none⟩ (entryInside e rest) (fuel + 4) =
      .ok (⟨some e.id.toNat, some e.name, some e.size⟩, rest) := by
  have id (p : PartialEntry) (unset : p.id = none) (after : List Char) :
      entryMember "id" p (':' :: ' ' :: (Nat.toDigits 10 e.id.toNat ++ ',' :: after)) =
        .ok ({ p with id := some e.id.toNat }, ',' :: after) := by
    have value := whole_toDigits "u64" (toNat_le_maxWhole e.id) (.comma after)
    simp only [entryMember, unset, field_none value, ok_bind]
    rfl
  have name (p : PartialEntry) (unset : p.name = none) (after : List Char) :
      entryMember "name" p (':' :: ' ' :: (Quoted.encode e.name.toList ++ after)) =
        .ok ({ p with name := some e.name }, after) := by
    have value := string_encode e.name.toList after
    simp only [entryMember, unset, field_none value, ok_bind, String.ofList_toList]
    rfl
  have size (p : PartialEntry) (unset : p.size = none) (after : List Char) :
      entryMember "size" p (':' :: ' ' :: (Nat.toDigits 10 e.size ++ '\n' :: after)) =
        .ok ({ p with size := some e.size }, '\n' :: after) := by
    have value := whole_toDigits "usize" fits (.newline after)
    simp only [entryMember, unset, field_none value, ok_bind]
    rfl
  calc members entryMember true ⟨none, none, none⟩ (entryInside e rest) (fuel + 4)
    _ = members entryMember false ⟨some e.id.toNat, none, none⟩ _ (fuel + 3) :=
        members_cons "id" rfl rfl (id _ rfl _) _
    _ = members entryMember false ⟨some e.id.toNat, some e.name, none⟩ _ (fuel + 2) :=
        members_cons "name" rfl rfl (name _ rfl _) _
    _ = members entryMember false ⟨some e.id.toNat, some e.name, some e.size⟩ _ (fuel + 1) :=
        members_cons "size" rfl rfl (size _ rfl _) _
    _ = .ok (⟨some e.id.toNat, some e.name, some e.size⟩, rest) := members_nil rfl _ _

/-- **An entry is read back from its text.** -/
theorem entry_entryInside {e : Entry} (fits : e.size ≤ maxWhole) (rest : List Char) :
    entry ('\x7b' :: entryInside e rest) = .ok (e, rest) := by
  have opened : skipBlanks ('\x7b' :: entryInside e rest) = '\x7b' :: entryInside e rest := rfl
  obtain ⟨fuel, enough⟩ : ∃ fuel, (entryInside e rest).length + 1 = fuel + 4 :=
    ⟨(entryInside e rest).length - 3, by have := le_length_entryInside e rest; omega⟩
  simp only [entry, opened, enough, members_entryInside fits, ok_bind, present,
    Nat.toUInt64_eq, UInt64.ofNat_toNat]
  rfl

/-! ## Lists of entries -/

/-- The text of a list behind one of its entries, when so many are still to come. -/
def entriesBehind : List Entry → List Char → List Char
  | [], rest => "\n  ]".toList ++ rest
  | e :: es, rest => ",\n".toList ++ (e.text ++ entriesBehind es rest)

theorem entriesText_cons (e : Entry) (es : List Entry) (rest : List Char) :
    entriesText (e :: es) ++ rest = "[\n".toList ++ (e.text ++ entriesBehind es rest) := by
  have listed : ",\n".toList.intercalate ((e :: es).map Entry.text) ++ ("\n  ]".toList ++ rest) =
      e.text ++ entriesBehind es rest := by
    induction es generalizing e with
    | nil => simp [List.intercalate, entriesBehind]
    | cons e' es ih =>
      rw [entriesBehind, ← ih e']
      simp [List.intercalate]
  rw [← listed]
  simp [entriesText]

theorem nextValue_true {text rest : List Char} (opened : skipBlanks text = '\x7b' :: rest) :
    nextValue true text = .ok (some ('\x7b' :: rest)) := by
  simp only [nextValue, opened]
  rfl

theorem nextValue_false {text rest : List Char} (opened : skipBlanks text = '\x7b' :: rest) :
    nextValue false (',' :: text) = .ok (some ('\x7b' :: rest)) := by
  have comma : skipBlanks (',' :: text) = ',' :: text := rfl
  simp [nextValue, comma, opened]
  rfl

theorem length_le_length_entriesBehind (es : List Entry) (rest : List Char) :
    es.length ≤ (entriesBehind es rest).length := by
  induction es with
  | nil => exact Nat.zero_le _
  | cons e es ih =>
    simp only [entriesBehind, List.length_cons, List.length_append]
    have comma : ",\n".toList.length = 2 := rfl
    omega

/-- The entries still to come are read one after another. -/
theorem entriesFrom_entriesBehind {es : List Entry} (fits : ∀ e ∈ es, e.size ≤ maxWhole)
    (rest : List Char) {done : List Entry} (begun : done.isEmpty = false) {fuel : Nat}
    (enough : es.length < fuel) :
    entriesFrom done (entriesBehind es rest) fuel = .ok (done.reverse ++ es, rest) := by
  induction es generalizing done fuel with
  | nil =>
    obtain ⟨fuel, rfl⟩ := Nat.exists_eq_add_one.2 enough
    have next : nextValue done.isEmpty (entriesBehind [] rest) = .ok none := by rw [begun]; rfl
    have ended : endList (entriesBehind [] rest) = .ok rest := rfl
    simp only [entriesFrom, next, ok_bind, ended, List.append_nil]
    rfl
  | cons e es ih =>
    obtain ⟨fuel, rfl⟩ := Nat.exists_eq_add_one.2 (Nat.zero_lt_of_lt enough)
    have next : nextValue done.isEmpty (entriesBehind (e :: es) rest) =
        .ok (some ('\x7b' :: entryInside e (entriesBehind es rest))) := by
      rw [begun]
      exact nextValue_false (skipBlanks_text e (entriesBehind es rest))
    have begun : (e :: done).isEmpty = false := rfl
    have later := ih (fun e' mem => fits e' (List.mem_cons_of_mem e mem)) begun
      (Nat.lt_of_succ_lt_succ enough)
    simp only [entriesFrom, next, ok_bind, entry_entryInside (fits e List.mem_cons_self), later,
      List.reverse_cons, List.append_assoc, List.singleton_append]

/-- **A list of entries is read back from its text.** -/
theorem entryList_entriesText {es : List Entry} (fits : ∀ e ∈ es, e.size ≤ maxWhole)
    (rest : List Char) : entryList (' ' :: (entriesText es ++ rest)) = .ok (es, rest) := by
  cases es with
  | nil => rfl
  | cons e es =>
    rw [entriesText_cons]
    have next := nextValue_true (skipBlanks_text e (entriesBehind es rest))
    have enough : es.length < ('\n' :: (e.text ++ entriesBehind es rest)).length := by
      have shorter := length_le_length_entriesBehind es rest
      simp only [List.length_cons, List.length_append]
      omega
    have begun : [e].isEmpty = false := rfl
    have later := entriesFrom_entriesBehind (fun e' mem => fits e' (List.mem_cons_of_mem e mem))
      rest begun enough
    have opened : skipBlanks (' ' :: ("[\n".toList ++ (e.text ++ entriesBehind es rest))) =
        '[' :: '\n' :: (e.text ++ entriesBehind es rest) := rfl
    simp only [entryList, opened, entriesFrom, List.isEmpty_nil, next, ok_bind,
      entry_entryInside (fits e List.mem_cons_self), later]
    rfl

/-! ## Manifests -/

/-- The text of a manifest behind its opening brace. -/
def inside (m : Manifest) : List Char :=
  "\n  \"next_id\":".toList ++ ' ' :: (Nat.toDigits 10 m.nextId.toNat ++
    (",\n  \"entries\":".toList ++ ' ' :: (entriesText m.entries ++ "\n\x7d".toList)))

theorem text_eq (m : Manifest) : m.text = '\x7b' :: m.inside := by
  unfold inside text
  simp

theorem le_length_inside (m : Manifest) : 3 ≤ m.inside.length := by
  unfold inside
  rw [List.length_append]
  exact Nat.le_add_right_of_le (by decide)

/-- The members of a manifest are read one after another. -/
theorem members_inside {m : Manifest} (fits : ∀ e ∈ m.entries, e.size ≤ maxWhole) (fuel : Nat) :
    members manifestMember true ⟨none, none⟩ m.inside (fuel + 3) =
      .ok (⟨some m.nextId.toNat, some m.entries⟩, []) := by
  have nextId (p : PartialManifest) (unset : p.nextId = none) (after : List Char) :
      manifestMember "next_id" p (':' :: ' ' :: (Nat.toDigits 10 m.nextId.toNat ++ ',' :: after)) =
        .ok ({ p with nextId := some m.nextId.toNat }, ',' :: after) := by
    have value := whole_toDigits "u64" (toNat_le_maxWhole m.nextId) (.comma after)
    simp only [manifestMember, unset, field_none value, ok_bind]
    rfl
  have entries (p : PartialManifest) (unset : p.entries = none) (after : List Char) :
      manifestMember "entries" p (':' :: ' ' :: (entriesText m.entries ++ after)) =
        .ok ({ p with entries := some m.entries }, after) := by
    have value := entryList_entriesText fits after
    simp only [manifestMember, unset, field_none value, ok_bind]
    rfl
  calc members manifestMember true ⟨none, none⟩ m.inside (fuel + 3)
    _ = members manifestMember false ⟨some m.nextId.toNat, none⟩ _ (fuel + 2) :=
        members_cons "next_id" rfl rfl (nextId _ rfl _) _
    _ = members manifestMember false ⟨some m.nextId.toNat, some m.entries⟩ _ (fuel + 1) :=
        members_cons "entries" rfl rfl (entries _ rfl _) _
    _ = .ok (⟨some m.nextId.toNat, some m.entries⟩, []) := members_nil rfl _ _

/-- **A manifest is read back from its text**, if no image is larger than a number can say. -/
theorem read_text {m : Manifest} (fits : ∀ e ∈ m.entries, e.size < UInt64.size) :
    Manifest.read m.text = .ok m := by
  have fits (e) (mem : e ∈ m.entries) : e.size ≤ maxWhole := Nat.le_pred_of_lt (fits e mem)
  have opened : skipBlanks m.text = '\x7b' :: m.inside := by
    rw [text_eq]
    rfl
  obtain ⟨fuel, enough⟩ : ∃ fuel, m.inside.length + 1 = fuel + 3 :=
    ⟨m.inside.length - 2, by have := m.le_length_inside; omega⟩
  have front : readFrom m.text = .ok (m, []) := by
    simp only [readFrom, opened, enough, members_inside fits, ok_bind, present,
      Nat.toUInt64_eq, UInt64.ofNat_toNat]
    rfl
  simp only [Manifest.read, front, ok_bind]
  rfl

end Manifest

/-- **A manifest is read back from the file it was written to.** -/
theorem decodeManifest_content {m : Manifest} (fits : ∀ e ∈ m.entries, e.size < UInt64.size) :
    decodeManifest m.content = .ok m := by
  have text : String.fromUTF8? m.content = some (String.ofList m.text) :=
    dif_pos (String.ofList m.text).isValidUTF8
  simp only [decodeManifest, text, String.toList_ofList, Manifest.read_text fits]

end Famicom.Shelf

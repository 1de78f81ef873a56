import Famicom.Shelf.Manifest
import Famicom.Shelf.Manifest.Token

/-!
# Reading manifests

A manifest is read in one pass, straight into its fields. The fields of a record may come in any
order, and fields with other names are skipped; a record may also be a list of its fields in their
order. Each field must be there exactly once, and nothing but blanks may follow.

* `Manifest.read` reads a whole text.
-/

namespace Famicom.Shelf.Manifest

/-! ## Values that nobody asked for -/

inductive Bracket where
  | list
  | object
  deriving DecidableEq, Repr

/-- What comes next while a value is skipped: a value, the key of a member, or a comma or else the
end of the innermost list or object. -/
inductive Expectation where
  | value
  | key
  | comma
  deriving DecidableEq, Repr

/-- Skips a value without its inner values: says what comes next and which lists and objects are
open then. -/
def skipShallow (opened : List Bracket) (text : List Char) :
    Except Complaint (Expectation × List Bracket × List Char) := do
  match text with
  | [] => throw (.at' .endInValue [])
  | 'n' :: rest => return (.comma, opened, ← word ['u', 'l', 'l'] rest)
  | 't' :: rest => return (.comma, opened, ← word ['r', 'u', 'e'] rest)
  | 'f' :: rest => return (.comma, opened, ← word ['a', 'l', 's', 'e'] rest)
  | '"' :: rest => return (.comma, opened, ← skipQuoted rest)
  | '-' :: rest => return (.comma, opened, ← skipNumber rest)
  | '[' :: rest =>
    match skipBlanks rest with
    | [] => throw (.at' .endInList [])
    | ']' :: rest => return (.comma, opened, rest)
    | rest => return (.value, .list :: opened, rest)
  | '\x7b' :: rest =>
    match skipBlanks rest with
    | [] => throw (.at' .endInObject [])
    | '\x7d' :: rest => return (.comma, opened, rest)
    | rest => return (.key, .object :: opened, rest)
  | c :: rest =>
    if c.isDigit then return (.comma, opened, ← skipNumber (c :: rest))
    else throw (.at' .valueExpected (c :: rest))

/-- Skips the key of a member and its colon. -/
def skipKey (text : List Char) : Except Complaint (List Char) := do
  match text with
  | [] => throw (.at' .endInObject [])
  | '"' :: rest =>
    match skipBlanks (← skipQuoted rest) with
    | [] => throw (.at' .endInObject [])
    | ':' :: rest => return rest
    | rest => throw (.at' .colonExpected rest)
  | rest => throw (.at' .unquotedKey rest)

/-- Skips what is left of a value when so many lists and objects are open. Every step takes a
character at least. -/
def skipFrom (next : Expectation) (opened : List Bracket) (text : List Char) :
    (fuel : Nat) → Except Complaint (List Char)
  | 0 => .ok text
  | fuel + 1 => do
    match next, opened with
    | .value, opened =>
      let r ← skipShallow opened (skipBlanks text)
      skipFrom r.1 r.2.1 r.2.2 fuel
    | .key, opened => skipFrom .value opened (← skipKey (skipBlanks text)) fuel
    | .comma, [] => return text
    | .comma, .list :: outer =>
      match skipBlanks text with
      | [] => throw (.at' .endInList [])
      | ',' :: rest => skipFrom .value (.list :: outer) rest fuel
      | ']' :: rest => skipFrom .comma outer rest fuel
      | rest => throw (.at' .listEndExpected rest)
    | .comma, .object :: outer =>
      match skipBlanks text with
      | [] => throw (.at' .endInObject [])
      | ',' :: rest => skipFrom .key (.object :: outer) rest fuel
      | '\x7d' :: rest => skipFrom .comma outer rest fuel
      | rest => throw (.at' .objectEndExpected rest)

/-- Skips a value. -/
def skipValue (text : List Char) : Except Complaint (List Char) :=
  skipFrom .value [] text (text.length + 2)

/-! ## Plain values -/

/-- The complaint about a value of another kind than the one expected. -/
def mismatch (expected : String) (text : List Char) : Complaint :=
  let found (kind : Found) (rest : Except Complaint (List Char)) : Complaint :=
    match rest with
    | .ok rest => .before (.wrongKind kind expected) rest
    | .error c => c
  let numeral (positive : Bool) (text : List Char) : Complaint :=
    match number positive text with
    | .ok (n, rest) => .before (.wrongKind n.found expected) rest
    | .error c => c
  match text with
  | [] => .at' .endInValue []
  | 'n' :: rest => found .nothing (word ['u', 'l', 'l'] rest)
  | 't' :: rest => found (.truth true) (word ['r', 'u', 'e'] rest)
  | 'f' :: rest => found (.truth false) (word ['a', 'l', 's', 'e'] rest)
  | '-' :: rest => numeral false rest
  | '"' :: rest =>
    match quoted rest with
    | .ok (t, rest) => .before (.wrongKind (.quoted t) expected) rest
    | .error c => c
  | '[' :: _ => .before (.wrongKind .list expected) text
  | '\x7b' :: _ => .before (.wrongKind .object expected) text
  | c :: _ => if c.isDigit then numeral true text else .at' .valueExpected text

/-- Reads a whole number that is not below zero. -/
def whole (expected : String) (text : List Char) : Except Complaint (Nat × List Char) := do
  let text := skipBlanks text
  let r ← match text with
    | '-' :: rest => number false rest
    | c :: _ => if c.isDigit then number true text else throw (mismatch expected text)
    | [] => throw (mismatch expected [])
  match r with
  | (.whole n, rest) => return (n, rest)
  | (.negative n, rest) => throw (.before (.outOfRange (-(n : Int)) expected) rest)
  | (.fraction t, rest) => throw (.before (.wrongKind (.fraction t) expected) rest)

/-- Reads quoted text. -/
def string (text : List Char) : Except Complaint (String × List Char) := do
  match skipBlanks text with
  | '"' :: rest =>
    let r ← quoted rest
    return (String.ofList r.1, r.2)
  | rest => throw (mismatch "a string" rest)

/-! ## Lists and records -/

/-- Moves to the next value of a list, or to its end. -/
def nextValue (first : Bool) (text : List Char) : Except Complaint (Option (List Char)) := do
  match skipBlanks text with
  | [] => throw (.at' .endInList [])
  | ']' :: _ => return none
  | c :: rest =>
    if first then return some (c :: rest)
    else if c = ',' then
      match skipBlanks rest with
      | [] => throw (.at' .endInValue [])
      | ']' :: rest => throw (.at' .trailingComma (']' :: rest))
      | rest => return some rest
    else throw (.at' .listEndExpected (c :: rest))

/-- Takes the end of a list. -/
def endList (text : List Char) : Except Complaint (List Char) :=
  match skipBlanks text with
  | ']' :: rest => .ok rest
  | [] => .error (.at' .endInList [])
  | ',' :: rest =>
    match skipBlanks rest with
    | ']' :: rest => .error (.at' .trailingComma (']' :: rest))
    | rest => .error (.at' .trailingText rest)
  | rest => .error (.at' .trailingText rest)

/-- Moves to the next key of an object, behind its opening quote, or to the end of the object. -/
def nextKey (first : Bool) (text : List Char) : Except Complaint (Option (List Char)) := do
  match skipBlanks text with
  | [] => throw (.at' .endInObject [])
  | '\x7d' :: _ => return none
  | c :: rest =>
    if first then
      if c = '"' then return some rest else throw (.at' .unquotedKey (c :: rest))
    else if c = ',' then
      match skipBlanks rest with
      | [] => throw (.at' .endInValue [])
      | '"' :: rest => return some rest
      | '\x7d' :: rest => throw (.at' .trailingComma ('\x7d' :: rest))
      | rest => throw (.at' .unquotedKey rest)
    else throw (.at' .objectEndExpected (c :: rest))

/-- Takes the colon after a key. -/
def colon (text : List Char) : Except Complaint (List Char) :=
  match skipBlanks text with
  | ':' :: rest => .ok rest
  | [] => .error (.at' .endInObject [])
  | rest => .error (.at' .colonExpected rest)

/-- The text from the end of the object on, if it is here. -/
def pastObject (text : List Char) : List Char :=
  match skipBlanks text with
  | '\x7d' :: rest => rest
  | rest => rest

/-- Reads the members of an object; `member` takes the key and the text behind it. -/
def members {σ : Type} (member : String → σ → List Char → Except Complaint (σ × List Char))
    (first : Bool) (state : σ) (text : List Char) :
    (fuel : Nat) → Except Complaint (σ × List Char)
  | 0 => .ok (state, text)
  | fuel + 1 => do
    match ← nextKey first text with
    | none => return (state, pastObject text)
    | some rest =>
      let k ← quoted rest
      let r ← member (String.ofList k.1) state k.2
      members member false r.1 r.2 fuel

/-- Reads the value of a field that must not have one yet. -/
def field {α : Type} (name : String) (reader : List Char → Except Complaint (α × List Char))
    (known : Option α) (text : List Char) : Except Complaint (Option α × List Char) := do
  if known.isSome then throw (.before (.repeatedField name) (pastObject text))
  let r ← reader (← colon text)
  return (some r.1, r.2)

/-- The value of a field that was read, or the complaint that it is missing. -/
def present {α : Type} (name : String) (known : Option α) (rest : List Char) :
    Except Complaint α :=
  match known with
  | some a => .ok a
  | none => .error (.before (.missingField name) rest)

/-- Reads the next of the values of a record that is written as a list. -/
def element {α : Type} (index : Nat) (expected : String)
    (reader : List Char → Except Complaint (α × List Char)) (text : List Char) :
    Except Complaint (α × List Char) := do
  match ← nextValue (index == 0) text with
  | some rest => reader rest
  | none => throw (.before (.wrongLength index expected) ((skipBlanks text).drop 1))

/-! ## Entries and manifests -/

structure PartialEntry where
  id : Option Nat
  name : Option String
  size : Option Nat

def entryMember (key : String) (e : PartialEntry) (text : List Char) :
    Except Complaint (PartialEntry × List Char) := do
  match key with
  | "id" =>
    let r ← field key (whole "u64") e.id text
    return ({ e with id := r.1 }, r.2)
  | "name" =>
    let r ← field key string e.name text
    return ({ e with name := r.1 }, r.2)
  | "size" =>
    let r ← field key (whole "usize") e.size text
    return ({ e with size := r.1 }, r.2)
  | _ => return (e, ← skipValue (← colon text))

/-- Reads an entry. -/
def entry (text : List Char) : Except Complaint (Entry × List Char) := do
  match skipBlanks text with
  | '\x7b' :: rest =>
    let r ← members entryMember true ⟨none, none, none⟩ rest (rest.length + 1)
    let id ← present "id" r.1.id r.2
    let name ← present "name" r.1.name r.2
    let size ← present "size" r.1.size r.2
    return ({ id := id.toUInt64, name, size }, r.2)
  | '[' :: rest =>
    let expected := "struct LibraryEntry with 3 elements"
    let id ← element 0 expected (whole "u64") rest
    let name ← element 1 expected string id.2
    let size ← element 2 expected (whole "usize") name.2
    return ({ id := id.1.toUInt64, name := name.1, size := size.1 }, ← endList size.2)
  | rest => throw (mismatch "struct LibraryEntry" rest)

/-- Reads the entries of a list, after those in `done`, last one first. -/
def entriesFrom (done : List Entry) (text : List Char) :
    (fuel : Nat) → Except Complaint (List Entry × List Char)
  | 0 => .ok (done.reverse, text)
  | fuel + 1 => do
    match ← nextValue done.isEmpty text with
    | none => return (done.reverse, ← endList text)
    | some rest =>
      let r ← entry rest
      entriesFrom (r.1 :: done) r.2 fuel

/-- Reads a list of entries. -/
def entryList (text : List Char) : Except Complaint (List Entry × List Char) :=
  match skipBlanks text with
  | '[' :: rest => entriesFrom [] rest (rest.length + 1)
  | rest => .error (mismatch "a sequence" rest)

structure PartialManifest where
  nextId : Option Nat
  entries : Option (List Entry)

def manifestMember (key : String) (m : PartialManifest) (text : List Char) :
    Except Complaint (PartialManifest × List Char) := do
  match key with
  | "next_id" =>
    let r ← field key (whole "u64") m.nextId text
    return ({ m with nextId := r.1 }, r.2)
  | "entries" =>
    let r ← field key entryList m.entries text
    return ({ m with entries := r.1 }, r.2)
  | _ => return (m, ← skipValue (← colon text))

/-- Reads a manifest in front of other text. -/
def readFrom (text : List Char) : Except Complaint (Manifest × List Char) := do
  match skipBlanks text with
  | '\x7b' :: rest =>
    let r ← members manifestMember true ⟨none, none⟩ rest (rest.length + 1)
    let nextId ← present "next_id" r.1.nextId r.2
    let entries ← present "entries" r.1.entries r.2
    return ({ nextId := nextId.toUInt64, entries }, r.2)
  | '[' :: rest =>
    let expected := "struct Manifest with 2 elements"
    let nextId ← element 0 expected (whole "u64") rest
    let listed ← element 1 expected entryList nextId.2
    return ({ nextId := nextId.1.toUInt64, entries := listed.1 }, ← endList listed.2)
  | rest => throw (mismatch "struct Manifest" rest)

/-- Reads the text of a manifest. -/
def read (text : List Char) : Except Complaint Manifest := do
  let r ← readFrom text
  match skipBlanks r.2 with
  | [] => return r.1
  | rest => throw (.at' .trailingText rest)

end Famicom.Shelf.Manifest

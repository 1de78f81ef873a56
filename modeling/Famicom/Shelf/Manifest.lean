import Famicom.Text.Numeral

/-!
# The manifest of a shelf

The manifest lists what a shelf holds, in order of arrival, and the id that the next arrival gets.
Its text is an object with one member to a line, indented by two blanks for every level. Names stand
between double quotes: a quote, a backslash and the control characters are written as escapes, and
all else stands for itself.
-/

namespace Famicom.Text.Quoted

/-! ## Quoted text -/

/-- The digit for a value below sixteen, in lower case. -/
def digit (d : Nat) : Char := if d < 10 then Char.ofNat (48 + d) else Char.ofNat (87 + d)

/-- How a character is written between quotes. -/
def encodeChar (c : Char) : List Char :=
  if c = '"' then ['\\', '"']
  else if c = '\\' then ['\\', '\\']
  else if c = '\n' then ['\\', 'n']
  else if c = '\r' then ['\\', 'r']
  else if c = '\t' then ['\\', 't']
  else if c = '\x08' then ['\\', 'b']
  else if c = '\x0c' then ['\\', 'f']
  else if c.toNat < 32 then
    ['\\', 'u', '0', '0', digit (c.toNat / 16), digit (c.toNat % 16)]
  else [c]

/-- The text in quotes. -/
def encode (text : List Char) : List Char := '"' :: (text.flatMap encodeChar ++ ['"'])

end Famicom.Text.Quoted

namespace Famicom.Shelf

/-! ## Entries and manifests -/

open Text

/-- One image on a shelf, and its size in bytes. -/
structure Entry where
  id : UInt64
  name : String
  size : Nat
  deriving DecidableEq, Repr

/-- What is on a shelf, and the id of the next arrival. -/
structure Manifest where
  nextId : UInt64
  entries : List Entry
  deriving DecidableEq, Repr

namespace Entry

/-- The lines of an entry, three levels deep. -/
def lines (e : Entry) : List (List Char) :=
  ["    \x7b".toList,
    "      \"id\": ".toList ++ Nat.toDigits 10 e.id.toNat ++ [','],
    "      \"name\": ".toList ++ Quoted.encode e.name.toList ++ [','],
    "      \"size\": ".toList ++ Nat.toDigits 10 e.size,
    "    \x7d".toList]

/-- The text of an entry, without a line end. -/
def text (e : Entry) : List Char := ['\n'].intercalate e.lines

end Entry

namespace Manifest

/-- The manifest of a shelf that never held anything. -/
def blank : Manifest := { nextId := 0, entries := [] }

instance : Inhabited Manifest := ⟨blank⟩

/-- The text of the list of entries. -/
def entriesText : List Entry → List Char
  | [] => ['[', ']']
  | entries => "[\n".toList ++ ",\n".toList.intercalate (entries.map Entry.text) ++ "\n  ]".toList

/-- The text of a manifest. -/
def text (m : Manifest) : List Char :=
  "\x7b\n  \"next_id\": ".toList ++ Nat.toDigits 10 m.nextId.toNat ++
    ",\n  \"entries\": ".toList ++ entriesText m.entries ++ "\n\x7d".toList

/-- The manifest as the content of a file. -/
def content (m : Manifest) : ByteArray := (String.ofList m.text).toUTF8

/-- The first entry with an id. -/
def find? (m : Manifest) (id : UInt64) : Option Entry := m.entries.find? fun e => e.id == id

/-- The manifest with an entry for one more image. -/
def add (m : Manifest) (name : String) (size : Nat) : Manifest :=
  { nextId := m.nextId + 1, entries := m.entries ++ [{ id := m.nextId, name, size }] }

/-- The manifest without the first entry that has an id. -/
def erase (m : Manifest) (id : UInt64) : Manifest :=
  { m with entries := m.entries.eraseP fun e => e.id == id }

end Manifest

end Famicom.Shelf

import Famicom.Text.Unseen

/-!
# What can be wrong with the text of a manifest

A complaint names a cause and the place where reading stopped. Places are counted in bytes from the
end of the text while reading, and shown as line and column.

* `place` turns a byte offset into line and column.
-/

namespace Famicom.Shelf.Manifest

open Text

/-- The kind of a value that was found in place of another. -/
inductive Found where
  | nothing
  | truth (value : Bool)
  | integer (value : Int)
  | fraction (text : String)
  | quoted (text : List Char)
  | list
  | object
  deriving DecidableEq, Repr

/-- Why reading stopped. A value may be of another kind than the one expected, a number below the
range, and a list with too few values for a record. -/
inductive Cause where
  | endInList
  | endInObject
  | endInQuotes
  | endInValue
  | colonExpected
  | listEndExpected
  | objectEndExpected
  | wordExpected
  | valueExpected
  | badEscape
  | badNumber
  | hugeNumber
  | controlCharacter
  | unquotedKey
  | loneSurrogate
  | brokenSurrogate
  | trailingComma
  | trailingText
  | wrongKind (found : Found) (expected : String)
  | outOfRange (value : Int) (expected : String)
  | wrongLength (length : Nat) (expected : String)
  | repeatedField (name : String)
  | missingField (name : String)
  deriving DecidableEq, Repr

namespace Found

/-- A character as it is shown between quotes. -/
def shown (c : Char) : List Char :=
  if c = '"' || c = '\\' then ['\\', c]
  else if c = '\n' then ['\\', 'n']
  else if c = '\r' then ['\\', 'r']
  else if c = '\t' then ['\\', 't']
  else if c = '\x00' then ['\\', '0']
  else if Unseen.isUnseen c then
    ['\\', 'u', '\x7b'] ++ Nat.toDigits 16 c.toNat ++ ['\x7d']
  else [c]

def message : Found → String
  | .nothing => "null"
  | .truth b => "boolean `" ++ (if b then "true" else "false") ++ "`"
  | .integer n => "integer `" ++ toString n ++ "`"
  | .fraction text => "floating point `" ++ text ++ "`"
  | .quoted text => "string \"" ++ String.ofList (text.flatMap shown) ++ "\""
  | .list => "sequence"
  | .object => "map"

end Found

def Cause.message : Cause → String
  | .endInList => "EOF while parsing a list"
  | .endInObject => "EOF while parsing an object"
  | .endInQuotes => "EOF while parsing a string"
  | .endInValue => "EOF while parsing a value"
  | .colonExpected => "expected `:`"
  | .listEndExpected => "expected `,` or `]`"
  | .objectEndExpected => "expected `,` or `\x7d`"
  | .wordExpected => "expected ident"
  | .valueExpected => "expected value"
  | .badEscape => "invalid escape"
  | .badNumber => "invalid number"
  | .hugeNumber => "number out of range"
  | .controlCharacter => "control character (\\u0000-\\u001F) found while parsing a string"
  | .unquotedKey => "key must be a string"
  | .loneSurrogate => "lone leading surrogate in hex escape"
  | .brokenSurrogate => "unexpected end of hex escape"
  | .trailingComma => "trailing comma"
  | .trailingText => "trailing characters"
  | .wrongKind found expected => "invalid type: " ++ found.message ++ ", expected " ++ expected
  | .outOfRange value expected =>
    "invalid value: " ++ (Found.integer value).message ++ ", expected " ++ expected
  | .wrongLength length expected =>
    "invalid length " ++ toString length ++ ", expected " ++ expected
  | .repeatedField name => "duplicate field `" ++ name ++ "`"
  | .missingField name => "missing field `" ++ name ++ "`"

/-- A cause, and how many bytes of the text were left where reading stopped. -/
structure Complaint where
  cause : Cause
  left : Nat
  deriving DecidableEq, Repr

/-- Bytes in a text. -/
def width : List Char → Nat
  | [] => 0
  | c :: rest => c.utf8Size + width rest

namespace Complaint

/-- A complaint in front of the rest of the text. -/
def before (cause : Cause) (rest : List Char) : Complaint := { cause, left := width rest }

/-- A complaint that has looked at the next byte of the rest. -/
def at' (cause : Cause) (rest : List Char) : Complaint := { cause, left := width rest - 1 }

/-- Line and column after so many bytes of a text, from the given line and column on. -/
def place (line column : Nat) : (text : List Char) → (bytes : Nat) → Nat × Nat
  | [], _ => (line, column)
  | c :: rest, bytes =>
    if bytes = 0 then (line, column)
    else if c = '\n' then place (line + 1) 0 rest (bytes - 1)
    else place line (column + min bytes c.utf8Size) rest (bytes - c.utf8Size)

/-- The complaint about a text, with its place. -/
def message (c : Complaint) (text : List Char) : String :=
  let p := place 1 0 text (width text - c.left)
  c.cause.message ++ " at line " ++ toString p.1 ++ " column " ++ toString p.2

end Complaint

end Famicom.Shelf.Manifest

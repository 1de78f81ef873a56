import Famicom.Shelf.Manifest.Complaint
import Famicom.Text.Binary64

/-!
# Words, quoted text and numbers

The smallest parts of the text of a manifest. Each reader takes the text that is left and returns
what it read and the text that is left then.

* `quoted` and `skipQuoted` read up to the closing quote, with and without decoding.
* `number` reads a number; only whole numbers below `2 ^ 64` are kept exactly.
-/

namespace Famicom.Shelf.Manifest

open Text

def isBlank (c : Char) : Bool := c == ' ' || c == '\n' || c == '\t' || c == '\r'

/-- The text without the blanks in front. -/
def skipBlanks (text : List Char) : List Char := text.dropWhile isBlank

/-- Takes the rest of a word. -/
def word : (letters : List Char) → (text : List Char) → Except Complaint (List Char)
  | [], text => .ok text
  | _ :: _, [] => .error (.before .endInValue [])
  | l :: letters, c :: text =>
    if c = l then word letters text else .error (.at' .wordExpected (c :: text))

/-! ## Quoted text -/

def hexValue? (c : Char) : Option Nat :=
  if '0' ≤ c && c ≤ '9' then some (c.toNat - 48)
  else if 'a' ≤ c && c ≤ 'f' then some (c.toNat - 87)
  else if 'A' ≤ c && c ≤ 'F' then some (c.toNat - 55)
  else none

/-- The value of four hexadecimal digits. -/
def hexValue4? (a b c d : Char) : Option Nat := do
  let w ← hexValue? a
  let x ← hexValue? b
  let y ← hexValue? c
  let z ← hexValue? d
  return ((w * 16 + x) * 16 + y) * 16 + z

/-- Why there are no four hexadecimal digits: the text ends too early, or they are others. -/
def noDigits (text : List Char) : Complaint :=
  if width text < 4 then .before .endInQuotes [] else ⟨.badEscape, width text - 4⟩

def isHigh (n : Nat) : Bool := 0xD800 ≤ n && n ≤ 0xDBFF

def isLow (n : Nat) : Bool := 0xDC00 ≤ n && n ≤ 0xDFFF

/-- The character that an escape of one letter stands for. -/
def escaped? : Char → Option Char
  | '"' => some '"'
  | '\\' => some '\\'
  | '/' => some '/'
  | 'b' => some '\x08'
  | 'f' => some '\x0c'
  | 'n' => some '\n'
  | 'r' => some '\r'
  | 't' => some '\t'
  | _ => none

/-- Why the second half of a pair is missing after the first. -/
def noPair : List Char → Complaint
  | [] => .before .endInQuotes []
  | '\\' :: [] => .before .endInQuotes []
  | '\\' :: 'u' :: rest => noDigits rest
  | '\\' :: rest => .at' .brokenSurrogate rest
  | rest => .at' .brokenSurrogate rest

/-- Reads quoted text after its opening quote; `done` is what was read already, last character
first. -/
def quotedFrom (done : List Char) : List Char → Except Complaint (List Char × List Char)
  | [] => .error (.before .endInQuotes [])
  | '"' :: rest => .ok (done.reverse, rest)
  | '\\' :: 'u' :: a :: b :: c :: d :: '\\' :: 'u' :: e :: f :: g :: h :: rest =>
    match hexValue4? a b c d with
    | none => .error (noDigits (a :: b :: c :: d :: '\\' :: 'u' :: e :: f :: g :: h :: rest))
    | some n =>
      if isLow n then
        .error (.before .loneSurrogate ('\\' :: 'u' :: e :: f :: g :: h :: rest))
      else if isHigh n then
        match hexValue4? e f g h with
        | none => .error (noDigits (e :: f :: g :: h :: rest))
        | some m =>
          if isLow m then
            quotedFrom (Char.ofNat ((n - 0xD800) * 0x400 + (m - 0xDC00) + 0x10000) :: done) rest
          else .error (.before .loneSurrogate rest)
      else quotedFrom (Char.ofNat n :: done) ('\\' :: 'u' :: e :: f :: g :: h :: rest)
  | '\\' :: 'u' :: a :: b :: c :: d :: rest =>
    match hexValue4? a b c d with
    | none => .error (noDigits (a :: b :: c :: d :: rest))
    | some n =>
      if isLow n then .error (.before .loneSurrogate rest)
      else if isHigh n then .error (noPair rest)
      else quotedFrom (Char.ofNat n :: done) rest
  | '\\' :: 'u' :: rest => .error (noDigits rest)
  | '\\' :: [] => .error (.before .endInQuotes [])
  | '\\' :: c :: rest =>
    match escaped? c with
    | some v => quotedFrom (v :: done) rest
    | none => .error (.at' .badEscape (c :: rest))
  | c :: rest =>
    if c.toNat < 32 then .error (.before .controlCharacter rest) else quotedFrom (c :: done) rest

/-- Reads quoted text after its opening quote. -/
def quoted (text : List Char) : Except Complaint (List Char × List Char) := quotedFrom [] text

/-- Skips quoted text after its opening quote. -/
def skipQuoted : List Char → Except Complaint (List Char)
  | [] => .error (.before .endInQuotes [])
  | '"' :: rest => .ok rest
  | '\\' :: 'u' :: a :: b :: c :: d :: rest =>
    match hexValue4? a b c d with
    | none => .error (noDigits (a :: b :: c :: d :: rest))
    | some _ => skipQuoted rest
  | '\\' :: 'u' :: rest => .error (noDigits rest)
  | '\\' :: [] => .error (.before .endInQuotes [])
  | '\\' :: c :: rest =>
    match escaped? c with
    | some _ => skipQuoted rest
    | none => .error (.at' .badEscape (c :: rest))
  | c :: rest =>
    if c.toNat < 32 then .error (.before .controlCharacter (c :: rest)) else skipQuoted rest

/-! ## Numbers -/

/-- The largest whole number that is kept exactly. -/
def maxWhole : Nat := UInt64.size - 1

/-- The absolute value of the least whole number that is kept exactly. -/
def maxNegative : Nat := 0x8000000000000000

/-- A whole number from zero on or below zero, or the text of a number that is not whole. -/
inductive Number where
  | whole (n : Nat)
  | negative (n : Nat)
  | fraction (text : String)
  deriving DecidableEq, Repr

def Number.found : Number → Found
  | .whole n => .integer n
  | .negative n => .integer (-(n : Int))
  | .fraction text => .fraction text

/-- `significand * 10 ^ exponent`, unless that is too large. -/
def power (f : Float) (exponent : Int) : (fuel : Nat) → Option Float
  | 0 => some f
  | fuel + 1 =>
    let ten (n : Nat) : Float := OfScientific.ofScientific 1 false n
    if exponent.natAbs ≤ 308 then
      if 0 ≤ exponent then
        let r := f * ten exponent.toNat
        if r.isInf then none else some r
      else some (f / ten exponent.natAbs)
    else if f == 0.0 then some f
    else if 0 ≤ exponent then none
    else power (f / ten 308) (exponent + 308) fuel

/-- A number that is not kept exactly. -/
def inexact (positive : Bool) (significand : Nat) (exponent : Int) (rest : List Char) :
    Except Complaint (Number × List Char) :=
  match power significand.toUInt64.toFloat exponent 4 with
  | none => .error (.before .hugeNumber rest)
  | some f => .ok (.fraction (Binary64.text (if positive then f else -f)), rest)

/-- The digits in front and the rest. -/
def digits (text : List Char) : List Char × List Char := text.span Char.isDigit

def valueOf (ds : List Char) : Nat := ds.foldl (fun n d => n * 10 + (d.toNat - 48)) 0

/-- Adds digits to a number as long as it stays within the range kept exactly, and returns how many
were added. -/
def accumulate (n : Nat) : List Char → Nat × Nat
  | [] => (n, 0)
  | d :: ds =>
    let m := n * 10 + (d.toNat - 48)
    if m ≤ maxWhole then
      let r := accumulate m ds
      (r.1, r.2 + 1)
    else (n, 0)

/-- The largest exponent that is told from a larger one. -/
def maxExponent : Nat := 0x7FFFFFFF

/-- Reads an exponent after its letter. -/
def exponentPart (positive : Bool) (significand : Nat) (start : Int) (text : List Char) :
    Except Complaint (Number × List Char) :=
  let upward := text.head? != some '-'
  let unsigned := if text.head? = some '+' || text.head? = some '-' then text.drop 1 else text
  let r := digits unsigned
  match r.1 with
  | [] => .error (if unsigned = [] then .before .endInValue [] else .at' .badNumber unsigned)
  | ds =>
    let e := valueOf ds
    if e ≤ maxExponent then
      inexact positive significand (if upward then start + e else start - e) r.2
    else if significand ≠ 0 && upward then
      let shown := (List.range ds.length).find? fun i => maxExponent < valueOf (ds.take (i + 1))
      .error (.before .hugeNumber (unsigned.drop (shown.getD 0 + 1)))
    else inexact positive 0 0 r.2

/-- Reads the places after a point. -/
def fractionPart (positive : Bool) (significand : Nat) (start : Int) (text : List Char) :
    Except Complaint (Number × List Char) :=
  let r := digits text
  if r.1 = [] then
    .error (if text = [] then .before .endInValue [] else .at' .badNumber text)
  else
    let a := accumulate significand r.1
    match r.2 with
    | c :: rest =>
      if c = 'e' || c = 'E' then exponentPart positive a.1 (start - a.2) rest
      else inexact positive a.1 (start - a.2) r.2
    | [] => inexact positive a.1 (start - a.2) []

/-- Goes on after the digits of a whole number, of which the last `dropped` are not in
`significand`. -/
def afterDigits (positive : Bool) (significand dropped : Nat) (text : List Char) :
    Except Complaint (Number × List Char) :=
  let plain : Except Complaint (Number × List Char) :=
    if dropped ≠ 0 then inexact positive significand dropped text
    else if positive then .ok (.whole significand, text)
    else if significand ≠ 0 && significand ≤ maxNegative then .ok (.negative significand, text)
    else inexact false significand 0 text
  match text with
  | c :: rest =>
    if c = '.' then fractionPart positive significand dropped rest
    else if c = 'e' || c = 'E' then exponentPart positive significand dropped rest
    else plain
  | [] => plain

/-- Reads a number after its sign. -/
def number (positive : Bool) (text : List Char) : Except Complaint (Number × List Char) :=
  let r := digits text
  match r.1 with
  | [] => .error (if text = [] then .before .endInValue [] else .at' .badNumber text)
  | '0' :: _ :: _ => .error (.at' .badNumber (text.drop 1))
  | ds =>
    let a := accumulate 0 ds
    afterDigits positive a.1 (ds.length - a.2) r.2

/-- Skips the exponent of a number after its letter. -/
def skipExponent (text : List Char) : Except Complaint (List Char) :=
  let unsigned := if text.head? = some '+' || text.head? = some '-' then text.drop 1 else text
  let r := digits unsigned
  if r.1 = [] then .error (.at' .badNumber unsigned) else .ok r.2

/-- Skips a number after its sign. -/
def skipNumber (text : List Char) : Except Complaint (List Char) :=
  let r := digits text
  let tail (text : List Char) : Except Complaint (List Char) :=
    match text with
    | c :: rest => if c = 'e' || c = 'E' then skipExponent rest else .ok text
    | [] => .ok []
  match r.1, r.2 with
  | [], _ => .error (.at' .badNumber text)
  | '0' :: _ :: _, _ => .error (.at' .badNumber (text.drop 1))
  | _, '.' :: rest =>
    let q := digits rest
    if q.1 = [] then .error (.at' .badNumber rest) else tail q.2
  | _, rest => tail rest

end Famicom.Shelf.Manifest

import Famicom.CommandLine

/-!
# Options of the player

One of them is the scale of the screen, a number of single precision that is at least one. Such
numbers are multiples of `2 ^ -23`, so they are kept as whole numbers of that unit; every operation
is exact and then rounded to twenty-four binary digits, ties to the even neighbour.

* `Scale.read` reads a scale from its text.
* `Scale.windowSize` is the size of a window for a screen of that scale.
* `Options.ofSettings` turns the settings of a command line into options; the grammar has refused
  the values that cannot be read.
-/

namespace Famicom.Player

/-! ## The scale of the screen -/

/-- The quotient rounded to the nearest whole number, a tie to the even one. -/
def roundDiv (n d : Nat) : Nat :=
  let q := n / d
  let r := 2 * (n % d)
  if d < r || (r = d && q % 2 = 1) then q + 1 else q

/-- A number of single precision that is at least one, in units of `2 ^ -23`. -/
inductive Scale where
  | units (n : Nat)
  | infinite
  deriving DecidableEq, Repr

namespace Scale

/-- Units in one. -/
def unitsOfOne : Nat := 0x800000

def one : Scale := .units unitsOfOne

/-- The least number of units that is too large. -/
def overflow : Nat := Nat.pow 2 128 * unitsOfOne

/-- The scale nearest to `n / d` units. -/
def round (n d : Nat) : Scale :=
  let quantum := Nat.pow 2 (Nat.log2 (n / d) - 23)
  let rounded := roundDiv n (d * quantum) * quantum
  if overflow ≤ rounded then .infinite else .units rounded

def times (s : Scale) (k : Nat) : Scale :=
  match s with
  | .units n => round (n * k) 1
  | .infinite => .infinite

def plus (s : Scale) (k : Nat) : Scale :=
  match s with
  | .units n => round (n + k * unitsOfOne) 1
  | .infinite => .infinite

/-- The number with two decimals. -/
def text : Scale → String
  | .infinite => "inf"
  | .units n =>
    let hundredths := roundDiv (n * 100) unitsOfOne
    let decimals := hundredths % 100
    toString (hundredths / 100) ++ "." ++ (if decimals < 10 then "0" else "") ++ toString decimals

/-! ## Reading -/

inductive Defect where
  | empty
  | bad
  deriving DecidableEq, Repr

def Defect.message : Defect → String
  | .empty => "cannot parse float from empty string"
  | .bad => "invalid float literal"

/-- The scale for `digits * 10 ^ exponent`. -/
def ofDecimal (digits : List Char) (exponent : Int) : Scale :=
  let n := digits.foldl (fun n d => n * 10 + (d.toNat - 48)) 0
  let places := (digits.dropWhile (· == '0')).length + exponent
  if n = 0 || places ≤ 0 then one
  else if 40 < places then .infinite
  else
    let d := Nat.pow 10 (-exponent).toNat
    let m := n * Nat.pow 10 exponent.toNat
    if m < d then one else round (m * unitsOfOne) d

/-- Reads the exponent of a decimal. -/
def readExponent (text : List Char) : Option Int :=
  let unsigned := if text.head? = some '+' || text.head? = some '-' then text.drop 1 else text
  if unsigned = [] || !unsigned.all Char.isDigit then none
  else
    let e : Int := unsigned.foldl (fun n d => if n < 0x10000 then n * 10 + (d.toNat - 48) else n) 0
    some (if text.head? = some '-' then -e else e)

/-- Reads a decimal without a sign. -/
def readDecimal (text : List Char) : Option Scale := do
  let whole := text.span Char.isDigit
  let places := match whole.2 with
    | '.' :: rest => rest.span Char.isDigit
    | rest => ([], rest)
  let digits := whole.1 ++ places.1
  if digits = [] then none
  match places.2 with
  | [] => return ofDecimal digits (-places.1.length)
  | c :: rest =>
    if c = 'e' || c = 'E' then
      let e ← readExponent rest
      return ofDecimal digits (e - places.1.length)
    else none

/-- Reads a number. One that is below one, or is no number, counts as one. -/
def read (text : List Char) : Except Defect Scale :=
  match text with
  | [] => .error .empty
  | c :: rest =>
    let unsigned := if c = '+' || c = '-' then rest else text
    let word := unsigned.map Char.toLower
    let value? : Option Scale :=
      if word = "inf".toList || word = "infinity".toList then some .infinite
      else if word = "nan".toList then some one
      else readDecimal unsigned
    match value? with
    | none => .error .bad
    | some s => .ok (if c = '-' then one else s)

/-! ## Windows -/

/-- Width and height of a window with a screen of this scale, the shelf beside it and the bars above
and below. -/
def windowSize (s : Scale) : Scale × Scale :=
  (((s.times 256).plus 220).plus 32, (s.times 240).plus 96)

end Scale

/-! ## Options -/

open CommandLine

/-- The path of an image to put on the shelf and start, the path of the folder with the shelf, and
the scale of the screen. -/
structure Options where
  image : Option String
  shelf : String
  scale : Scale
  deriving DecidableEq, Repr

namespace Options

inductive Key where
  | image
  | shelf
  | scale
  deriving DecidableEq, Repr

def refuse (key : Key) (value : String) : Option Objection :=
  match key with
  | .image | .shelf => if value = "" then some .missing else none
  | .scale =>
    match Scale.read value.toList with
    | .ok _ => none
    | .error d => some (.reason d.message)

def grammar : Grammar Key where
  switches :=
    [⟨.shelf, "library", some 'l', some "LIBRARY"⟩, ⟨.scale, "scale", some 's', some "SCALE"⟩]
  operands := [(.image, "[ROM]")]
  required := []
  refuse := refuse

/-- Folder of the shelf where the command line does not say. -/
def defaultShelf : String := "nes-library"

/-- Scale where the command line does not say. -/
def defaultScale : Scale := .units (3 * Scale.unitsOfOne)

def ofSettings (s : Settings Key) : Options where
  image := s.get? .image
  shelf := (s.get? .shelf).getD defaultShelf
  scale := ((s.get? .scale).bind fun v => (Scale.read v.toList).toOption).getD defaultScale

/-- The help text. -/
def help : String :=
  "Play iNES cartridges and keep them in a library\n\n" ++
  "Usage: nes-player [OPTIONS] [ROM]\n\n" ++
  "Arguments:\n" ++
  "  [ROM]  Image to add to the library and start\n\n" ++
  "Options:\n" ++
  "  -l, --library <LIBRARY>  Directory holding the ROM library [default: nes-library]\n" ++
  "  -s, --scale <SCALE>      Screen scale factor [default: 3.0]\n" ++
  "  -h, --help               Print help\n"

end Options

end Famicom.Player

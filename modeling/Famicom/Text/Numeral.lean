/-!
# Numbers as text

Addresses are written with four hexadecimal digits and bytes with two, in upper case. A duration in
nanoseconds is written in the largest unit that does not exceed it, with as many decimals as it
needs. What is read are whole numbers in a base, with a limit: digits beyond nine are letters of
either case, and a plus sign may stand in front.

* `Hexadecimal.length_padded`: a numeral has exactly the width asked for.
* `Numeral.read` reads a numeral, or says what is wrong with it: the first fault from the left
  counts.
-/

namespace Famicom.Text.Hexadecimal

/-! ## Hexadecimal numerals of a fixed width -/

/-- The digit for a value below sixteen. -/
def digit (d : Nat) : Char :=
  if d < 10 then Char.ofNat (48 + d) else Char.ofNat (55 + d)

/-- The last `width` hexadecimal digits of `n`, most significant first. -/
def padded : (width : Nat) → (n : Nat) → List Char
  | 0, _ => []
  | width + 1, n => padded width (n / 16) ++ [digit (n % 16)]

theorem length_padded (width n : Nat) : (padded width n).length = width := by
  induction width generalizing n with
  | zero => rfl
  | succ width ih => simp [padded, ih]

/-- A byte, two digits. -/
def byte (b : UInt8) : String := String.ofList (padded 2 b.toNat)

/-- An address, four digits. -/
def word (a : UInt16) : String := String.ofList (padded 4 a.toNat)

end Famicom.Text.Hexadecimal

namespace Famicom.Text.Duration

/-! ## Durations -/

/-- The decimals of `n / scale` with `places` places, without trailing zeros. -/
def decimals (places n : Nat) : List Char :=
  let digits := Nat.toDigits 10 n
  let padded := List.replicate (places - digits.length) '0' ++ digits
  (padded.reverse.dropWhile (· == '0')).reverse

/-- `n` units of `10 ^ places` nanoseconds each. -/
def inUnit (places : Nat) (unit : String) (n : Nat) : String :=
  let size := Nat.pow 10 places
  let whole := toString (n / size)
  if n % size = 0 then whole ++ unit
  else whole ++ "." ++ String.ofList (decimals places (n % size)) ++ unit

/-- The duration of `n` nanoseconds. -/
def ofNanoseconds (n : Nat) : String :=
  if 1000000000 ≤ n then inUnit 9 "s" n
  else if 1000000 ≤ n then inUnit 6 "ms" n
  else if 1000 ≤ n then inUnit 3 "µs" n
  else inUnit 0 "ns" n

end Famicom.Text.Duration

namespace Famicom.Text.Numeral

/-! ## Reading -/

inductive Defect where
  | empty
  | badDigit
  | tooLarge
  deriving DecidableEq, Repr

def Defect.message : Defect → String
  | .empty => "cannot parse integer from empty string"
  | .badDigit => "invalid digit found in string"
  | .tooLarge => "number too large to fit in target type"

/-- The value of a digit of the base. -/
def digit? (base : Nat) (c : Char) : Option Nat :=
  let value? : Option Nat :=
    if '0' ≤ c && c ≤ '9' then some (c.toNat - 48)
    else if 'a' ≤ c && c ≤ 'z' then some (c.toNat - 87)
    else if 'A' ≤ c && c ≤ 'Z' then some (c.toNat - 55)
    else none
  value?.filter (· < base)

/-- Goes on reading digits after those that make `n`. -/
def readDigits (base limit n : Nat) : List Char → Except Defect Nat
  | [] => .ok n
  | c :: cs =>
    match digit? base c with
    | none => .error .badDigit
    | some d =>
      if n * base + d ≤ limit then readDigits base limit (n * base + d) cs else .error .tooLarge

/-- Reads a numeral of at most `limit`. -/
def read (base limit : Nat) (text : List Char) : Except Defect Nat :=
  match text with
  | [] => .error .empty
  | ['+'] => .error .badDigit
  | '+' :: cs => readDigits base limit 0 cs
  | cs => readDigits base limit 0 cs

end Famicom.Text.Numeral

/-!
# Binary fractions as short decimals

A finite number of sixty-four bits is written with the fewest digits that are read back as the same
number, and of those with the nearest; between two as near, with the one whose last digit is even.
The point is written out up to sixteen places.

* `shortest` finds the digits on the coarsest decimal grid that has a point near enough.
-/

namespace Famicom.Text.Binary64

/-- A positive number as an integer times a power of two. -/
structure Parts where
  mantissa : Nat
  exponent : Int

/-- The bit of a mantissa that is not stored. -/
def leadingBit : Nat := 0x10000000000000

/-- The parts of the number with these bits, sign aside. -/
def Parts.ofBits (bits : UInt64) : Parts :=
  let fraction : Nat := bits.toNat % leadingBit
  let biased : Nat := bits.toNat / leadingBit % 2048
  if biased = 0 then ⟨fraction, -1074⟩ else ⟨fraction + leadingBit, biased - 1075⟩

/-- `n * base ^ e` as a quotient. -/
def scaled (base n : Nat) (e : Int) : Nat × Nat :=
  if 0 ≤ e then (n * Nat.pow base e.toNat, 1) else (n, Nat.pow base (-e).toNat)

def lessThan (a b : Nat × Nat) : Bool := a.1 * b.2 < b.1 * a.2

/-- Whether a number of the decimal grid is read back as the number with these parts: it lies
between the midpoints to the two neighbours, which count if the mantissa is even. -/
def readsBack (p : Parts) (digits : Nat) (e : Int) : Bool :=
  let gap := if p.mantissa = leadingBit && p.exponent > -1074 then 1 else 2
  let low := scaled 2 (4 * p.mantissa - gap) (p.exponent - 2)
  let high := scaled 2 (4 * p.mantissa + 2) (p.exponent - 2)
  let value := scaled 10 digits e
  if p.mantissa % 2 = 0 then !lessThan value low && !lessThan high value
  else lessThan low value && lessThan value high

/-- The number in units of a decimal grid, rounded down, and whether the next unit up is nearer, or
as near and even. -/
def onGrid (p : Parts) (e : Int) : Nat × Bool :=
  let value := scaled 2 p.mantissa p.exponent
  let unit := scaled 10 1 e
  let n := value.1 * unit.2
  let d := value.2 * unit.1
  (n / d, d < 2 * (n % d) || (d = 2 * (n % d) && n / d % 2 = 1))

/-- The first grid, from `10 ^ e` on downwards, with a number that reads back. -/
def search (p : Parts) : (fuel : Nat) → (e : Int) → Nat × Int
  | 0, e => ((onGrid p e).1, e)
  | fuel + 1, e =>
    let g := onGrid p e
    let below := readsBack p g.1 e
    let above := readsBack p (g.1 + 1) e
    if above && (!below || g.2) then (g.1 + 1, e)
    else if below && g.1 ≠ 0 then (g.1, e)
    else search p fuel (e - 1)

/-- The fewest digits that read back, and the exponent of the last one. -/
def shortest (p : Parts) : Nat × Int := search p 660 310

/-- Digits with a point, or with an exponent where they would need more than sixteen places. -/
def layout (digits : List Char) (e : Int) : List Char :=
  let places := digits.length + e
  if 0 ≤ e && places ≤ 16 then digits ++ List.replicate e.toNat '0' ++ ['.', '0']
  else if 0 < places && places ≤ 16 then
    digits.take places.toNat ++ ['.'] ++ digits.drop places.toNat
  else if -5 < places && places ≤ 0 then
    ['0', '.'] ++ List.replicate (-places).toNat '0' ++ digits
  else
    let fraction := if digits.length = 1 then [] else '.' :: digits.drop 1
    let sign := if 0 < places then ['+'] else ['-']
    digits.take 1 ++ fraction ++ ['e'] ++ sign ++ Nat.toDigits 10 (places - 1).natAbs

/-- The text of a finite number. -/
def text (x : Float) : String :=
  let bits := x.toBits
  let sign := if bits.toNat / 0x8000000000000000 = 1 then "-" else ""
  let p := Parts.ofBits bits
  if p.mantissa = 0 then sign ++ "0.0"
  else
    let s := shortest p
    sign ++ String.ofList (layout (Nat.toDigits 10 s.1) s.2)

end Famicom.Text.Binary64

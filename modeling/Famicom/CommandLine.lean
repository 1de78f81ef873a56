import Famicom.Text.Numeral
import Famicom.Text.Terminal

/-!
# Command lines

A command line is a list of words. Switches have a long name and may have a short one, a letter;
some carry a value, which follows in the same word or is the next word. Letters may be run together,
and after a word of two dashes every word is an operand.

* `Text.Likeness.alike` says whether a word is like another, so that it can be suggested.
* `Fault.message` is text for a terminal, in which the words that a fault is about and the names of
  switches are set off.
* `Grammar.parse` sorts the words into switches and operands, or names the first fault.
* `Address.parse` reads an address: a hexadecimal numeral. Any number of dollar signs may stand in
  front, and after them any number of `0x`.

A value that is the next word is looked at when the switch after it begins, so that an unknown
switch there is reported first; a value in the same word is looked at once.
-/

namespace Famicom.Text.Likeness

/-! ## Likeness of words -/

/-- Takes the first free character of a kind whose place is in a range; `here` is the place of the
first character of the word. -/
def take (c : Char) (first last here : Nat) : List (Char × Bool) → Option (List (Char × Bool))
  | [] => none
  | (d, taken) :: rest =>
    if first ≤ here && here ≤ last && c == d && !taken then some ((d, true) :: rest)
    else (take c first last (here + 1) rest).map ((d, taken) :: ·)

/-- The characters of the first word that are paired, in order, and the other word with the
characters that were taken; `here` is the place of the first character of the first word. -/
def pair (reach here : Nat) : List Char → List (Char × Bool) → List Char × List (Char × Bool)
  | [], other => ([], other)
  | c :: rest, other =>
    match take c (here - reach) (here + reach) 0 other with
    | none => pair reach (here + 1) rest other
    | some taken =>
      let r := pair reach (here + 1) rest taken
      (c :: r.1, r.2)

/-- Whether the likeness of two words is above seven tenths. The likeness is the mean of the part of
either word that is paired and of the part of the pairs that are in order. It is reckoned in double
precision, so what would be seven tenths may come out a little more. -/
def alike (a b : List Char) : Bool :=
  let r := pair (max a.length b.length / 2 - 1) 0 a (b.map fun c => (c, false))
  let partners := (r.2.filter (·.2)).map (·.1)
  let pairs := r.1.length
  let swaps := ((r.1.zip partners).filter fun p => p.1 != p.2).length / 2
  let part (n m : Nat) : Float := Float.ofNat n / Float.ofNat m
  pairs != 0 &&
    0.7 < (part pairs a.length + part pairs b.length + part (pairs - swaps) pairs) / 3

end Famicom.Text.Likeness

namespace Famicom.CommandLine

/-! ## Faults -/

open Text.Terminal

/-- What to do about a word that is not expected: use a switch like it, or pass it as an operand. -/
inductive Tip where
  | similar (name : String)
  | asOperand
  deriving DecidableEq, Repr

/-- Why a command line is not understood. Switches and operands are named as in the message. -/
inductive Fault where
  | unexpected (word : String) (tip : Option Tip)
  | valueMissing (name : String)
  | valueInvalid (value name reason : String)
  | valueUnwanted (value name : String)
  | repeated (name : String)
  | required (names : List String)
  deriving DecidableEq, Repr

namespace Fault

/-- A word in quotes, in a style. -/
def quoted (s : Style) (word : String) : String := "'" ++ s.apply word ++ "'"

/-- A tip about a word, on a line of its own. -/
def tipLine (word : String) (tip : Tip) : String :=
  "\n\n  " ++ Style.valid.apply "tip:" ++
    match tip with
    | .similar name => " a similar argument exists: " ++ quoted .valid name
    | .asOperand =>
      " to pass " ++ quoted .doubtful word ++ " as a value, use " ++
        quoted .valid ("-- " ++ word)

/-- What is wrong. -/
def text : Fault → String
  | .unexpected word tip =>
    "unexpected argument " ++ quoted .doubtful word ++ " found" ++
      (tip.map (tipLine word)).getD ""
  | .valueMissing name =>
    "a value is required for " ++ quoted .doubtful name ++ " but none was supplied"
  | .valueInvalid value name reason =>
    "invalid value " ++ quoted .doubtful value ++ " for " ++ quoted .literal name ++ ": " ++ reason
  | .valueUnwanted value name =>
    "unexpected value " ++ quoted .doubtful value ++ " for " ++ quoted .literal name ++
      " found; no more were expected"
  | .repeated name =>
    "the argument " ++ quoted .doubtful name ++ " cannot be used multiple times"
  | .required names =>
    "the following required arguments were not provided:" ++
      String.join (names.map fun n => "\n  " ++ Style.valid.apply n)

/-- The message about a fault, as text for a terminal. -/
def message (f : Fault) : String :=
  Style.alarm.apply "error:" ++ " " ++ f.text ++ "\n\nFor more information, try " ++
    quoted .literal "--help" ++ "."

end Fault

/-! ## How a program ends -/

/-- The complaint goes to the error output; it comes without a line end. -/
structure Outcome where
  code : UInt32
  output : String
  complaint : Option String
  deriving DecidableEq, Repr

namespace Outcome

/-- The program has shown its help text. -/
def ofHelp (text : String) : Outcome := { code := 0, output := text, complaint := none }

/-- The command line is not understood. The complaint does not go to a terminal. -/
def ofFault (f : Fault) : Outcome :=
  { code := 2, output := "", complaint := some (Text.Terminal.plain f.message) }

/-- Something failed after so much output. -/
def failed (output complaint : String) : Outcome := { code := 1, output, complaint }

end Outcome

/-! ## Grammars -/

open Text

/-- One switch of a grammar. It carries a value if it has a placeholder, which stands for the value
in messages. -/
structure Switch (K : Type) where
  key : K
  long : String
  short : Option Char
  placeholder : Option String

/-- What is wrong with a value: it is empty where something is needed, or there is another reason.
-/
inductive Objection where
  | missing
  | reason (text : String)
  deriving DecidableEq, Repr

/-- The switches of a program, the keys and placeholders of its operands in order, the keys that
must be there, and the objection to a value if there is one. -/
structure Grammar (K : Type) where
  switches : List (Switch K)
  operands : List (K × String)
  required : List K
  refuse : K → String → Option Objection

/-- What a command line says: keys with their values; a switch without a value has the empty one. -/
abbrev Settings (K : Type) := List (K × String)

/-- What a command line says, if it does not ask for help. -/
inductive Parsed (K : Type) where
  | help
  | settings (s : Settings K)

variable {K : Type} [BEq K]

/-- The switch as it is named in messages. -/
def Switch.name (s : Switch K) : String :=
  match s.placeholder with
  | some p => "--" ++ s.long ++ " <" ++ p ++ ">"
  | none => "--" ++ s.long

namespace Grammar

/-- Words that were read: the settings so far, and a switch or operand that is not settled yet, by
its key and name, with its value if that is known. -/
structure State (K : Type) where
  settings : Settings K
  pending : Option (K × String × Option String)

/-- Settles a value that is known. -/
def settleValue (g : Grammar K) (settings : Settings K) (key : K) (name value : String) :
    Except Fault (Settings K) :=
  if settings.any fun p => p.1 == key then .error (.repeated name)
  else
    match g.refuse key value with
    | none => .ok (settings ++ [(key, value)])
    | some .missing => .error (.valueMissing name)
    | some (.reason text) => .error (.valueInvalid value name text)

/-- Settles what is pending. -/
def settle (g : Grammar K) (s : State K) : Except Fault (Settings K) :=
  match s.pending with
  | none => .ok s.settings
  | some (_, name, none) => .error (.valueMissing name)
  | some (key, name, some value) => g.settleValue s.settings key name value

/-- A switch without a value. -/
def flag (g : Grammar K) (s : State K) (w : Switch K) : Except Fault (State K) := do
  let settings ← g.settle s
  if settings.any fun p => p.1 == w.key then throw (.repeated w.name)
  return { settings := settings ++ [(w.key, "")], pending := none }

/-- A switch with a value, in the same word or not. -/
def valued (g : Grammar K) (s : State K) (w : Switch K) (value : Option String) :
    Except Fault (State K) := do
  let settings ← g.settle s
  match value with
  | some v => return { settings := ← g.settleValue settings w.key w.name v, pending := none }
  | none => return { settings, pending := some (w.key, w.name, none) }

/-- An operand, or the value of a pending switch. -/
def operand (g : Grammar K) (s : State K) (word : String) : Except Fault (State K) := do
  let isOperand (key : K) : Bool := g.operands.any fun o => o.1 == key
  let taken := (s.settings.filter fun p => isOperand p.1).length +
    (match s.pending with
      | some (key, _) => if isOperand key then 1 else 0
      | none => 0)
  match g.operands.drop taken with
  | [] => throw (.unexpected word none)
  | (key, name) :: _ =>
    let settings ← g.settle s
    return { settings, pending := some (key, name, some word) }

/-- The tip about an unknown switch, if there is one. -/
def tip? (g : Grammar K) : Option Tip := if g.operands.isEmpty then none else some .asOperand

/-- The tip about an unknown switch with a long name: a switch like it, or else the same. -/
def tipFor? (g : Grammar K) (name : String) : Option Tip :=
  match (g.switches.map (·.long) ++ ["help"]).find? fun n =>
      Likeness.alike name.toList n.toList with
  | some n => some (.similar ("--" ++ n))
  | none => g.tip?

/-- The letters of a word after its dash; `none` if they ask for help. -/
def letters (g : Grammar K) (s : State K) : List Char → Except Fault (Option (State K))
  | [] => .ok (some s)
  | c :: rest =>
    match g.switches.find? fun w => w.short == some c with
    | some w =>
      match w.placeholder, rest with
      | none, rest => do letters g (← g.flag s w) rest
      | some _, [] => some <$> g.valued s w none
      | some _, '=' :: value => some <$> g.valued s w (some (String.ofList value))
      | some _, value => some <$> g.valued s w (some (String.ofList value))
    | none =>
      if c = 'h' then do
        let _ ← g.settle s
        return none
      else .error (.unexpected (String.ofList ['-', c]) g.tip?)

/-- A word after its two dashes; `none` if it asks for help. -/
def long (g : Grammar K) (s : State K) (word : List Char) : Except Fault (Option (State K)) := do
  let name := String.ofList (word.takeWhile (· != '='))
  let value? : Option String :=
    match word.dropWhile (· != '=') with
    | [] => none
    | _ :: v => some (String.ofList v)
  match g.switches.find? fun w => w.long == name, value? with
  | some w, value =>
    if w.placeholder.isSome then some <$> g.valued s w value
    else
      match value with
      | some v => throw (.valueUnwanted v w.name)
      | none => some <$> g.flag s w
  | none, value =>
    if name = "help" then
      match value with
      | some v => throw (.valueUnwanted v "--help")
      | none =>
        let _ ← g.settle s
        return none
    else throw (.unexpected ("--" ++ name) (g.tipFor? name))

/-- Reads the words from a state on. -/
def parseFrom (g : Grammar K) (onlyOperands : Bool) (s : State K) :
    List String → Except Fault (Option (Settings K))
  | [] => some <$> g.settle s
  | word :: rest =>
    match onlyOperands, word.toList with
    | false, ['-', '-'] => parseFrom g true s rest
    | false, '-' :: '-' :: name => do
      match ← g.long s name with
      | none => return none
      | some t => parseFrom g false t rest
    | false, '-' :: c :: cs => do
      match ← g.letters s (c :: cs) with
      | none => return none
      | some t => parseFrom g false t rest
    | only, _ =>
      match only, s.pending with
      | false, some (key, name, none) =>
        parseFrom g false { s with pending := some (key, name, some word) } rest
      | only, _ => do parseFrom g only (← g.operand s word) rest

/-- The name of a switch or operand. -/
def nameOf (g : Grammar K) (key : K) : String :=
  match g.switches.find? fun w => w.key == key with
  | some w => w.name
  | none => ((g.operands.find? fun o => o.1 == key).map (·.2)).getD ""

/-- Sorts the words of a command line. -/
def parse (g : Grammar K) (words : List String) : Except Fault (Parsed K) := do
  match ← g.parseFrom false { settings := [], pending := none } words with
  | none => return .help
  | some settings =>
    match g.required.filter fun key => !settings.any fun p => p.1 == key with
    | [] => return .settings settings
    | keys => throw (.required (keys.map g.nameOf))

end Grammar

/-- Whether a switch was given. -/
def Settings.has (s : Settings K) (key : K) : Bool := s.any fun p => p.1 == key

/-- The value of a switch or operand. -/
def Settings.get? (s : Settings K) (key : K) : Option String := s.lookup key

end Famicom.CommandLine

namespace Famicom.CommandLine.Address

/-! ## Addresses -/

open Text

/-- The text without the `0x` in front, however many there are. -/
def dropMarks : List Char → List Char
  | '0' :: 'x' :: rest => dropMarks rest
  | text => text

/-- The largest address. -/
def maxAddress : Nat := 0xFFFF

def parse (text : String) : Except Numeral.Defect UInt16 :=
  (Numeral.read 16 maxAddress (dropMarks (text.toList.dropWhile (· == '$')))).map Nat.toUInt16

/-- Why a text is no address. -/
def objection (text : String) (d : Numeral.Defect) : String :=
  "invalid address '" ++ text ++ "': " ++ d.message

end Famicom.CommandLine.Address

/-!
# Text for a terminal

Text for a terminal may hold control sequences, which set a style, name the window or move the
cursor. Each begins with an escape character. A device that is no terminal gets the text without
them, and without control characters other than tabs and the ends of lines and pages.

* `plain` is the text for such a device.
-/

namespace Famicom.Text.Terminal

/-! ## Styles -/

/-- How a part of a text is set off from the rest. -/
inductive Style where
  | alarm
  | doubtful
  | literal
  | valid
  deriving DecidableEq, Repr

/-- The control sequences that begin a style. -/
def Style.opening : Style → String
  | .alarm => "\x1b[1m\x1b[31m"
  | .doubtful => "\x1b[33m"
  | .literal => "\x1b[1m"
  | .valid => "\x1b[32m"

/-- The control sequence that ends every style. -/
def closing : String := "\x1b[0m"

/-- A text in a style. -/
def Style.apply (s : Style) (text : String) : String := s.opening ++ text ++ closing

/-! ## Plain text -/

/-- Where a reader of the text is: between control sequences; after an escape character, or the
first of several characters that belong to it; in a sequence with parameters, up to its final
character; at the start of a string for a device, in its parameters or behind them; in a string up
to its terminator; or in a command to the system, up to a bell. -/
inductive Mode where
  | text
  | escape
  | escapeMiddle
  | sequence
  | device
  | deviceParameter
  | deviceMiddle
  | string
  | command
  deriving DecidableEq, Repr

namespace Mode

/-- Whether a number is in a range. -/
def within (first last n : Nat) : Bool := first ≤ n && n ≤ last

/-- The mode after an escape character and the character with a number. -/
def afterEscape (n : Nat) : Mode :=
  if within 0x20 0x2F n then .escapeMiddle
  else if n = 0x50 then .device
  else if n = 0x58 || n = 0x5E || n = 0x5F then .string
  else if n = 0x5B then .sequence
  else if n = 0x5D then .command
  else if within 0x30 0x7E n then .text
  else .escape

/-- Whether a character ends a string: its encoding holds the terminator. -/
def endsString (c : Char) : Bool := (String.utf8EncodeChar c).contains 0x9C

/-- The mode after a character that is not shown. -/
def after (m : Mode) (c : Char) : Mode :=
  let n := c.toNat
  if n = 0x1B then .escape
  else if n = 0x18 || n = 0x1A then .text
  else
    match m with
    | .text => .text
    | .escape => afterEscape n
    | .escapeMiddle => if within 0x30 0x7E n then .text else .escapeMiddle
    | .sequence => if within 0x40 0x7E n then .text else .sequence
    | .device =>
      if within 0x20 0x2F n then .deviceMiddle
      else if within 0x30 0x3F n then .deviceParameter
      else if within 0x40 0x7E n then .string
      else .device
    | .deviceParameter =>
      if within 0x20 0x2F n then .deviceMiddle
      else if within 0x3C 0x7E n then .string
      else .deviceParameter
    | .deviceMiddle => if within 0x30 0x7E n then .string else .deviceMiddle
    | .string => if endsString c then .text else .string
    | .command => if n = 0x07 then .text else .command

/-- Whether layout that stands inside a sequence is shown. -/
def passesLayout : Mode → Bool
  | .text | .escape | .escapeMiddle | .sequence => true
  | _ => false

end Mode

/-- Whether a character is a tab or the end of a line or a page. -/
def isLayout (c : Char) : Bool := c == '\t' || c == '\n' || c == '\x0c' || c == '\r'

/-- Whether a character is no control character. Those outside the first 128 do not count. -/
def isPrinted (c : Char) : Bool := 0x20 ≤ c.toNat && c.toNat != 0x7F

/-- The characters that are shown. Layout inside a sequence interrupts it: what follows is shown up
to the next control character, and from there the sequence goes on, unless a character outside the
first 128 has ended it. -/
def strip (m : Mode) (shows : Bool) : List Char → List Char
  | [] => []
  | c :: rest =>
    if (shows || m == .text) && isPrinted c then
      c :: strip (if c.toNat < 0x80 then m else .text) true rest
    else if (shows || m.passesLayout) && isLayout c then c :: strip m true rest
    else strip (m.after c) false rest

/-- The text without control sequences and control characters. -/
def plain (text : String) : String := String.ofList (strip .text false text.toList)

end Famicom.Text.Terminal

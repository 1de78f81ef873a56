import Famicom.Player

/-!
# What the player paints

The texts of the window, in the order in which they are painted: the bar on top, the shelf, and the
screen with what is said about it. Texts for which the window has no room are not painted.

* `barLabels`, `shelfLabels` and `screenLabels` list the texts of the three parts.
-/

namespace Famicom.Player

/-- How a text stands out: an entry that is running is strong, and a button of the joypad that is
held is pressed. -/
inductive Style where
  | plain
  | strong
  | pressed
  deriving DecidableEq, Repr

/-- A text of the window, the spot that it stands on, and the hint that is shown while the pointer
rests on it. -/
structure Label where
  text : String
  style : Style
  spot : Option Spot
  hint : Option String
  deriving DecidableEq, Repr

namespace Label

/-- A text that nothing can be done with. -/
def plain (text : String) : Label := { text, style := .plain, spot := none, hint := none }

def button (text : String) (spot : Spot) : Label :=
  { text, style := .plain, spot := some spot, hint := none }

end Label

/-- The text of the button that halts or resumes. -/
def haltText (p : Player) : String := if p.halted then "Resume" else "Halt"

/-- The bar on top, given the frame rate as text. -/
def barLabels (p : Player) (rate : String) : List Label :=
  [.button "Open ROM" .open, .button "Reset" .reset, .button p.haltText .halt,
    .plain ("FPS: " ++ rate)]

/-- The rows of the shelf. -/
def rows (p : Player) : List Row :=
  Row.stack (p.column.top p.directory) (p.shelf.entries.map (·.name))

/-- The part of a row that is painted. -/
def rowLabels (p : Player) (e : Shelf.Entry × Nat) (row : Row) : List Label :=
  let running := p.session.bind (·.entry)
  (if p.column.shows row.entry then
    [{ text := e.1.name
       style := if running == some e.1.id then .strong else .plain
       spot := some (.entry e.2)
       hint := some (toString e.1.size ++ " bytes") }]
  else []) ++
  if p.column.shows row.delete then [.button "Delete" (.delete e.2)] else []

def shelfLabels (p : Player) : List Label :=
  let rows := (p.shelf.entries.zipIdx.zipWith p.rowLabels p.rows).flatten
  let isEmptyShown := p.shelf.entries.isEmpty && p.column.top p.directory ≤ windowHeight
  [.plain "Library", .plain p.directory] ++ rows ++ if isEmptyShown then [.plain "Empty"] else []

/-- What is painted of texts that begin at `left` and stand side by side. -/
def shownBeyond (left : Nat) (labels : List Label) : List Label :=
  (labels.zip (Column.leftEnds left (labels.map (·.text)))).filterMap fun l =>
    if Column.showsBeyond l.2 then some l.1 else none

/-- Whether the texts below the picture are painted. -/
def showsButtons (p : Player) : Bool :=
  match p.scale.times 240 with
  | .units height =>
    let above := p.column.pictureTop p.status + gapDown + (grip - Lettering.plain) / 2
    above * Scale.unitsOfOne + height ≤ windowHeight * Scale.unitsOfOne
  | .infinite => false

/-- The status and, while a session has a picture, the buttons of the joypad. -/
def screenLabels (p : Player) : List Label :=
  let shown (button : Button) : Label :=
    { Label.plain button.name with style := if p.joypad.isPressed button then .pressed else .plain }
  let buttons :=
    if p.session.isSome && p.picture.isSome && p.showsButtons then
      .plain "Controller 1:" :: Button.all.map shown
    else []
  shownBeyond p.column.beyond [.plain p.status] ++ shownBeyond p.column.beyond buttons

end Famicom.Player

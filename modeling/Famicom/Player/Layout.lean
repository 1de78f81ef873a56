/-!
# The layout of the window

A character of a text advances by so many thousandths of the letters' size, rounded to whole pixels;
a line is as high as its letters. Things stand in the window, in pixels from its top left corner: the
bar on top, below it the column with the shelf, and the screen to the right of that. The column is as
wide as its widest row was in the update before, and what lies beyond its edge is not painted.

* `Lettering.width` and `lines` measure a text, `wrapped` counts its lines where the room is limited.
* `barPlaces`, `Row.stack` and `Column.places` place what can be clicked or dragged.
* `Column.after` is the column after an update.
* `neighbour` is the nearest spot in a direction.
-/

namespace Famicom.Player.Lettering

/-! ## How much room a text takes -/

/-- The height of a line of ordinary text, in pixels. -/
def plain : Nat := 14

/-- The height of a line of small text, in pixels. -/
def small : Nat := 10

/-- Characters, grouped by about how much they advance. -/
def advances : List (List Char × Nat) :=
  [("\r".toList, 0), (" ".toList, 230), ("ij.,:;!'|".toList, 240), ("lI".toList, 256),
    ("-()[]".toList, 310), ("fr".toList, 366), ("/\\t".toList, 384), ("s".toList, 425),
    ("cvyz".toList, 470), ("akxJL_".toList, 500), ("ST".toList, 530),
    ("0123456789bdeghnopquEFKPYZ+<=>~".toList, 570), ("ABCGRVX&".toList, 640),
    ("DHNUw".toList, 735), ("OQ".toList, 785), ("mM%@".toList, 860), ("W".toList, 920),
    ("\t".toList, 920)]

/-- By how much a character advances. What is not listed is as wide as a digit. -/
def advance (c : Char) : Nat :=
  ((advances.find? fun p => p.1.contains c).map (·.2)).getD 570

/-- The width of the letters' own square is to a line's height as 1000 is to this. -/
def lineHeight : Nat := 1121

/-- The pixels that a character takes in a line of some height. -/
def pixels (height : Nat) (c : Char) : Nat :=
  (2 * advance c * height + lineHeight) / (2 * lineHeight)

/-- The lines of a text; one character may end them. -/
def linesOf (text : String) : List (List Char) := text.toList.splitOn '\n'

/-- The number of lines of a text. -/
def lines (text : String) : Nat := (linesOf text).length

/-- The width of the widest line of an ordinary text. -/
def width (text : String) : Nat :=
  (linesOf text).foldl (fun w line => max w (line.foldl (fun n c => n + pixels plain c) 0)) 0

/-- The number of lines that a line becomes where only `room` pixels are left for each; `used` of
them are taken in the current one. -/
def breaks (height room used : Nat) : List Char → Nat
  | [] => 1
  | c :: rest =>
    let next := used + pixels height c
    if used = 0 || next ≤ room then breaks height room next rest
    else 1 + breaks height room (pixels height c) rest

/-- The number of lines of a text in which no line may be wider than `room` pixels. -/
def wrapped (height room : Nat) (text : String) : Nat :=
  (linesOf text).foldl (fun n line => n + breaks height room 0 line) 0

end Famicom.Player.Lettering

namespace Famicom.Player

/-! ## Where things stand -/

open Lettering

/-- What can be clicked or dragged, by what it is for. All rows of the shelf together can be
dragged, and have a slider beside them, when there are too many; the edge of the column can be
dragged as well. -/
inductive Spot where
  | open
  | reset
  | halt
  | rows
  | entry (row : Nat)
  | delete (row : Nat)
  | slider
  | edge
  deriving DecidableEq, Repr

structure Span where
  first : Nat
  last : Nat
  deriving DecidableEq, Repr

namespace Span

/-- Whether the common part is at least half of the shorter span. -/
def overlaps (a b : Span) : Bool :=
  max a.first b.first * 2 + min (a.last - a.first) (b.last - b.first) ≤ min a.last b.last * 2

/-- Twice the way from the middle of one span to the middle of another; none if they overlap. -/
def wayTo (a b : Span) : Int :=
  if a.overlaps b then 0 else (b.first + b.last : Int) - (a.first + a.last)

end Span

structure Area where
  across : Span
  down : Span
  deriving DecidableEq, Repr

/-! ## Places -/

def windowWidth : Nat := 1600

def windowHeight : Nat := 1200

/-- The gap between things that stand side by side. -/
def gapAcross : Nat := 8

/-- The gap between things that stand below each other. -/
def gapDown : Nat := 3

/-- The gap between the edge of the window, or of the column, and what is in it. -/
def margin : Nat := 8

/-- The least height of what can be clicked. -/
def grip : Nat := 18

/-- The bar on top. -/
def barSpan : Span := ⟨0, 22⟩

/-- Places the buttons of the bar side by side. -/
def placeBar (left : Nat) : List (Spot × String) → List (Spot × Area)
  | [] => []
  | (spot, text) :: rest =>
    let right := left + width text + 4
    (spot, ⟨⟨left, right⟩, ⟨2, 2 + grip⟩⟩) :: placeBar (right + gapAcross) rest

/-- The buttons of the bar, where one of them reads `halt`. -/
def barPlaces (halt : String) : List (Spot × Area) :=
  placeBar margin [(.open, "Open ROM"), (.reset, "Reset"), (.halt, halt)]

/-- The areas of the buttons in a row of the shelf. -/
structure Row where
  entry : Area
  delete : Area
  deriving DecidableEq, Repr

namespace Row

/-- The row of an entry of that name. The small button stands in the middle of its height. -/
def ofName (top : Nat) (name : String) : Row :=
  let height := max grip (plain * lines name + 2)
  let right := margin + width name + 8
  let left := right + gapAcross
  let above := top + (height - plain) / 2
  { entry := ⟨⟨margin, right⟩, ⟨top, top + height⟩⟩
    delete := ⟨⟨left, left + width "Delete" + 8⟩, ⟨above, above + plain⟩⟩ }

/-- The rows of entries of these names, one below the other. -/
def stack (top : Nat) : List String → List Row
  | [] => []
  | name :: rest =>
    let row := ofName top name
    row :: stack (row.entry.down.last + gapDown) rest

/-- The spots of a row. In the first row the small button comes first. -/
def places (row : Row × Nat) : List (Spot × Area) :=
  let entry := (Spot.entry row.2, row.1.entry)
  let delete := (Spot.delete row.2, row.1.delete)
  if row.2 = 0 then [delete, entry] else [entry, delete]

end Row

/-- The column with the shelf, as an update has left it: its right edge, and whether its rows did
not fit. -/
structure Column where
  right : Nat
  overflows : Bool
  deriving DecidableEq, Repr

namespace Column

/-- The column before the first update. -/
def initial : Column := { right := 220, overflows := false }

/-- The edge beyond which nothing in the column is painted. -/
def edge (c : Column) : Nat := min c.right windowWidth

/-- The room for lines of text. -/
def room (c : Column) : Nat := c.edge - 2 * margin

/-- Where the rows begin, below the heading, the path of the folder and a line. -/
def top (c : Column) (directory : String) : Nat :=
  59 + small * wrapped small c.room directory

/-- Where the rows have to end. -/
def bottom : Nat := windowHeight - 2

/-- Whether a part of the column is painted. -/
def shows (c : Column) (a : Area) : Bool :=
  a.across.first ≤ c.edge && a.down.first ≤ windowHeight

/-- Whether the rows do not fit. -/
def overfull (rows : List Row) : Bool := rows.any fun row => bottom < row.entry.down.last

/-- The right end of the widest row. -/
def reach (rows : List Row) : Nat := rows.foldl (fun n row => max n row.delete.across.last) 0

/-- The column after an update with these rows. It never becomes narrower. -/
def after (c : Column) (rows : List Row) : Column where
  right := max c.edge (reach rows + margin)
  overflows := overfull rows

/-- The spots of the column with these rows. -/
def places (c : Column) (directory : String) (rows : List Row) : List (Spot × Area) :=
  let down : Span := ⟨c.top directory, bottom⟩
  (if c.overflows then [(.rows, ⟨⟨margin, reach rows⟩, down⟩)] else []) ++
  rows.zipIdx.flatMap Row.places ++
  (if overfull rows then [(.slider, ⟨⟨reach rows - 2, reach rows⟩, down⟩)] else []) ++
  [(.edge, ⟨⟨c.edge - 5, c.edge + 5⟩, ⟨barSpan.last, windowHeight⟩⟩)]

/-! ## The screen -/

/-- Where texts to the right of the column begin. -/
def beyond (c : Column) : Nat := c.right + margin

/-- Where the picture begins, below the status. -/
def pictureTop (c : Column) (status : String) : Nat :=
  barSpan.last + margin + plain * wrapped plain (windowWidth - margin - c.beyond) status + gapDown

/-- Whether a text that begins so far to the right is painted. -/
def showsBeyond (left : Nat) : Bool := left ≤ windowWidth

/-- The left ends of texts side by side. -/
def leftEnds (left : Nat) : List String → List Nat
  | [] => []
  | text :: rest => left :: leftEnds (left + width text + gapAcross) rest

end Column

/-! ## Neighbours -/

/-- Where a key moves the focus. -/
inductive Move where
  | next
  | up
  | down
  | left
  | right
  deriving DecidableEq, Repr

/-- How far a way leads in the direction of a move. -/
def Move.along (m : Move) (across down : Int) : Int :=
  match m with
  | .next => 0
  | .up => -down
  | .down => down
  | .left => -across
  | .right => across

/-- What it costs to go from one area to another: its length, divided by the square of the cosine of
the angle to the direction. It is kept as the square of that, a fraction. -/
structure Cost where
  above : Nat
  below : Nat
  deriving DecidableEq, Repr

def Cost.less (a b : Cost) : Bool := a.above * b.below < b.above * a.below

/-- The cost of a move from one area to another, unless it leads away by more than half a right
angle. -/
def Move.cost? (m : Move) (here there : Area) : Option Cost :=
  let across := here.across.wayTo there.across
  let down := here.down.wayTo there.down
  let square := (across * across + down * down).toNat
  let along := (m.along across down).toNat
  if along = 0 || 2 * (along * along) < square then none
  else some ⟨square * square * square, along * along * (along * along)⟩

/-- The first of those that cost least. -/
def cheapest : List (Spot × Cost) → Option (Spot × Cost)
  | [] => none
  | p :: rest =>
    match cheapest rest with
    | none => some p
    | some q => if q.2.less p.2 then some q else some p

/-- The nearest spot in a direction; of two that are as near, the first. -/
def neighbour (places : List (Spot × Area)) (s : Spot) (m : Move) : Option Spot := do
  let here ← places.lookup s
  let costs := places.filterMap fun p => (m.cost? here p.2).map (p.1, ·)
  return (← cheapest costs).1

end Famicom.Player

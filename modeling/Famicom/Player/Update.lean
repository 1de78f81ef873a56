import Famicom.Player.Painting

/-!
# Updates of the player

The player is updated many times a second. An update looks after the session, takes the input and
the latest frame, and then paints the window from top to bottom. What is done to a spot takes effect
where it is painted, so the texts above it still show the player as it was.

* `update` is one update.
-/

namespace Famicom.Player

/-- What somebody does with the player during an update: the keys that are pressed, in order; where
the pointer is pressed, if it is, where there may be no spot; and the spot on which it is released
after it was pressed there. -/
structure Touch where
  strokes : List Key
  press : Option (Option Spot)
  clicked : Option Spot
  deriving DecidableEq, Repr

/-- Nothing is done. -/
def Touch.idle : Touch := { strokes := [], press := none, clicked := none }

/-- Whether a spot is clicked as it is painted, and the player after that. A spot that is not
enabled, or that the pointer is pressed away from, gives up the focus. -/
def visit (p : Player) (t : Touch) (s : Spot) (isEnabled : Bool) : Bool × Player :=
  let f := p.focus.visit s
  let f := if isEnabled then f else f.leave s
  let byKey := f.holder == some s && t.strokes.any Key.clicks
  let isLeft := match t.press with
    | some on => on != some s
    | none => false
  (isEnabled && (byKey || t.clicked == some s),
    { p with focus := if isLeft then f.leave s else f })

/-- The texts of a part of the window, the places of its spots, and the player after painting it. -/
structure Painted where
  labels : List Label
  places : List (Spot × Area)
  player : Player

/-- Paints the bar on top. -/
def paintBar (p : Player) (t : Touch) (rate : String) : Painted :=
  let opens := p.visit t .open true
  let p := if opens.1 then opens.2.openPicked else opens.2
  let resets := p.visit t .reset p.session.isSome
  let p := if resets.1 then resets.2.reset else resets.2
  let halts := p.visit t .halt p.session.isSome
  { labels := p.barLabels rate
    places := barPlaces p.haltText
    player := if halts.1 then halts.2.toggleHalt else halts.2 }

/-- What is done with an entry of the shelf. -/
inductive Deed where
  | launch (id : UInt64)
  | delete (id : UInt64)
  deriving DecidableEq, Repr

def Deed.perform (p : Player) : Option Deed → Player
  | some (.launch id) => p.launchEntry id
  | some (.delete id) => p.deleteEntry id
  | none => p

/-- Paints a row of the shelf. -/
def paintRow (t : Touch) (s : Option Deed × Player) (e : Shelf.Entry × Nat) :
    Option Deed × Player :=
  let launches := s.2.visit t (.entry e.2) true
  let deletes := launches.2.visit t (.delete e.2) true
  (if deletes.1 then some (.delete e.1.id) else if launches.1 then some (.launch e.1.id) else s.1,
    deletes.2)

/-- Paints a spot that nothing can be done with, if it is there. -/
def pass (p : Player) (t : Touch) (s : Spot) (isThere : Bool) : Player :=
  if isThere then (p.visit t s true).2 else p

/-- Paints the shelf. What is done with an entry is done after all of them. -/
def paintShelf (p : Player) (t : Touch) : Painted :=
  let rows := p.rows
  let begun := p.pass t .rows p.column.overflows
  let painted := p.shelf.entries.zipIdx.foldl (paintRow t) (none, begun)
  let ended := painted.2.pass t .slider (Column.overfull rows)
  let done := (Deed.perform ended painted.1).pass t .edge true
  { labels := p.shelfLabels
    places := p.column.places p.directory rows
    player := { done with column := p.column.after rows } }

/-- One update of the player: the texts that are painted, and the player after it. -/
def update (p : Player) (t : Touch) (rate : String) : List Label × Player :=
  let begun := { p with focus := p.focus.opening t.strokes }
  let bar := begun.poll.hold.refresh.paintBar t rate
  let shelf := bar.player.paintShelf t
  let painted := shelf.player
  (bar.labels ++ shelf.labels ++ painted.screenLabels,
    { painted with focus := painted.focus.closing (bar.places ++ shelf.places) })

end Famicom.Player

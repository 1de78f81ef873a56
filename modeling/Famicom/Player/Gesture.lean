import Famicom.Player.Update

/-!
# Gestures

What somebody does with the player, in terms of its updates. The session runs on by a frame after
every update.

* `perform` carries out a gesture and returns what was seen.
-/

namespace Famicom.Player

open Picture

/-- The frame rate as it is shown here: it is measured, so a star stands for it. -/
def anyRate : String := "*"

/-- What somebody can do. A click and a hover are aimed at the `n`-th text that reads like this;
keys are pressed and released in order. Waiting lets updates pass until a text contains this one, a
pause lets milliseconds pass before one update, and settling lets updates pass until the picture
stands still. -/
inductive Gesture where
  | watch
  | click (text : String) (n : Nat)
  | hover (text : String) (n : Nat)
  | type (changes : List (Bool × Key))
  | waitFor (text : String)
  | pause (milliseconds : Nat)
  | settle
  deriving DecidableEq, Repr

/-- What is seen then, unless no text reads like that or what was waited for did not come. -/
inductive Sight where
  | window (labels : List Label)
  | noLabel
  | timeout
  | still (picture : Frame)

/-- A player and the texts that its last update painted. -/
structure Desk where
  player : Player
  labels : List Label

namespace Desk

/-- A player that was not updated yet. -/
def ofPlayer (player : Player) : Desk := { player, labels := [] }

/-- One update, after which the session runs on. -/
def tick (d : Desk) (t : Touch) : Desk :=
  let r := d.player.update t anyRate
  { player := r.2.elapse, labels := r.1 }

def ticks (d : Desk) : Nat → Desk
  | 0 => d
  | n + 1 => (d.tick .idle).ticks n

/-- The `n`-th painted text that reads like this. -/
def find? (d : Desk) (text : String) (n : Nat) : Option Label :=
  (d.labels.filter fun l => l.text == text)[n]?

def sight (d : Desk) : Sight := .window d.labels

/-- Updates a pointer takes to click: it comes, presses, releases and goes. -/
def click (d : Desk) (l : Label) : Desk :=
  let pressed := (d.tick .idle).tick { Touch.idle with press := some l.spot }
  (pressed.tick { Touch.idle with clicked := l.spot }).tick .idle

/-- Updates after which the hint of a text is shown. -/
def ticksToHint : Nat := 60

def hover (d : Desk) (l : Label) : Sight × Desk :=
  let rested := d.ticks ticksToHint
  (.window (rested.labels ++ (l.hint.map Label.plain).toList), rested)

def contains (text part : List Char) : Bool :=
  match text with
  | [] => part.isEmpty
  | c :: rest => part.isPrefixOf (c :: rest) || contains rest part

/-- Lets at most `fuel` updates pass until a text contains this one. -/
def waitFor (d : Desk) (text : String) : (fuel : Nat) → Sight × Desk
  | 0 => (.timeout, d)
  | fuel + 1 =>
    let next := d.tick .idle
    if next.labels.any fun l => contains l.text.toList text.toList then (next.sight, next)
    else next.waitFor text fuel

def sameFrame (a b : Frame) : Bool := a.cells.data == b.cells.data

/-- The frames that have to be the same for a picture to stand still, and the frames that have to
be seen. -/
def framesAlike : Nat := 5

def framesSeen : Nat := 6

/-- Lets at most `fuel` updates pass until the picture stands still. `seen` counts the frames so far
and `latest` has the last ones. -/
def settle (d : Desk) (seen : Nat) (latest : List Frame) : (fuel : Nat) → Sight × Desk
  | 0 => (.timeout, d)
  | fuel + 1 =>
    let isFresh := d.player.cell.fresh
    let next := d.tick .idle
    match isFresh, next.player.picture with
    | true, some frame =>
      let latest := (frame :: latest).take framesAlike
      if framesSeen ≤ seen + 1 && latest.length == framesAlike && latest.all (sameFrame frame) then
        (.still frame, next)
      else next.settle (seen + 1) latest fuel
    | _, _ => next.settle seen latest fuel

/-- Updates after which waiting is given up. -/
def patience : Nat := 1200

/-- The session alone runs on for so many frames. -/
def elapse (d : Desk) : Nat → Desk
  | 0 => d
  | n + 1 => { d with player := d.player.elapse }.elapse n

/-- Frames in a second, rounded. -/
def framesPerSecond : Nat := 60

def perform (d : Desk) : Gesture → Sight × Desk
  | .watch =>
    let next := d.tick .idle
    (next.sight, next)
  | .click text n =>
    match d.find? text n with
    | none => (.noLabel, d)
    | some l =>
      let next := d.click l
      (next.sight, next)
  | .hover text n =>
    match d.find? text n with
    | none => (.noLabel, d)
    | some l => d.hover l
  | .type changes =>
    let typed := { d.player with keys := changes.foldl pressKey d.player.keys }
    let strokes := (changes.filter (·.1)).map (·.2)
    let next := { d with player := typed }.tick { Touch.idle with strokes }
    (next.sight, next)
  | .waitFor text => d.waitFor text patience
  | .pause ms =>
    let next := (d.elapse (ms * framesPerSecond / 1000 + 1)).tick .idle
    (next.sight, next)
  | .settle => d.settle 0 [] patience

end Desk

end Famicom.Player

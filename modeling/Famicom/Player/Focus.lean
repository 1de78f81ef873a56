import Famicom.Joypad
import Famicom.Player.Layout

/-!
# The keyboard and the focus of the window

Some keys stand for buttons of the joypad, some move the focus. At most one spot of the window has
the focus, and keys that click work on it. A tab gives the focus to the first spot, or takes it from
the spot that has it and gives it to the next one to be painted, if need be in the next update. An
arrow moves it to the nearest spot that way. Escape takes it away.

* `Key.button` gives the button that a key stands for.
* `Focus.visit` is what becomes of the focus when a spot is painted, `Focus.closing` when all are.
-/

namespace Famicom.Player

/-! ## The keyboard -/

inductive Key where
  | a
  | s
  | space
  | enter
  | up
  | down
  | left
  | right
  | tab
  | escape
  deriving DecidableEq, Repr

namespace Key

/-- The button that a key stands for. -/
def button : Key → Option Button
  | .a => some .a
  | .s => some .b
  | .space => some .select
  | .enter => some .start
  | .up => some .up
  | .down => some .down
  | .left => some .left
  | .right => some .right
  | .tab | .escape => none

/-- Whether the key works like a click on what has the focus. -/
def clicks : Key → Bool
  | .space | .enter => true
  | _ => false

end Key

/-- The keys that are held, after one of them was pressed or released. -/
def pressKey (keys : List Key) (change : Bool × Key) : List Key :=
  let others := keys.filter (· != change.2)
  if change.1 then change.2 :: others else others

/-! ## The focus -/

/-- Who has the focus, who had it when the update began, whether the next spot to be painted gets
it, and a move that is still to be made in this update. -/
structure Focus where
  holder : Option Spot
  former : Option Spot
  passing : Bool
  move : Option Move
  deriving DecidableEq, Repr

namespace Focus

/-- Nothing has the focus. -/
def nowhere : Focus := { holder := none, former := none, passing := false, move := none }

/-- What a key that is pressed does to the focus. -/
def stroke (f : Focus) : Key → Focus
  | .tab => { f with move := some .next }
  | .up => { f with move := some .up }
  | .down => { f with move := some .down }
  | .left => { f with move := some .left }
  | .right => { f with move := some .right }
  | .escape => { f with holder := none, move := none }
  | _ => f

/-- The focus at the beginning of an update in which keys are pressed. -/
def opening (f : Focus) (strokes : List Key) : Focus :=
  strokes.foldl stroke { f with former := f.holder, move := none }

/-- What becomes of the focus when a spot is painted. -/
def visit (f : Focus) (s : Spot) : Focus :=
  if f.passing && f.former != some s then { f with holder := some s, passing := false }
  else if f.move == some .next then
    if f.holder == some s then { f with holder := none, passing := true, move := none }
    else if f.holder.isNone && !f.passing then { f with holder := some s, move := none }
    else f
  else f

/-- The focus after a spot has given it up. -/
def leave (f : Focus) (s : Spot) : Focus :=
  if f.holder == some s then { f with holder := none } else f

/-- The focus at the end of an update that has painted spots at these places. -/
def closing (f : Focus) (places : List (Spot × Area)) : Focus :=
  let moved : Focus :=
    match f.holder, f.move with
    | some s, some m => { f with holder := some ((neighbour places s m).getD s) }
    | _, _ => f
  match moved.holder with
  | some s => if f.former == some s && !places.any (·.1 == s) then moved.leave s else moved
  | none => moved

end Focus

end Famicom.Player

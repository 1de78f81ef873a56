import Famicom.Console.Loop

/-!
# Sessions

A session is a console that runs freely beside the player. The player reaches it through requests,
the joypad and the frames that it hands over.

The console finishes frames at its own pace and the player shows the latest one at its own. The two
meet in one cell that holds a frame and a mark that the frame is fresh. The console stores the frame
and then sets the mark; the player clears the mark and then, if it was set, copies the frame. Each
of the four is a step of its own.

* `Handover.publish` and `Handover.collect` are both steps of one side, one after the other.
* `Session.advance` lets the console run on to its next frame.
* `Session.stop` ends the session.
-/

namespace Famicom.Player

/-! ## Handing over frames -/

open Picture

structure Handover where
  frame : Frame
  fresh : Bool

namespace Handover

/-- Nothing was handed over yet. -/
def blank : Handover := { frame := .blank, fresh := false }

instance : Inhabited Handover := ⟨blank⟩

/-- First step of the console: the frame is stored. -/
def store (h : Handover) (frame : Frame) : Handover := { h with frame }

/-- Second step of the console: the frame is marked as fresh. -/
def mark (h : Handover) : Handover := { h with fresh := true }

/-- First step of the player: the mark is cleared. Returns whether it was set. -/
def unmark (h : Handover) : Bool × Handover := (h.fresh, { h with fresh := false })

/-- Both steps of the console. -/
def publish (h : Handover) (frame : Frame) : Handover := (h.store frame).mark

/-- Both steps of the player: the frame, if it is fresh. -/
def collect (h : Handover) : Option Frame × Handover :=
  let r := h.unmark
  (if r.1 then some r.2.frame else none, r.2)

instance : Console.FrameSink Handover where
  present h frame := (h.publish frame, [])

end Handover

/-! ## Sessions -/

open Console

/-- A session knows the entry of the shelf that it was started from, as long as the shelf has it. -/
structure Session where
  name : String
  entry : Option UInt64
  loop : Loop Handover

namespace Session

/-- Starts a cartridge. It is paced, so that it runs no faster than the hardware. -/
def start (name : String) (entry : Option UInt64) (cartridge : Cartridge) (joypad : Joypad)
    (handover : Handover) : Session where
  name
  entry
  loop := .start (.ofCartridge cartridge joypad handover
    { Settings.standard with paced := true } default .quiet)

def handover (s : Session) : Handover := s.loop.console.sink

/-- The session with something else in the cell for frames. -/
def withHandover (s : Session) (h : Handover) : Session :=
  { s with loop := { s.loop with console := { s.loop.console with sink := h } } }

def request (s : Session) (r : Request) : Session :=
  { s with loop := { s.loop with console := s.loop.console.request r } }

/-- Holds the buttons of a joypad and releases the others. -/
def hold (s : Session) (j : Joypad) : Session :=
  Button.all.foldl
    (fun s button => s.request (if j.isPressed button then .press button else .release button)) s

/-- Whether the console has stopped on its own. -/
def isEnded (s : Session) : Bool :=
  match s.loop.phase with
  | .ended _ => true
  | _ => false

/-- Whether the console does nothing but wait for requests. -/
def isWaiting (s : Session) : Bool :=
  match s.loop.phase with
  | .proceed => s.loop.console.isHalted
  | _ => false

/-- Takes at most `fuel` steps, until the console has finished so many frames, has stopped or has
waited once. -/
def advanceTo (s : Session) (frames : Nat) : (fuel : Nat) → Session
  | 0 => s
  | fuel + 1 =>
    if frames ≤ s.loop.console.frameCount || s.isEnded then s
    else
      let next := { s with loop := s.loop.step }
      if s.isWaiting then next else next.advanceTo frames fuel

/-- More steps than the loop takes for one frame. -/
def stepsPerFrame : Nat := 1000000

/-- Lets the console run until its next frame. -/
def advance (s : Session) : Session :=
  s.advanceTo (s.loop.console.frameCount + 1) stepsPerFrame

/-- More steps than the loop takes after a request to stop. -/
def stepsToStop : Nat := 2 * UInt32.size + 16

/-- Asks the console to stop and waits for that. Returns the failure it has ended with, if any, and
what is left in the cell for frames. -/
def stop (s : Session) : Option Failure × Handover :=
  let ended := (s.request .stop).loop.run [] stepsToStop
  (match ended.result with
    | .ok _ => none
    | .error f => some f, ended.console.sink)

end Session

end Famicom.Player

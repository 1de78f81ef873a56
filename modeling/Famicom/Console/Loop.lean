import Famicom.Console

/-!
# The free-running loop

The loop runs a console until it is asked to stop or the processor faults. Between instructions it
takes the pending requests: a reset first, then the halts, then the stop. Each look at the run
control is a step of its own, since requests may arrive between any two of them.

* `Loop.step` is one such step.
* `Loop.run` takes steps until the loop has ended, with requests arriving over time.
-/

namespace Famicom.Console

open Processor

/-- Where the loop is. It is about to take a request of a kind, to apply what it has taken, to look
for a request to stop, or to proceed: to execute an instruction, or to wait if the processor is
halted. -/
inductive Phase where
  | takeReset
  | applyReset
  | takeToggles
  | applyToggles (n : UInt32)
  | checkStop
  | proceed
  | ended (result : Except Failure Unit)

/-- A console in the free-running loop. -/
structure Loop (S : Type) where
  console : Console S
  phase : Phase

namespace Loop

variable {S : Type} [FrameSink S]

/-- Waits for the poll interval and starts a new schedule. -/
def wait (c : Console S) : Console S :=
  { c with clock := c.clock.sleep (millisecond * c.settings.pollInterval) }.restartPacer

/-- One step of the loop. -/
def step (l : Loop S) : Loop S :=
  match l.phase with
  | .takeReset =>
    let r := l.console.control.takeReset
    { console := { l.console with control := r.2 }
      phase := if r.1 then .applyReset else .takeToggles }
  | .applyReset => { console := l.console.reset, phase := .takeToggles }
  | .takeToggles =>
    let r := l.console.control.takeHaltToggles
    { console := { l.console with control := r.2 }, phase := .applyToggles r.1 }
  | .applyToggles n =>
    if n = 0 then { l with phase := .checkStop }
    else { console := l.console.toggleHalt, phase := .applyToggles (n - 1) }
  | .checkStop =>
    if l.console.control.stop then
      { console := l.console.note (.loopStopped l.console.machine.registers.pc)
        phase := .ended (.ok ()) }
    else { l with phase := .proceed }
  | .proceed =>
    if l.console.isHalted then { console := wait l.console, phase := .takeReset }
    else
      let r := l.console.step
      match r.1 with
      | .ok _ => { console := r.2, phase := .takeReset }
      | .error e => { console := r.2, phase := .ended (.error (.fault e)) }
  | .ended _ => l

/-- The loop before its first step. -/
def start (c : Console S) : Loop S := { console := c.note .loopStarted, phase := .takeReset }

/-- A request that arrives from outside at a time of the clock. -/
structure Arrival where
  time : Nat
  request : Request
  deriving DecidableEq, Repr

/-- Makes the requests that have arrived and returns the others. -/
def deliver (l : Loop S) : List Arrival → Loop S × List Arrival
  | [] => (l, [])
  | a :: rest =>
    if a.time ≤ l.console.clock.now then
      deliver { l with console := l.console.request a.request } rest
    else
      let r := deliver l rest
      (r.1, a :: r.2)

/-- At most `fuel` steps of the loop, while requests arrive. -/
def run (l : Loop S) (arrivals : List Arrival) : (fuel : Nat) → Loop S
  | 0 => l
  | fuel + 1 =>
    match l.phase with
    | .ended _ => l
    | _ =>
      let d := l.deliver arrivals
      d.1.step.run d.2 fuel

/-- How the loop has ended. -/
def result (l : Loop S) : Except Failure Unit :=
  match l.phase with
  | .ended r => r
  | _ => .ok ()

end Loop

/-- Runs a console freely for at most `fuel` steps of the loop. -/
def runFreely {S : Type} [FrameSink S] (c : Console S) (arrivals : List Loop.Arrival)
    (fuel : Nat) : Except Failure Unit × Console S :=
  let l := (Loop.start c).run arrivals fuel
  (l.result, l.console)

end Famicom.Console

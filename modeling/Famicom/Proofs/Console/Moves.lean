import Famicom.Proofs.Console.Halting
import Famicom.Proofs.Console.Operation

/-!
# Requests and moves of the loop

Requests reach the run control from any number of threads, between any two steps of the loop, and
from the sink in the middle of an instruction.

* `control_step_eq`: an instruction changes the run control by the requests of the sink.
* `Move` and `Loop.moves`: requests and steps of the loop, in any order. Every run is such a
  sequence.
-/

namespace Famicom.Console

open Picture Processor

variable {S : Type}

/-! ## Requests and the run control -/

namespace Control

/-- The requests that are pending, every halt counted by itself. -/
def pending (c : Control) : List Request :=
  (if c.stop then [.stop] else []) ++ (if c.reset then [.reset] else []) ++
    List.replicate c.haltToggles.toNat .toggleHalt

theorem stop_request (c : Control) (r : Request) :
    (c.request r).stop = true ↔ c.stop = true ∨ r = .stop := by
  cases r <;> simp [request, requestStop, requestReset, requestHaltToggle]

theorem reset_request (c : Control) (r : Request) :
    (c.request r).reset = true ↔ c.reset = true ∨ r = .reset := by
  cases r <;> simp [request, requestStop, requestReset, requestHaltToggle]

theorem haltToggles_request (c : Control) (r : Request) :
    (c.request r).haltToggles =
      if r = .toggleHalt then c.haltToggles + 1 else c.haltToggles := by
  cases r <;> rfl

theorem requestAll_append (c : Control) (rs rs' : List Request) :
    c.requestAll (rs ++ rs') = (c.requestAll rs).requestAll rs' := List.foldl_append

theorem requestAll_replicate (c : Control) (n : Nat) :
    c.requestAll (List.replicate n .toggleHalt) =
      { c with haltToggles := c.haltToggles + UInt32.ofNat n } := by
  induction n generalizing c with
  | zero => simp [requestAll]
  | succ n ih =>
    rw [List.replicate_succ]
    refine (ih (c.request .toggleHalt)).trans ?_
    simp only [request, requestHaltToggle, UInt32.ofNat_add, UInt32.add_assoc,
      UInt32.add_comm 1]
    rfl

/-- Making the pending requests again leads to the same pending requests. -/
theorem requestAll_pending (c : Control) : idle.requestAll c.pending = c := by
  obtain ⟨stop, reset, toggles⟩ := c
  unfold pending
  rw [requestAll_append, requestAll_replicate]
  cases stop <;> cases reset <;>
    simp [requestAll, request, requestStop, requestReset, idle]

/-- Requests do not take a request to stop back. -/
theorem stop_requestAll {c : Control} (asked : c.stop = true) (rs : List Request) :
    (c.requestAll rs).stop = true := by
  induction rs generalizing c with
  | nil => exact asked
  | cons r rs ih => exact ih ((c.stop_request r).mpr (.inl asked))

end Control

theorem control_request (c : Console S) (r : Request) :
    (c.request r).control = c.control.request r := by
  rw [request_eq]

/-! ## Requests of the sink -/

section

variable [FrameSink S]

theorem control_present_eq (c : Console S) (frame : Frame) :
    (c.present frame).control = c.control.requestAll (FrameSink.present c.sink frame).2 := by
  rw [present_eq]

/-- The requests that the sink makes in a round of catching up. -/
def roundRequests (c : Console S) (pending : Nat) : List Request :=
  let r := c.bus.advance (pending * dotsPerCycle)
  if r.1.frameReady then (FrameSink.present c.sink r.2.picture.frame).2 else []

def catchUpRequests (c : Console S) (pending : Nat) : (rounds : Nat) → List Request
  | 0 => []
  | rounds + 1 =>
    if pending = 0 then []
    else
      c.roundRequests pending ++
        (c.catchUpRound pending).2.catchUpRequests (c.catchUpRound pending).1 rounds

/-- The requests that the sink makes while an instruction is executed. -/
def stepRequests (c : Console S) : List Request :=
  match c.machine.step.1 with
  | .ok cycles => { c with machine := c.machine.step.2 }.catchUpRequests cycles 2
  | .error _ => []

theorem control_catchUpRound_eq (c : Console S) (pending : Nat) :
    (c.catchUpRound pending).2.control = c.control.requestAll (c.roundRequests pending) := by
  have elapsed : (c.elapsed pending).control = c.control.requestAll (c.roundRequests pending) := by
    unfold elapsed roundRequests
    dsimp only
    split
    · exact control_present_eq _ _
    · rfl
  rw [catchUpRound_eq]
  split <;> exact elapsed

theorem control_catchUpRounds_eq (c : Console S) (pending rounds : Nat) :
    (c.catchUpRounds pending rounds).2.control =
      c.control.requestAll (c.catchUpRequests pending rounds) := by
  induction rounds generalizing c pending with
  | zero => rfl
  | succ rounds ih =>
    unfold catchUpRounds catchUpRequests
    split
    · rfl
    · rw [Control.requestAll_append, ← control_catchUpRound_eq]
      exact ih _ _

/-- An instruction changes the pending requests by those of the sink. -/
theorem control_step_eq (c : Console S) :
    c.step.2.control = c.control.requestAll c.stepRequests := by
  cases result : c.machine.step.1 with
  | ok cycles =>
    simp only [step, stepRequests, result]
    exact (control_throttle _ _).trans (control_catchUpRounds_eq _ cycles 2)
  | error fault =>
    simp only [step, stepRequests, result]
    rfl

end

/-! ## Moves -/

/-- Somebody makes a request, or the loop takes a step. -/
inductive Move where
  | ask (r : Request)
  | work
  deriving DecidableEq, Repr

namespace Loop

variable [FrameSink S]

def move (l : Loop S) : Move → Loop S
  | .ask r => l.ask r
  | .work => l.step

def moves (l : Loop S) (ms : List Move) : Loop S := ms.foldl move l

theorem moves_append (l : Loop S) (ms ms' : List Move) :
    l.moves (ms ++ ms') = (l.moves ms).moves ms' := List.foldl_append

theorem moves_map_ask (l : Loop S) (rs : List Request) :
    l.moves (rs.map .ask) = { l with console := l.console.requestAll rs } := by
  induction rs generalizing l with
  | nil => rfl
  | cons r rs ih => exact ih (l.ask r)

/-- A run by a schedule of requests is a sequence of moves. -/
theorem drive_eq_moves (l : Loop S) (schedule : List (List Request)) :
    l.drive schedule = l.moves (schedule.flatMap fun rs => rs.map .ask ++ [.work]) := by
  induction schedule generalizing l with
  | nil => rfl
  | cons rs rest ih =>
    rw [drive, ih, List.flatMap_cons, moves_append, moves_append, moves_map_ask]
    rfl

/-- So are the runs with requests that arrive by the clock. -/
theorem run_eq_moves (l : Loop S) (arrivals : List Arrival) (fuel : Nat) :
    ∃ ms, l.run arrivals fuel = l.moves ms := by
  obtain ⟨schedule, run⟩ := run_eq_drive l arrivals fuel
  exact ⟨_, run.trans (drive_eq_moves l schedule)⟩

end Loop

end Famicom.Console

import Famicom.Console.Loop

/-!
# Operations of a console and the acts they consist of

Whatever is done with a console is a sequence of acts: instructions, interrupts, resets, single
accesses, requests and what the free-running loop does between instructions. The bounded runs and the
free run decide from the console which act comes next.

* `actAll_acts`: every operation is the sequence of its acts.
* `runFreely_eq_operate`: requests that arrive by the clock are a schedule of requests before each
  step of the loop, so `Operation.run` covers every free run.
* `actAll_allActs`: so what every act preserves is preserved by any operations.
-/

namespace Famicom.Console

open Processor

variable {S : Type} [FrameSink S]

/-- A step may fail. Registers are updated from outside, the loop takes the requests to reset and to
halt or resume, and it waits while the processor is halted. -/
inductive Act where
  | step
  | nmi
  | irq
  | reset
  | toggleHalt
  | read (address : UInt16)
  | write (address : UInt16) (v : UInt8)
  | updateRegisters (f : Registers → Registers)
  | request (r : Request)
  | takeReset
  | takeToggles
  | note (e : Event)
  | wait

def act (c : Console S) : Act → Console S
  | .step => c.step.2
  | .nmi => c.nmi.2
  | .irq => c.irq.2
  | .reset => c.reset
  | .toggleHalt => c.toggleHalt
  | .read address => (c.read address).2
  | .write address v => c.write address v
  | .updateRegisters f => c.updateRegisters f
  | .request r => c.request r
  | .takeReset => { c with control := c.control.takeReset.2 }
  | .takeToggles => { c with control := c.control.takeHaltToggles.2 }
  | .note e => c.note e
  | .wait => Loop.wait c

def actAll (c : Console S) (as : List Act) : Console S := as.foldl act c

theorem actAll_cons (c : Console S) (a : Act) (as : List Act) :
    c.actAll (a :: as) = (c.act a).actAll as := rfl

theorem actAll_append (c : Console S) (as bs : List Act) :
    c.actAll (as ++ bs) = (c.actAll as).actAll bs := List.foldl_append

theorem actAll_request (c : Console S) (rs : List Request) :
    c.actAll (rs.map .request) = c.requestAll rs := List.foldl_map

/-! ## Bounded runs -/

/-- The steps of a run to a frame. -/
def actsToFrame (c : Console S) (target : Nat) : (fuel : Nat) → List Act
  | 0 => []
  | fuel + 1 =>
    if target ≤ c.frameCount then []
    else if c.isHalted then []
    else
      match c.step.1 with
      | .ok _ => .step :: c.step.2.actsToFrame target fuel
      | .error _ => [.step]

theorem actAll_actsToFrame (c : Console S) (target fuel : Nat) :
    c.actAll (c.actsToFrame target fuel) = (c.runToFrame target fuel).2 := by
  induction fuel generalizing c with
  | zero => rfl
  | succ fuel ih =>
    unfold actsToFrame runToFrame
    split
    · rfl
    · split
      · rfl
      · dsimp only
        cases c.step.1 with
        | ok cycles => exact ih c.step.2
        | error e => rfl

/-- The steps of a run to vertical blank. -/
def actsForBlank (c : Console S) (start spent limit : Nat) : (fuel : Nat) → List Act
  | 0 => []
  | fuel + 1 =>
    if limit ≤ spent then []
    else if c.isHalted then []
    else
      match c.step.1 with
      | .ok cycles =>
        .step :: if start < c.step.2.frameCount then []
          else c.step.2.actsForBlank start (spent + cycles) limit fuel
      | .error _ => [.step]

theorem actAll_actsForBlank (c : Console S) (start spent limit fuel : Nat) :
    c.actAll (c.actsForBlank start spent limit fuel) =
      (c.runForBlank start spent limit fuel).2 := by
  induction fuel generalizing c spent with
  | zero => rfl
  | succ fuel ih =>
    unfold actsForBlank runForBlank
    split
    · rfl
    · split
      · rfl
      · dsimp only
        cases c.step.1 with
        | ok cycles =>
          rw [actAll_cons]
          dsimp only
          split
          · rfl
          · exact ih c.step.2 _
        | error e => rfl

/-! ## The free run -/

namespace Loop

/-- Takes a step for each list of requests, which are made right before it. -/
def drive (l : Loop S) : List (List Request) → Loop S
  | [] => l
  | rs :: rest => ({ l with console := l.console.requestAll rs } : Loop S).step.drive rest

/-- The act of a step, if it has one. -/
def acts (l : Loop S) : List Act :=
  match l.phase with
  | .takeReset => [.takeReset]
  | .applyReset => [.reset]
  | .takeToggles => [.takeToggles]
  | .applyToggles n => if n = 0 then [] else [.toggleHalt]
  | .checkStop =>
    if l.console.control.stop then [.note (.loopStopped l.console.machine.registers.pc)] else []
  | .proceed => if l.console.isHalted then [.wait] else [.step]
  | .ended _ => []

theorem actAll_acts (l : Loop S) : l.console.actAll l.acts = l.step.console := by
  obtain ⟨c, phase⟩ := l
  cases phase with
  | takeReset => rfl
  | applyReset => rfl
  | takeToggles => rfl
  | applyToggles n =>
    unfold acts step
    dsimp only
    split <;> rfl
  | checkStop =>
    unfold acts step
    dsimp only
    split <;> rfl
  | proceed =>
    unfold acts step
    dsimp only
    split
    · rfl
    · split <;> rfl
  | ended result => rfl

/-- The acts of a schedule, requests included. -/
def driveActs (l : Loop S) : List (List Request) → List Act
  | [] => []
  | rs :: rest =>
    let asked : Loop S := { l with console := l.console.requestAll rs }
    rs.map .request ++ asked.acts ++ asked.step.driveActs rest

theorem actAll_driveActs (l : Loop S) (schedule : List (List Request)) :
    l.console.actAll (l.driveActs schedule) = (l.drive schedule).console := by
  induction schedule generalizing l with
  | nil => rfl
  | cons rs rest ih =>
    have stepped := actAll_acts { l with console := l.console.requestAll rs }
    dsimp only at stepped
    simp only [driveActs, drive]
    rw [actAll_append, actAll_append, actAll_request, stepped, ih]

/-- The requests that have arrived by now. -/
def due (l : Loop S) (arrivals : List Arrival) : List Request :=
  (arrivals.filter fun a => a.time ≤ l.console.clock.now).map (·.request)

omit [FrameSink S] in
theorem now_request (c : Console S) (r : Request) : (c.request r).clock = c.clock := by
  cases r <;> rfl

omit [FrameSink S] in
theorem deliver_eq (l : Loop S) (arrivals : List Arrival) :
    (l.deliver arrivals).1 = { l with console := l.console.requestAll (l.due arrivals) } := by
  induction arrivals generalizing l with
  | nil => rfl
  | cons a rest ih =>
    unfold deliver due
    by_cases arrived : a.time ≤ l.console.clock.now
    · rw [if_pos arrived, ih]
      simp only [due, now_request, List.filter_cons, arrived, decide_true, if_true, List.map_cons]
      rfl
    · rw [if_neg arrived]
      simp only [ih, due, List.filter_cons, arrived, decide_false, Bool.false_eq_true, if_false]

/-- A run with requests that arrive by the clock is a run by some schedule. -/
theorem run_eq_drive (l : Loop S) (arrivals : List Arrival) (fuel : Nat) :
    ∃ schedule, l.run arrivals fuel = l.drive schedule := by
  induction fuel generalizing l arrivals with
  | zero => exact ⟨[], rfl⟩
  | succ fuel ih =>
    unfold run
    split
    · exact ⟨[], rfl⟩
    · obtain ⟨schedule, run⟩ := ih (l.deliver arrivals).1.step (l.deliver arrivals).2
      refine ⟨l.due arrivals :: schedule, ?_⟩
      dsimp only
      rw [run, deliver_eq, drive]

end Loop

/-! ## Operations -/

/-- An act, a run until `n` more frames were finished or until vertical blank begins, or a free run
with a list of requests before each step of the loop, for as many steps. -/
inductive Operation where
  | act (a : Act)
  | runFrames (n : Nat)
  | runToBlank
  | run (schedule : List (List Request))

/-- Carries an operation out and returns how it has ended. -/
def operate (c : Console S) : Operation → Except Failure Unit × Console S
  | .act a => (.ok (), c.act a)
  | .runFrames n => c.runFrames n
  | .runToBlank => c.runToBlank
  | .run schedule =>
    let l := (Loop.start c).drive schedule
    (l.result, l.console)

/-- A free run with requests that arrive by the clock is one with some schedule. -/
theorem runFreely_eq_operate (c : Console S) (arrivals : List Loop.Arrival) (fuel : Nat) :
    ∃ schedule, runFreely c arrivals fuel = c.operate (.run schedule) := by
  obtain ⟨schedule, run⟩ := Loop.run_eq_drive (Loop.start c) arrivals fuel
  refine ⟨schedule, ?_⟩
  simp only [runFreely, operate, run]

/-- Carries operations out one after the other, whether or not they fail. -/
def operateAll (c : Console S) (os : List Operation) : Console S :=
  os.foldl (fun c o => (c.operate o).2) c

/-- The acts that an operation consists of. -/
def acts (c : Console S) : Operation → List Act
  | .act a => [a]
  | .runFrames n =>
    c.actsToFrame ((c.frameCount + n) % UInt64.size) ((n + 1) * dotsPerFrame)
  | .runToBlank =>
    c.actsForBlank c.frameCount 0 (2 * cyclesPerFrame) (2 * cyclesPerFrame)
  | .run schedule => .note .loopStarted :: (Loop.start c).driveActs schedule

/-- **Every operation is the sequence of its acts.** -/
theorem actAll_acts (c : Console S) (o : Operation) :
    c.actAll (c.acts o) = (c.operate o).2 := by
  cases o with
  | act a => rfl
  | runFrames n => exact actAll_actsToFrame c _ _
  | runToBlank => exact actAll_actsForBlank c _ _ _ _
  | run schedule => exact Loop.actAll_driveActs (Loop.start c) schedule

/-- The acts that operations consist of, one after the other. -/
def allActs (c : Console S) : List Operation → List Act
  | [] => []
  | o :: rest => c.acts o ++ (c.operate o).2.allActs rest

theorem actAll_allActs (c : Console S) (os : List Operation) :
    c.actAll (c.allActs os) = c.operateAll os := by
  induction os generalizing c with
  | nil => rfl
  | cons o rest ih =>
    rw [allActs, actAll_append, actAll_acts, ih]
    rfl

end Famicom.Console

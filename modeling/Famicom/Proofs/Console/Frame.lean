import Famicom.Console.Loop
import Famicom.Proofs.Picture.Beam

/-!
# What the operations of a console leave alone

The dials of a console are the count of cycles, the mark of a halted processor and the place of the
beam. Requests, pacing and notes in the journal do not move them, nor do single accesses.

* `request_eq`, `reset_eq`, `present_eq` and their neighbours: what each of these operations changes,
  as the console before it with some fields replaced.
* `dials_catchUpRound`: a round of catching up moves the beam, and counts the cycles of an interrupt
  if the beam has raised one.
* `isHalted_step`: executing an instruction never halts or resumes the processor.
* `control_step`: it does not touch the pending requests either, unless the sink makes some.
-/

namespace Famicom.Console

open Picture Processor

variable {S : Type}

/-! ## What the operations change -/

/-- What a request does to the run control. -/
def Control.request (c : Control) : Request → Control
  | .stop => c.requestStop
  | .reset => c.requestReset
  | .toggleHalt => c.requestHaltToggle
  | .press _ | .release _ => c

def Control.requestAll (c : Control) (rs : List Request) : Control := rs.foldl request c

/-- What a request does to the joypad. -/
def Request.handle : Request → Joypad → Joypad
  | .press button, j => j.press button
  | .release button, j => j.release button
  | .stop, j | .reset, j | .toggleHalt, j => j

def handleAll (rs : List Request) (j : Joypad) : Joypad := rs.foldl (fun j r => r.handle j) j

/-- A request concerns the run control and the joypad. -/
theorem request_eq (c : Console S) (r : Request) :
    c.request r =
      { c with
        machine := { c.machine with memory := c.bus.mapJoypad r.handle }
        control := c.control.request r } := by
  cases r <;> rfl

theorem requestAll_eq (c : Console S) (rs : List Request) :
    c.requestAll rs =
      { c with
        machine := { c.machine with memory := c.bus.mapJoypad (handleAll rs) }
        control := c.control.requestAll rs } := by
  induction rs generalizing c with
  | nil => rfl
  | cons r rs ih =>
    refine (ih (c.request r)).trans ?_
    rw [request_eq]
    rfl

theorem present_eq [FrameSink S] (c : Console S) (frame : Frame) :
    c.present frame =
      let r := FrameSink.present c.sink frame
      { c with
        machine := { c.machine with memory := c.bus.mapJoypad (handleAll r.2) }
        sink := r.1
        control := c.control.requestAll r.2 } :=
  requestAll_eq { c with sink := (FrameSink.present c.sink frame).1 } _

/-- A new schedule concerns the pacer and the clock. -/
theorem restartPacer_eq (c : Console S) :
    ∃ pacer clock, c.restartPacer = { c with pacer, clock } := by
  unfold restartPacer
  split
  · exact ⟨c.pacer, c.clock, rfl⟩
  · exact ⟨_, _, rfl⟩

theorem wait_eq (c : Console S) : ∃ pacer clock, Loop.wait c = { c with pacer, clock } :=
  restartPacer_eq { c with clock := c.clock.sleep (millisecond * c.settings.pollInterval) }

theorem reset_eq (c : Console S) :
    ∃ pacer clock, c.reset =
      note { c with machine := c.machine.reset, pacer, clock }
        (.consoleReset c.machine.reset.registers.pc) := by
  obtain ⟨pacer, clock, restarted⟩ := restartPacer_eq { c with machine := c.machine.reset }
  refine ⟨pacer, clock, ?_⟩
  unfold reset
  rw [restarted]

/-- Following the schedule concerns the pacer and the clock, and at most a note is made. -/
theorem throttle_cases (c : Console S) (cycles : Nat) :
    ∃ pacer clock, c.throttle cycles = { c with pacer, clock } ∨
      ∃ lag, c.throttle cycles = note { c with pacer, clock } (.scheduleRestarted lag) := by
  unfold throttle
  split
  · exact ⟨c.pacer, c.clock, .inl rfl⟩
  · rename_i p _
    generalize p.throttle c.clock cycles = r
    obtain ⟨verdict, q, clock⟩ := r
    refine ⟨some q, clock, ?_⟩
    cases verdict with
    | giveUp lag => exact .inr ⟨lag, rfl⟩
    | _ => exact .inl rfl

/-! ## Requests, pacing and single accesses -/

/-- The count of cycles, the mark of a halted processor and the place of the beam. -/
def dials (c : Console S) : Nat × Bool × Beam := c.machine.sheltered Bus.beam

@[simp] theorem dials_note (c : Console S) (e : Event) : (c.note e).dials = c.dials :=
  Machine.sheltered_note Bus.beam c.machine e

@[simp] theorem dials_request (c : Console S) (r : Request) : (c.request r).dials = c.dials := by
  rw [request_eq]
  rfl

@[simp] theorem dials_throttle (c : Console S) (cycles : Nat) :
    (c.throttle cycles).dials = c.dials := by
  obtain ⟨pacer, clock, same | ⟨lag, noted⟩⟩ := c.throttle_cases cycles
  · rw [same]
    rfl
  · rw [noted]
    rfl

theorem dials_read (c : Console S) (address : UInt16) : (c.read address).2.dials = c.dials :=
  Machine.sheltered_read Bus.beam c.machine address

theorem dials_write (c : Console S) (address : UInt16) (v : UInt8) :
    (c.write address v).dials = c.dials :=
  Machine.sheltered_write Bus.beam c.machine address v

theorem dials_updateRegisters (c : Console S) (f : Registers → Registers) :
    (c.updateRegisters f).dials = c.dials := rfl

theorem dials_wait (c : Console S) : (Loop.wait c).dials = c.dials := by
  obtain ⟨pacer, clock, restarted⟩ := c.wait_eq
  rw [restarted]
  rfl

theorem dials_reset (c : Console S) : c.reset.dials = (0, false, c.bus.beam) := by
  obtain ⟨pacer, clock, reset⟩ := c.reset_eq
  rw [reset, dials_note]
  exact Machine.sheltered_reset Bus.beam c.machine

/-- A new console runs, and the beam is at the start. -/
theorem dials_ofCartridge (cartridge : Cartridge) (joypad : Joypad) (sink : S)
    (settings : Settings) (clock : Clock) (journal : Journal) :
    (ofCartridge cartridge joypad sink settings clock journal).dials =
      (0, false, ⟨0, 0, 0, 0, false⟩) :=
  dials_reset _

theorem isHalted_ofCartridge (cartridge : Cartridge) (joypad : Joypad) (sink : S)
    (settings : Settings) (clock : Clock) (journal : Journal) :
    (ofCartridge cartridge joypad sink settings clock journal).isHalted = false :=
  congrArg (·.2.1) (dials_ofCartridge cartridge joypad sink settings clock journal)

theorem dials_toggleHalt (c : Console S) :
    c.toggleHalt.dials = (c.dials.1, !c.dials.2.1, c.dials.2.2) :=
  Machine.sheltered_toggleHalt Bus.beam c.machine

/-! ## Catching up and instructions -/

variable [FrameSink S]

@[simp] theorem dials_present (c : Console S) (frame : Frame) :
    (c.present frame).dials = c.dials := by
  rw [present_eq]
  rfl

/-- The console after the picture unit has caught up and a finished frame was presented, with an
interrupt still to be taken. -/
def elapsed (c : Console S) (pending : Nat) : Console S :=
  let r := c.bus.advance (pending * dotsPerCycle)
  let advanced := { c with machine := { c.machine with memory := r.2 } }
  if r.1.frameReady then advanced.present advanced.picture.frame else advanced

theorem catchUpRound_eq (c : Console S) (pending : Nat) :
    c.catchUpRound pending =
      if (c.bus.advance (pending * dotsPerCycle)).1.nmi then
        (interruptCycles,
          { c.elapsed pending with machine := (c.elapsed pending).machine.nmi.2 })
      else (0, c.elapsed pending) := rfl

theorem dials_elapsed (c : Console S) (pending : Nat) :
    (c.elapsed pending).dials =
      (c.dials.1, c.dials.2.1, (c.bus.advance (pending * dotsPerCycle)).2.beam) := by
  unfold elapsed
  dsimp only
  split
  · exact dials_present _ _
  · rfl

/-- What is pending after a round of catching up: the entry of an interrupt, if one was raised. -/
theorem pending_catchUpRound (c : Console S) (pending : Nat) :
    (c.catchUpRound pending).1 =
      if (c.bus.advance (pending * dotsPerCycle)).1.nmi then interruptCycles else 0 := by
  rw [catchUpRound_eq]
  split <;> rfl

theorem dials_catchUpRound (c : Console S) (pending : Nat) :
    (c.catchUpRound pending).2.dials =
      (c.dials.1 + (c.catchUpRound pending).1, c.dials.2.1,
        (c.bus.advance (pending * dotsPerCycle)).2.beam) := by
  rw [catchUpRound_eq]
  split
  · refine (Machine.sheltered_nmi Bus.beam (c.elapsed pending).machine).trans ?_
    rw [← dials, dials_elapsed]
    rfl
  · exact dials_elapsed c pending

/-- What no round of catching up changes, several of them do not change either. -/
theorem kept_catchUpRounds {α : Type} {look : Console S → α}
    (kept : ∀ c pending, look (c.catchUpRound pending).2 = look c) (c : Console S)
    (pending rounds : Nat) : look (c.catchUpRounds pending rounds).2 = look c := by
  induction rounds generalizing c pending with
  | zero => rfl
  | succ rounds ih =>
    unfold catchUpRounds
    split
    · rfl
    · exact (ih _ _).trans (kept c pending)

theorem isHalted_catchUpRounds (c : Console S) (pending rounds : Nat) :
    (c.catchUpRounds pending rounds).2.isHalted = c.isHalted :=
  kept_catchUpRounds (fun c pending => congrArg (·.2.1) (dials_catchUpRound c pending)) c pending
    rounds

theorem isHalted_catchUp (c : Console S) (cycles : Nat) :
    (c.catchUp cycles).2.isHalted = c.isHalted :=
  (congrArg (·.2.1) (dials_throttle _ _)).trans (isHalted_catchUpRounds c cycles 2)

/-- **Executing an instruction never halts or resumes the processor.** -/
theorem isHalted_step (c : Console S) : c.step.2.isHalted = c.isHalted := by
  have executed : c.machine.step.2.core.halted = c.machine.core.halted :=
    congrArg (·.2.1) (Machine.sheltered_step Bus.beam c.machine)
  unfold step
  dsimp only
  split
  · exact (isHalted_catchUp _ _).trans executed
  · exact executed

/-! ## Pending requests -/

/-- A sink that never makes requests. -/
class SilentSink (S : Type) [FrameSink S] : Prop where
  silent : ∀ (s : S) (frame : Frame), (FrameSink.present s frame).2 = []

instance : SilentSink NoSink := ⟨fun _ _ => rfl⟩

omit [FrameSink S] in
@[simp] theorem control_throttle (c : Console S) (cycles : Nat) :
    (c.throttle cycles).control = c.control := by
  obtain ⟨pacer, clock, same | ⟨lag, noted⟩⟩ := c.throttle_cases cycles
  · rw [same]
  · rw [noted]
    rfl

omit [FrameSink S] in
theorem control_wait (c : Console S) : (Loop.wait c).control = c.control := by
  obtain ⟨pacer, clock, restarted⟩ := c.wait_eq
  rw [restarted]

omit [FrameSink S] in
theorem control_reset (c : Console S) : c.reset.control = c.control := by
  obtain ⟨pacer, clock, reset⟩ := c.reset_eq
  rw [reset]
  rfl

omit [FrameSink S] in
/-- Nothing is asked of a new console. -/
theorem control_ofCartridge (cartridge : Cartridge) (joypad : Joypad) (sink : S)
    (settings : Settings) (clock : Clock) (journal : Journal) :
    (ofCartridge cartridge joypad sink settings clock journal).control = .idle :=
  control_reset _

variable [SilentSink S]

@[simp] theorem control_present (c : Console S) (frame : Frame) :
    (c.present frame).control = c.control := by
  rw [present_eq]
  dsimp only
  rw [SilentSink.silent]
  rfl

theorem control_elapsed (c : Console S) (pending : Nat) :
    (c.elapsed pending).control = c.control := by
  unfold elapsed
  dsimp only
  split
  · exact control_present _ _
  · rfl

theorem control_catchUpRound (c : Console S) (pending : Nat) :
    (c.catchUpRound pending).2.control = c.control := by
  rw [catchUpRound_eq]
  split <;> exact control_elapsed c pending

theorem control_catchUpRounds (c : Console S) (pending rounds : Nat) :
    (c.catchUpRounds pending rounds).2.control = c.control :=
  kept_catchUpRounds control_catchUpRound c pending rounds

/-- Executing an instruction keeps the pending requests, if the sink makes none. -/
theorem control_step (c : Console S) : c.step.2.control = c.control := by
  unfold step
  dsimp only
  split
  · exact (control_throttle _ _).trans (control_catchUpRounds _ _ 2)
  · rfl

end Famicom.Console

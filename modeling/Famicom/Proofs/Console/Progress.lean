import Famicom.Proofs.Console.Blank
import Famicom.Proofs.Console.Failing
import Famicom.Proofs.Console.Moves

/-!
# How a console makes progress

Whatever was done with a console, its beam keeps to the timetable. Every instruction that succeeds
takes a cycle at least and lets three dots pass for each cycle, so a running console reaches any
frame unless its processor faults.

* `Reachable`: what operations can make of a new console.
* `Live`: the console runs and its beam keeps to the timetable, as every console does that runs.
* `totalDots_step`: the dots that pass with an instruction are those of its cycles.
* `step_cases`: a step finishes no frame, or one that goes to the sink.
-/

namespace Famicom

open Picture Processor

/-! ## Instructions take time -/

namespace Processor

theorem Mode.cycles_pos (mode : Mode) (usage : Usage) : 0 < mode.cycles usage := by
  cases mode <;> cases usage <;> decide

theorem Instruction.cycles_pos (i : Instruction) : 0 < i.cycles := by
  unfold Instruction.cycles Processor.cycles
  split
  case h_9 => split <;> decide
  case h_10 => exact Mode.cycles_pos _ _
  all_goals decide

theorem Machine.cycles_pos {M : Type} [AddressSpace M] {s : Machine M}
    (running : s.core.halted = false) {cycles : Nat} (succeeds : s.step.1 = .ok cycles) :
    0 < cycles := by
  cases decoded : decode s.nextOpcode with
  | none =>
    rw [step_of_unknown running decoded] at succeeds
    cases succeeds
  | some i =>
    rw [step_of_decoded running decoded] at succeeds
    cases succeeds
    exact i.cycles_pos

end Processor

namespace Console

variable {S : Type}

/-! ## The timetable -/

/-- The beam is where the timetable has it after the dots that have passed. -/
def Timed (c : Console S) : Prop := c.picture.beam = .after c.picture.totalDots

namespace Timed

theorem of_beam {c d : Console S} (timed : c.Timed) (beam : d.picture.beam = c.picture.beam) :
    d.Timed := by
  have dots : d.picture.totalDots = c.picture.totalDots := congrArg Beam.totalDots beam
  unfold Timed
  rw [beam, dots]
  exact timed

theorem place {c : Console S} (timed : c.Timed) : c.picture.dot < dotsPerScanline := by
  have dot : c.picture.dot = c.picture.totalDots % 341 := congrArg Beam.dot timed
  rw [dot]
  exact Nat.mod_lt _ (by decide)

theorem frameCount {c : Console S} (timed : c.Timed) :
    c.frameCount = (c.picture.totalDots / 341 + 21) / 262 := congrArg Beam.frameCount timed

/-- A frame is finished once in so many dots. -/
theorem reached {c : Console S} (timed : c.Timed) {target : Nat}
    (passed : target * dotsPerFrame ≤ c.picture.totalDots) : target ≤ c.frameCount := by
  have dots : dotsPerFrame = 89342 := rfl
  rw [dots] at passed
  rw [timed.frameCount]
  omega

/-- So many dots have passed when a frame is finished, at least. -/
theorem frames_le {c : Console S} (timed : c.Timed) :
    c.frameCount * dotsPerFrame ≤ c.picture.totalDots + 7161 := by
  have dots : dotsPerFrame = 89342 := rfl
  rw [dots, timed.frameCount]
  omega

theorem lt_frames {c : Console S} (timed : c.Timed) :
    c.picture.totalDots + 7161 < (c.frameCount + 1) * dotsPerFrame := by
  have dots : dotsPerFrame = 89342 := rfl
  rw [dots, timed.frameCount]
  omega

theorem ofCartridge (cartridge : Cartridge) (joypad : Joypad) (sink : S) (settings : Settings)
    (clock : Clock) (journal : Journal) :
    (Console.ofCartridge cartridge joypad sink settings clock journal).Timed := by
  have beam : (Console.ofCartridge cartridge joypad sink settings clock journal).picture.beam =
      ⟨0, 0, 0, 0, false⟩ :=
    congrArg (·.2.2) (dials_ofCartridge cartridge joypad sink settings clock journal)
  have dots : (Console.ofCartridge cartridge joypad sink settings clock journal).picture.totalDots =
      0 := congrArg Beam.totalDots beam
  unfold Timed
  rw [beam, dots]
  rfl

variable [FrameSink S]

theorem catchUpRound {c : Console S} (timed : c.Timed) {pending : Nat}
    (few : pending ≤ interruptCycles) : (c.catchUpRound pending).2.Timed := by
  have beam : (c.catchUpRound pending).2.picture.beam = .after _ :=
    (congrArg (·.2.2) (dials_catchUpRound c pending)).trans
      (PictureUnit.beam_advance timed (counts_of_le timed.place few))
  have dots : (c.catchUpRound pending).2.picture.totalDots =
      c.picture.totalDots + pending * dotsPerCycle := congrArg Beam.totalDots beam
  unfold Timed
  rw [dots]
  exact beam

theorem catchUpRounds {c : Console S} (timed : c.Timed) {pending : Nat}
    (few : pending ≤ interruptCycles) (rounds : Nat) :
    (c.catchUpRounds pending rounds).2.Timed := by
  induction rounds generalizing c pending with
  | zero => exact timed
  | succ rounds ih =>
    unfold Console.catchUpRounds
    split
    · exact timed
    · refine ih (timed.catchUpRound few) ?_
      rw [pending_catchUpRound]
      split <;> decide

theorem catchUp {c : Console S} (timed : c.Timed) {cycles : Nat} (few : cycles ≤ interruptCycles) :
    (c.catchUp cycles).2.Timed :=
  (timed.catchUpRounds few 2).of_beam (congrArg (·.2.2) (dials_throttle _ _))

/-- **No act takes the beam off the timetable.** -/
theorem act {c : Console S} (timed : c.Timed) (a : Act) : (c.act a).Timed := by
  obtain ⟨-, beam⟩ | ⟨d, cycles, acts, few, -, beam⟩ := act_cases c a
  · exact timed.of_beam beam
  · rw [acts]
    exact (timed.of_beam beam).catchUp few

theorem actAll {c : Console S} (timed : c.Timed) (as : List Act) : (c.actAll as).Timed := by
  induction as generalizing c with
  | nil => exact timed
  | cons a rest ih => exact ih (timed.act a)

end Timed

/-- The console comes from a new one by operations. -/
def Reachable [FrameSink S] (c : Console S) : Prop :=
  ∃ (cartridge : Cartridge) (joypad : Joypad) (sink : S) (settings : Settings) (clock : Clock)
    (journal : Journal) (os : List Operation),
    c = (ofCartridge cartridge joypad sink settings clock journal).operateAll os

theorem Reachable.timed [FrameSink S] {c : Console S} (reachable : c.Reachable) : c.Timed := by
  obtain ⟨cartridge, joypad, sink, settings, clock, journal, os, rfl⟩ := reachable
  rw [← actAll_allActs]
  exact (Timed.ofCartridge cartridge joypad sink settings clock journal).actAll _

/-- A console that runs, with its beam on the timetable. -/
structure Live (c : Console S) : Prop where
  timed : c.Timed
  running : c.isHalted = false

/-! ## Steps -/

variable [FrameSink S]

/-- Three dots pass for every cycle that is caught up with. -/
theorem totalDots_catchUpRounds (c : Console S) (pending rounds : Nat) :
    (c.catchUpRounds pending rounds).2.picture.totalDots =
      c.picture.totalDots + (c.catchUpRounds pending rounds).1 * dotsPerCycle := by
  induction rounds generalizing c pending with
  | zero => rfl
  | succ rounds ih =>
    have round : (c.catchUpRound pending).2.picture.totalDots =
        c.picture.totalDots + pending * dotsPerCycle :=
      (congrArg (·.2.2.totalDots) (dials_catchUpRound c pending)).trans
        (PictureUnit.totalDots_advance _ _)
    unfold catchUpRounds
    split
    · rfl
    · dsimp only
      rw [ih, round, Nat.add_mul, Nat.add_assoc]

/-- **The dots that pass with an instruction are those of its cycles**, an interrupt included. -/
theorem totalDots_step {c : Console S} {cycles : Nat} (succeeds : c.step.1 = .ok cycles) :
    c.step.2.picture.totalDots = c.picture.totalDots + cycles * dotsPerCycle := by
  have executed : c.executed.picture.totalDots = c.picture.totalDots :=
    congrArg (·.2.2.totalDots) (Machine.sheltered_step Bus.beam c.machine)
  unfold step at succeeds ⊢
  dsimp only at succeeds ⊢
  split at succeeds
  · rename_i spent _
    obtain rfl : (c.executed.catchUp spent).1 = cycles := Except.ok.inj succeeds
    have throttled : (c.executed.catchUp spent).2.picture.totalDots =
        (c.executed.catchUpRounds spent 2).2.picture.totalDots :=
      congrArg (·.2.2.totalDots) (dials_throttle _ _)
    exact throttled.trans ((totalDots_catchUpRounds _ _ _).trans (by rw [executed]; rfl))
  · cases succeeds

omit [FrameSink S] in
theorem control_pass (c : Console S) (cycles : Nat) : (c.pass cycles).control = c.control := rfl

omit [FrameSink S] in
theorem control_enterNmi (c : Console S) : c.enterNmi.control = c.control := rfl

/-- The sink makes its requests when it is shown a frame. -/
theorem control_deliver (c : Console S) (cycles : Nat) :
    (c.deliver cycles).2.control =
      if c.BlankWithin cycles then
        c.control.requestAll (FrameSink.present c.sink (c.finished cycles)).2
      else c.control := by
  unfold deliver
  dsimp only
  split
  · split
    · rw [control_pass, control_enterNmi, control_present_eq, control_pass, sink_pass]
      rfl
    · rw [control_present_eq, control_pass, sink_pass]
      rfl
  · rfl

/-- **A step finishes no frame, or one that goes to the sink**, and only then the sink makes
requests. -/
theorem step_cases {c : Console S} (place : c.picture.dot < dotsPerScanline) {cycles : Nat}
    (succeeds : c.step.1 = .ok cycles) :
    (c.step.2.frameCount = c.frameCount ∧ c.step.2.sink = c.sink ∧
        c.step.2.control = c.control) ∨
      ∃ frame, c.step.2.frameCount = c.frameCount + 1 ∧
        c.step.2.sink = (FrameSink.present c.sink frame).1 ∧
        c.step.2.control = c.control.requestAll (FrameSink.present c.sink frame).2 := by
  obtain ⟨spent, result⟩ := executes_of_ok succeeds
  have delivered := deliversOnce_of_step place result
  have control : c.step.2.control = (c.executed.deliver spent).2.control := by
    rw [delivered.whole]
    exact control_throttle _ _
  have frames := delivered.frames
  have sink := delivered.presents
  rw [control_deliver] at control
  by_cases begins : c.executed.BlankWithin spent
  · rw [if_pos begins] at frames sink control
    exact .inr ⟨c.executed.finished spent, frames, sink, control⟩
  · rw [if_neg begins] at frames sink control
    exact .inl ⟨frames, sink, control⟩

namespace Live

variable {c : Console S}

theorem step (live : c.Live) : c.step.2.Live :=
  ⟨live.timed.act .step, (isHalted_step c).trans live.running⟩

/-- An instruction that succeeds takes a cycle at least. -/
theorem cycles_pos (live : c.Live) {cycles : Nat} (succeeds : c.step.1 = .ok cycles) :
    0 < cycles := by
  obtain ⟨spent, result⟩ := executes_of_ok succeeds
  have positive : 0 < spent := Machine.cycles_pos live.running result
  rw [(deliversOnce_of_step live.timed.place result).returns] at succeeds
  obtain rfl := Except.ok.inj succeeds
  split <;> omega

end Live

end Console

end Famicom

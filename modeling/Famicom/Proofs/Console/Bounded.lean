import Famicom.Proofs.Console.Drivers

/-!
# Bounded runs

A run to a number of frames and a run to vertical blank execute instructions in a loop, and what ends
the loop is not in sight of it: the frames are counted by the picture unit. The loop ends all the
same, with the very instruction that finishes the last frame, unless the processor is halted or
faults on the way. An instruction with its interrupt takes 42 dots at most, so the beam is still at
the beginning of vertical blank then.

* `blankBegun_of_step`: where the beam is after an instruction that finishes a frame.
* `RunsTo.shows`: every frame on the way is shown once.
* `RunsTo.outcome`: the instructions of a run, and the two ways it ends.
* `runFrames_exact`: a run to a number of frames, whatever was done with the console before.
* `runToBlank_exact`: a run to vertical blank, which its limit on the cycles never cuts short.
-/

namespace Famicom.Console

open Picture Processor

variable {S : Type} [FrameSink S]

/-! ## The way of a run -/

/-- The console after so many instructions. -/
def afterSteps (c : Console S) : (k : Nat) → Console S
  | 0 => c
  | k + 1 => c.step.2.afterSteps k

/-- `k` instructions succeed one after the other, each with fewer than `target` frames finished
before it. -/
def Proceeds (c : Console S) (target k : Nat) : Prop :=
  ∀ j < k, (c.afterSteps j).frameCount < target ∧ ∃ cycles, (c.afterSteps j).step.1 = .ok cycles

theorem Proceeds.zero (c : Console S) (target : Nat) : c.Proceeds target 0 :=
  fun _ bound => absurd bound (Nat.not_lt_zero _)

theorem Proceeds.succ {c : Console S} {target k cycles : Nat} (short : c.frameCount < target)
    (succeeds : c.step.1 = .ok cycles) (rest : c.step.2.Proceeds target k) :
    c.Proceeds target (k + 1) := by
  intro j before
  cases j with
  | zero => exact ⟨short, cycles, succeeds⟩
  | succ j => exact rest j (Nat.lt_of_succ_lt_succ before)

theorem Proceeds.tail {c : Console S} {target k : Nat} (proceeds : c.Proceeds target (k + 1)) :
    c.step.2.Proceeds target k := fun j before => proceeds (j + 1) (Nat.succ_lt_succ before)

/-- On the way to a frame it is not passed. -/
theorem Proceeds.frameCount_le {c : Console S} {target k : Nat} (proceeds : c.Proceeds target k)
    (live : c.Live) (before : c.frameCount ≤ target) :
    ∀ j ≤ k, (c.afterSteps j).frameCount ≤ target := by
  intro j onTheWay
  induction j generalizing c k with
  | zero => exact before
  | succ j ih =>
    obtain ⟨k, rfl⟩ := Nat.exists_eq_succ_of_ne_zero (Nat.ne_zero_of_lt onTheWay)
    obtain ⟨short, cycles, succeeds⟩ := proceeds 0 (Nat.succ_pos k)
    refine ih proceeds.tail live.step ?_ (Nat.le_of_succ_le_succ onTheWay)
    obtain ⟨same, -⟩ | ⟨frame, next, -⟩ := step_cases live.timed.place succeeds
    · rw [same]
      exact before
    · rw [next]
      exact short

/-- A run is some number of instructions that succeed, and then its frame is reached or the next
instruction fails. -/
theorem RunsTo.course {t : Nat} {c d : Console S} {r : Except Failure Unit} (run : RunsTo t c r d) :
    ∃ k, c.Proceeds t k ∧
      ((r = .ok () ∧ d = c.afterSteps k ∧ t ≤ d.frameCount) ∨
        ∃ fault, r = .error (.fault fault) ∧ (c.afterSteps k).frameCount < t ∧
          (c.afterSteps k).step = (.error fault, d)) := by
  induction run with
  | arrived reached => exact ⟨0, .zero _ _, .inl ⟨rfl, rfl, reached⟩⟩
  | step short succeeds _ ih =>
    obtain ⟨k, proceeds, ends⟩ := ih
    exact ⟨k + 1, .succ short succeeds proceeds, ends⟩
  | fault short fails => exact ⟨0, .zero _ _, .inr ⟨_, rfl, short, Prod.ext fails rfl⟩⟩

/-! ## The frames on the way -/

/-- So many frames were finished between two states of a console, and the sink was shown each of
them once. -/
structure Shows (c d : Console S) (n : Nat) : Prop where
  frames : d.frameCount = c.frameCount + n
  sink : ∃ shown : List Frame, shown.length = n ∧
    d.sink = shown.foldl (fun s frame => (FrameSink.present s frame).1) c.sink

namespace Shows

theorem none {c d : Console S} (frames : d.frameCount = c.frameCount) (sink : d.sink = c.sink) :
    Shows c d 0 :=
  ⟨frames, [], rfl, sink⟩

theorem trans {c d e : Console S} {m n : Nat} (first : Shows c d m) (second : Shows d e n) :
    Shows c e (m + n) := by
  obtain ⟨earlier, shown, sink⟩ := first.sink
  obtain ⟨later, more, sink'⟩ := second.sink
  refine ⟨?_, earlier ++ later, ?_, ?_⟩
  · rw [second.frames, first.frames, Nat.add_assoc]
  · rw [List.length_append, shown, more]
  · rw [List.foldl_append, ← sink, sink']

theorem of_step {c : Console S} (live : c.Live) {cycles : Nat} (succeeds : c.step.1 = .ok cycles) :
    ∃ n, Shows c c.step.2 n := by
  obtain ⟨frames, sink, -⟩ | ⟨frame, frames, sink, -⟩ := step_cases live.timed.place succeeds
  · exact ⟨0, .none frames sink⟩
  · exact ⟨1, frames, [frame], rfl, sink⟩

theorem of_fault {c : Console S} {fault : Fault} (fails : c.step.1 = .error fault) :
    Shows c c.step.2 0 :=
  .none (congrArg Beam.frameCount (failsWith_of_error fails).beam) (failsWith_of_error fails).sink

end Shows

/-- **Every frame that a run finishes is shown once.** -/
theorem RunsTo.shows {t : Nat} {c d : Console S} {r : Except Failure Unit} (run : RunsTo t c r d)
    (live : c.Live) : ∃ n, Shows c d n := by
  induction run with
  | arrived => exact ⟨0, .none rfl rfl⟩
  | step _ succeeds _ ih =>
    obtain ⟨m, first⟩ := Shows.of_step live succeeds
    obtain ⟨n, rest⟩ := ih live.step
    exact ⟨m + n, first.trans rest⟩
  | fault _ fails => exact ⟨0, .of_fault fails⟩

/-! ## Where a run ends -/

/-- The beam is at the beginning of vertical blank. -/
structure BlankBegun (c : Console S) : Prop where
  scanline : c.picture.scanline = 241
  inBlank : c.picture.inBlank = true
  dot : c.picture.dot ≤ 41

/-- An instruction takes no more cycles than the entries of two interrupts; one of them may be its
own. -/
theorem Live.cycles_le {c : Console S} (live : c.Live) {cycles : Nat}
    (succeeds : c.step.1 = .ok cycles) : cycles ≤ 2 * interruptCycles := by
  obtain ⟨spent, result⟩ := executes_of_ok succeeds
  have short := Machine.cyclesSpent_step_le c.machine
  rw [result] at short
  have few : spent ≤ interruptCycles := short
  have entry : interruptCycles = 7 := rfl
  rw [(deliversOnce_of_step live.timed.place result).returns] at succeeds
  obtain rfl := Except.ok.inj succeeds
  split <;> omega

/-- **An instruction that finishes a frame leaves the beam at the beginning of vertical blank.** It
is 42 dots long at most, and the last of them that belongs to the scanline before is its dot 340 at
most. -/
theorem blankBegun_of_step {c : Console S} (live : c.Live) {cycles : Nat}
    (succeeds : c.step.1 = .ok cycles) (finishes : c.frameCount < c.step.2.frameCount) :
    c.step.2.BlankBegun := by
  have few : cycles * dotsPerCycle ≤ 42 :=
    Nat.mul_le_mul_right dotsPerCycle (live.cycles_le succeeds)
  have passed := totalDots_step succeeds
  have before := live.timed.frameCount
  have after := live.step.timed
  have frames := after.frameCount
  -- At most one scanline is completed, and it is the one before vertical blank.
  have line : c.step.2.picture.totalDots / 341 % 262 = 241 := by omega
  have dot : c.step.2.picture.totalDots % 341 ≤ 41 := by omega
  refine ⟨(congrArg Beam.scanline after).trans line, (congrArg Beam.inBlank after).trans ?_, ?_⟩
  · change decide (241 ≤ c.step.2.picture.totalDots / 341 % 262 ∧
      c.step.2.picture.totalDots / 341 % 262 ≤ 260) = true
    rw [line]
    rfl
  · exact (congrArg Beam.dot after).trans_le dot

/-- A run that finishes a frame ends with the instruction that does. -/
theorem RunsTo.blankBegun {t : Nat} {c d : Console S} (run : RunsTo t c (.ok ()) d) (live : c.Live)
    (more : c.frameCount < t) : d.BlankBegun := by
  generalize ended : Except.ok () = well at run
  induction run with
  | arrived reached => exact absurd reached (Nat.not_le.mpr more)
  | @step c d cycles r _ succeeds rest ih =>
    by_cases short : c.step.2.frameCount < t
    · exact ih live.step short ended
    · have reached : t ≤ c.step.2.frameCount := Nat.not_lt.mp short
      -- There is one way on from a frame that is reached, which is to stay there.
      obtain ⟨-, rfl⟩ := rest.unique (.arrived reached)
      exact blankBegun_of_step live succeeds (Nat.lt_of_lt_of_le more reached)
  | fault => cases ended

/-! ## The counters on the way -/

/-- The counters of a console are numbers of sixty-four bits. -/
structure CountersFit (c : Console S) : Prop where
  dots : c.picture.totalDots < UInt64.size
  frames : c.frameCount < UInt64.size
  cycles : c.machine.core.totalCycles < UInt64.size

theorem spentSinceReset_le (log : List Work) : spentSinceReset log ≤ spent log := by
  induction log using List.reverseRecOn with
  | nil => exact Nat.le_refl _
  | append_singleton log w ih =>
    rw [spentSinceReset_append_singleton, spent_append_singleton]
    split <;> omega

namespace Reachable

variable {c : Console S}

/-- The processor counts no more cycles than three dots have passed for. -/
theorem totalCycles_le (reachable : c.Reachable) :
    dotsPerCycle * c.machine.core.totalCycles ≤ c.picture.totalDots := by
  obtain ⟨cartridge, joypad, sink, settings, clock, journal, os, rfl⟩ := reachable
  obtain ⟨dots, cycles, -⟩ := lockstep cartridge joypad sink settings clock journal os
  rw [dots, cycles]
  exact Nat.mul_le_mul_left _ (spentSinceReset_le _)

theorem operate (reachable : c.Reachable) (o : Operation) : (c.operate o).2.Reachable := by
  obtain ⟨cartridge, joypad, sink, settings, clock, journal, os, rfl⟩ := reachable
  refine ⟨cartridge, joypad, sink, settings, clock, journal, os ++ [o], ?_⟩
  simp only [operateAll, List.foldl_append, List.foldl_cons, List.foldl_nil]

theorem afterSteps (reachable : c.Reachable) (k : Nat) : (c.afterSteps k).Reachable := by
  induction k generalizing c with
  | zero => exact reachable
  | succ k ih => exact ih (reachable.operate (.act .step))

/-- **A console with few frames has no large counter.** -/
theorem countersFit (reachable : c.Reachable) {target : Nat} (few : c.frameCount ≤ target)
    (fits : (target + 1) * dotsPerFrame < UInt64.size) : c.CountersFit := by
  have frames : (c.frameCount + 1) * dotsPerFrame ≤ (target + 1) * dotsPerFrame :=
    Nat.mul_le_mul_right _ (Nat.succ_le_succ few)
  have more : c.frameCount + 1 ≤ (c.frameCount + 1) * dotsPerFrame :=
    Nat.le_mul_of_pos_right _ (by decide)
  have dots := reachable.timed.lt_frames
  have cycles := reachable.totalCycles_le
  rw [dotsPerCycle] at cycles
  exact ⟨by omega, by omega, by omega⟩

end Reachable

/-! ## The outcome of a run -/

/-- A run has succeeded after `k` instructions: `n` frames were finished and shown. -/
structure Completed (c : Console S) (n k : Nat) (r : Except Failure Unit × Console S) : Prop where
  result : r.1 = .ok ()
  state : r.2 = c.afterSteps k
  shows : Shows c r.2 n
  blank : 0 < n → r.2.BlankBegun

/-- A run was ended by the fault of the instruction after `k` others, with fewer than `n` frames
finished and shown. -/
structure Faulted (c : Console S) (n k : Nat) (fault : Fault)
    (r : Except Failure Unit × Console S) : Prop where
  result : r.1 = .error (.fault fault)
  fails : (c.afterSteps k).step = (.error fault, r.2)
  shows : ∃ m < n, Shows c r.2 m

/-- A run for `n` frames executes `k` instructions that succeed. Then all frames are finished or the
next instruction fails. No counter leaves sixty-four bits on the way, unless one was about to. -/
structure Outcome (c : Console S) (n k : Nat) (r : Except Failure Unit × Console S) : Prop where
  proceeds : c.Proceeds (c.frameCount + n) k
  ends : c.Completed n k r ∨ ∃ fault, c.Faulted n k fault r
  counters : (c.frameCount + n + 1) * dotsPerFrame < UInt64.size →
    ∀ j ≤ k, (c.afterSteps j).CountersFit

theorem Outcome.result {c : Console S} {n k : Nat} {r : Except Failure Unit × Console S}
    (outcome : c.Outcome n k r) : r.1 = .ok () ∨ ∃ fault, r.1 = .error (.fault fault) := by
  obtain completed | ⟨fault, faulted⟩ := outcome.ends
  · exact .inl completed.result
  · exact .inr ⟨fault, faulted.result⟩

/-- **Running to a frame has such an outcome.** -/
theorem RunsTo.outcome {n : Nat} {c : Console S} {r : Except Failure Unit × Console S}
    (run : RunsTo (c.frameCount + n) c r.1 r.2) (reachable : c.Reachable)
    (running : c.isHalted = false) : ∃ k, c.Outcome n k r := by
  have live : c.Live := ⟨reachable.timed, running⟩
  have before : c.frameCount ≤ c.frameCount + n := Nat.le_add_right _ _
  obtain ⟨k, proceeds, ends⟩ := run.course
  obtain ⟨m, shows⟩ := run.shows live
  refine ⟨k, proceeds, ?_, fun fits j onTheWay =>
    (reachable.afterSteps j).countersFit (proceeds.frameCount_le live before j onTheWay) fits⟩
  obtain ⟨result, state, -⟩ | ⟨fault, result, short, fails⟩ := ends
  · rw [result] at run
    obtain ⟨-, frames⟩ := run.live live before
    obtain rfl : m = n := Nat.add_left_cancel (shows.frames.symm.trans frames)
    exact .inl ⟨result, state, shows,
      fun positive => run.blankBegun live (Nat.lt_add_of_pos_right positive)⟩
  · -- The instruction that fails finishes no frame.
    have still := (Shows.of_fault (congrArg Prod.fst fails)).frames
    rw [fails, Nat.add_zero] at still
    rw [← still, shows.frames] at short
    exact .inr ⟨fault, result, fails, m, Nat.lt_of_add_lt_add_left short, shows⟩

/-- A run that asks for no frame has its outcome at once. -/
theorem Outcome.none {c : Console S} (reachable : c.Reachable) : c.Outcome 0 0 (.ok (), c) where
  proceeds := .zero _ _
  ends := .inl ⟨rfl, rfl, .none rfl rfl, fun positive => absurd positive (Nat.lt_irrefl 0)⟩
  counters fits j bound := by
    rw [Nat.le_zero.mp bound]
    exact reachable.countersFit (Nat.le_refl _) fits

/-! ## A run to a number of frames -/

theorem runToFrame_of_reached {c : Console S} {target : Nat} (reached : target ≤ c.frameCount)
    (fuel : Nat) : c.runToFrame target fuel = (.ok (), c) := by
  cases fuel with
  | zero => rfl
  | succ fuel => exact if_pos reached

theorem runToFrame_of_halted {c : Console S} {target : Nat} (short : c.frameCount < target)
    (halted : c.isHalted = true) {fuel : Nat} (positive : 0 < fuel) :
    c.runToFrame target fuel = (.error .halted, c) := by
  obtain ⟨fuel, rfl⟩ := Nat.exists_eq_succ_of_ne_zero positive.ne'
  exact (if_neg (Nat.not_le.mpr short)).trans (if_pos halted)

theorem runFrames_eq {c : Console S} {n : Nat} (fits : c.frameCount + n < UInt64.size) :
    c.runFrames n = c.runToFrame (c.frameCount + n) ((n + 1) * dotsPerFrame) := by
  unfold runFrames
  rw [Nat.mod_eq_of_lt fits]

/-- The bound on the instructions of a run is never what ends it. -/
theorem runToFrame_of_enough {c : Console S} (timed : c.Timed) {n fuel : Nat}
    (fits : c.frameCount + n < UInt64.size) (enough : (n + 1) * dotsPerFrame ≤ fuel) :
    c.runToFrame (c.frameCount + n) fuel = c.runFrames n := by
  have least : 0 < (n + 1) * dotsPerFrame := Nat.mul_pos (Nat.succ_pos n) (by decide)
  obtain rfl | more := Nat.eq_zero_or_pos n
  · have reached : c.frameCount + 0 ≤ c.frameCount := Nat.le_refl _
    rw [runFrames_eq fits, runToFrame_of_reached reached, runToFrame_of_reached reached]
  · have short : c.frameCount < c.frameCount + n := Nat.lt_add_of_pos_right more
    cases halted : c.isHalted with
    | true =>
      rw [runFrames_eq fits, runToFrame_of_halted short halted least,
        runToFrame_of_halted short halted (Nat.lt_of_lt_of_le least enough)]
    | false =>
      have live : c.Live := ⟨timed, halted⟩
      have frames := timed.frames_le
      have entry : 7161 ≤ dotsPerFrame := by decide
      have longer : RunsTo (c.frameCount + n) c (c.runToFrame (c.frameCount + n) fuel).1
          (c.runToFrame (c.frameCount + n) fuel).2 := by
        refine runsTo_runToFrame live ?_
        rw [Nat.add_mul] at enough ⊢
        omega
      exact Prod.ext_iff.mpr (longer.unique (runsTo_runFrames live fits))

/-- **A bounded run is exact and always ends.** Whatever was done with a console before and whatever
program it executes, a run for `n` frames ends: no larger bound on its instructions makes it longer.
It reports a halted processor exactly if the processor is halted and a frame is asked for, and then
nothing has changed. Otherwise it executes some number of instructions that succeed, and either
exactly `n` frames were finished and shown and the beam has just entered vertical blank, or the next
instruction fails and fewer were. The counters are unbounded here, and what is assumed keeps all of
them within sixty-four bits. -/
theorem runFrames_exact (c : Console S) (reachable : c.Reachable) (n : Nat)
    (fits : (c.frameCount + n + 1) * dotsPerFrame < UInt64.size) :
    (∀ fuel, (n + 1) * dotsPerFrame ≤ fuel →
        c.runToFrame (c.frameCount + n) fuel = c.runFrames n) ∧
      ((c.runFrames n).1 = .error .halted ↔ c.isHalted = true ∧ 0 < n) ∧
      ((c.runFrames n).1 = .error .halted → (c.runFrames n).2 = c) ∧
      ((c.runFrames n).1 ≠ .error .halted → ∃ k, c.Outcome n k (c.runFrames n)) := by
  have few : c.frameCount + n < UInt64.size := by
    have more : c.frameCount + n + 1 ≤ (c.frameCount + n + 1) * dotsPerFrame :=
      Nat.le_mul_of_pos_right _ (by decide)
    exact Nat.lt_of_succ_lt (more.trans_lt fits)
  have least : 0 < (n + 1) * dotsPerFrame := Nat.mul_pos (Nat.succ_pos n) (by decide)
  refine ⟨fun fuel enough => runToFrame_of_enough reachable.timed few enough, ?_⟩
  by_cases stuck : c.isHalted = true ∧ 0 < n
  · have halts : c.runFrames n = (.error .halted, c) :=
      (runFrames_eq few).trans
        (runToFrame_of_halted (Nat.lt_add_of_pos_right stuck.2) stuck.1 least)
    rw [halts]
    exact ⟨iff_of_true rfl stuck, fun _ => rfl, fun other => absurd rfl other⟩
  · have outcome : ∃ k, c.Outcome n k (c.runFrames n) := by
      obtain rfl | more := Nat.eq_zero_or_pos n
      · have stays : c.runFrames 0 = (.ok (), c) :=
          (runFrames_eq few).trans (runToFrame_of_reached (Nat.le_refl _) _)
        rw [stays]
        exact ⟨0, .none reachable⟩
      · have running : c.isHalted = false :=
          Bool.eq_false_iff.mpr fun halted => stuck ⟨halted, more⟩
        exact (runsTo_runFrames ⟨reachable.timed, running⟩ few).outcome reachable running
    have free : (c.runFrames n).1 ≠ .error .halted := by
      obtain ⟨k, ended⟩ := outcome
      obtain result | ⟨fault, result⟩ := ended.result <;> rw [result] <;> nofun
    exact ⟨iff_of_false free stuck, fun halts => absurd halts free, fun _ => outcome⟩

theorem runFrames_exact_of_jumper :
    let c : Console NoSink := headless jumper .standard
    c.Reachable ∧ (c.frameCount + 2 + 1) * dotsPerFrame < UInt64.size ∧
      ∃ k, c.Outcome 2 k (c.runFrames 2) := by
  intro c
  have reachable : c.Reachable := ⟨jumper, .released, ⟨⟩, .standard, default, .quiet, [], rfl⟩
  have running : c.isHalted = false := isHalted_ofCartridge _ _ _ _ _ _
  have first : c.frameCount = 0 :=
    congrArg (·.2.2.frameCount)
      (dials_ofCartridge jumper .released (⟨⟩ : NoSink) .standard default .quiet)
  have fits : (c.frameCount + 2 + 1) * dotsPerFrame < UInt64.size := by
    rw [first]
    decide
  obtain ⟨-, halts, -, outcome⟩ := runFrames_exact c reachable 2 fits
  refine ⟨reachable, fits, outcome fun stuck => ?_⟩
  rw [(halts.mp stuck).1] at running
  cases running

/-! ## A run to vertical blank -/

theorem runForBlank_of_halted {c : Console S} (halted : c.isHalted = true)
    {start spent limit fuel : Nat} (within : spent < limit) (positive : 0 < fuel) :
    c.runForBlank start spent limit fuel = (.error .halted, c) := by
  obtain ⟨fuel, rfl⟩ := Nat.exists_eq_succ_of_ne_zero positive.ne'
  exact (if_neg (Nat.not_le.mpr within)).trans (if_pos halted)

/-- **A run to vertical blank never times out.** Whatever was done with a console before, and wherever
its beam is, the limit of two frames does not cut the run short. It reports a halted processor, which
changes nothing; otherwise it executes some number of instructions that succeed, and either one
frame was finished and shown and the beam has just entered vertical blank, or the next instruction
fails before that. -/
theorem runToBlank_exact (c : Console S) (reachable : c.Reachable) :
    (∀ cycles, c.runToBlank.1 ≠ .error (.blankTimeout cycles)) ∧
      (c.isHalted = true → c.runToBlank = (.error .halted, c)) ∧
      (c.isHalted = false → ∃ k, c.Outcome 1 k c.runToBlank) := by
  have stuck (halted : c.isHalted = true) : c.runToBlank = (.error .halted, c) :=
    runForBlank_of_halted halted (by decide) (by decide)
  have outcome (running : c.isHalted = false) : ∃ k, c.Outcome 1 k c.runToBlank :=
    (runsTo_runToBlank ⟨reachable.timed, running⟩).outcome reachable running
  refine ⟨fun cycles => ?_, stuck, outcome⟩
  cases halted : c.isHalted with
  | true =>
    rw [stuck halted]
    nofun
  | false =>
    obtain ⟨k, ended⟩ := outcome halted
    obtain result | ⟨fault, result⟩ := ended.result <;> rw [result] <;> nofun

theorem runToBlank_exact_of_jumper :
    let c : Console NoSink := headless jumper .standard
    c.Reachable ∧ (∀ cycles, c.runToBlank.1 ≠ .error (.blankTimeout cycles)) ∧
      ∃ k, c.Outcome 1 k c.runToBlank := by
  intro c
  have reachable : c.Reachable := ⟨jumper, .released, ⟨⟩, .standard, default, .quiet, [], rfl⟩
  obtain ⟨inTime, -, outcome⟩ := runToBlank_exact c reachable
  exact ⟨reachable, inTime, outcome (isHalted_ofCartridge _ _ _ _ _ _)⟩

end Famicom.Console

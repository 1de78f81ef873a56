import Famicom.Proofs.Console.Frame
import Famicom.Proofs.Console.Operation
import Mathlib.Algebra.GroupWithZero.Nat

/-!
# Processor and picture unit in lockstep

A log tells apart from all counters what a console has worked: the instructions that succeeded with
their cycles, the interrupts that were entered, the resets, and every time that the picture unit was
made to catch up. The counters of the console agree with the log at all times.

* `catchUpRound_catchUpRound`: after an interrupt was raised there is no third round of catching up.
* `InStep.act`: no act, successful or not, brings the counters and the log apart.
* `lockstep`: after any operations the dots are three times the cycles of the log, the processor
  counts those since the last reset, and no word of thirty-two bits has overflowed.
-/

namespace Famicom.Console

open Picture Processor

variable {S : Type} [FrameSink S]

/-! ## The log -/

/-- What a console works: an instruction that succeeded and its cycles, the entry of an interrupt, a
reset, and an advance of the picture unit from a dot of its scanline through the pending cycles. -/
inductive Work where
  | instruction (cycles : Nat)
  | interrupt
  | reset
  | advance (dot pending : Nat)
  deriving DecidableEq, Repr

def Work.cycles : Work → Nat
  | .instruction cycles => cycles
  | .interrupt => interruptCycles
  | .reset => 0
  | .advance _ _ => 0

/-- All cycles in a log. -/
def spent (log : List Work) : Nat := (log.map Work.cycles).sum

/-- The cycles in a log after its last reset. -/
def spentSinceReset (log : List Work) : Nat :=
  log.foldl (fun n w => if w = .reset then 0 else n + w.cycles) 0

/-- The two computations on words of thirty-two bits that catching up takes are exact. -/
def Work.Fits : Work → Prop
  | .advance dot pending =>
    pending * dotsPerCycle < UInt32.size ∧ dot + pending * dotsPerCycle < UInt32.size
  | _ => True

theorem spent_append_singleton (log : List Work) (w : Work) :
    spent (log ++ [w]) = spent log + w.cycles := by
  simp only [spent, List.map_append, List.sum_append, List.map_singleton, List.sum_singleton]

theorem spentSinceReset_append_singleton (log : List Work) (w : Work) :
    spentSinceReset (log ++ [w]) =
      if w = .reset then 0 else spentSinceReset log + w.cycles := by
  simp only [spentSinceReset, List.foldl_append, List.foldl_cons, List.foldl_nil]

/-- The log of a round of catching up. -/
def roundWork (c : Console S) (pending : Nat) : List Work :=
  .advance c.picture.dot pending ::
    if (c.bus.advance (pending * dotsPerCycle)).1.nmi then [.interrupt] else []

def catchUpWork (c : Console S) (pending : Nat) : (rounds : Nat) → List Work
  | 0 => []
  | rounds + 1 =>
    if pending = 0 then []
    else
      c.roundWork pending ++
        (c.catchUpRound pending).2.catchUpWork (c.catchUpRound pending).1 rounds

/-- The log of an instruction, which is empty if it fails or the processor is halted. -/
def stepWork (c : Console S) : List Work :=
  if c.isHalted then []
  else
    match c.machine.step.1 with
    | .ok cycles =>
      .instruction cycles :: { c with machine := c.machine.step.2 }.catchUpWork cycles 2
    | .error _ => []

def nmiWork (c : Console S) : List Work :=
  .interrupt :: { c with machine := c.machine.nmi.2 }.catchUpWork c.machine.nmi.1 2

/-- The log of an interrupt request, which is empty if interrupts are disabled. -/
def irqWork (c : Console S) : List Work :=
  if c.machine.registers.status.get .interruptDisable then []
  else .interrupt :: { c with machine := c.machine.irq.2 }.catchUpWork c.machine.irq.1 2

def actWork (c : Console S) : Act → List Work
  | .step => c.stepWork
  | .nmi => c.nmiWork
  | .irq => c.irqWork
  | .reset => [.reset]
  | _ => []

def actAllWork (c : Console S) : List Act → List Work
  | [] => []
  | a :: rest => c.actWork a ++ (c.act a).actAllWork rest

/-- The log of operations. -/
def work (c : Console S) (os : List Operation) : List Work := c.actAllWork (c.allActs os)

/-! ## The invariant -/

/-- The counters of a console agree with a log, but for `owed` cycles that the picture unit has still
to catch up with. -/
structure InStep (c : Console S) (owed : Nat) (log : List Work) : Prop where
  dot : c.dials.2.2.dot < dotsPerScanline
  dots : c.dials.2.2.totalDots + dotsPerCycle * owed = dotsPerCycle * spent log
  cycles : c.dials.1 = spentSinceReset log
  fits : ∀ w ∈ log, w.Fits

namespace InStep

omit [FrameSink S] in
/-- A new console agrees with an empty log. -/
theorem ofCartridge (cartridge : Cartridge) (joypad : Joypad) (sink : S) (settings : Settings)
    (clock : Clock) (journal : Journal) :
    InStep (.ofCartridge cartridge joypad sink settings clock journal) 0 [] := by
  have fresh := dials_ofCartridge cartridge joypad sink settings clock journal
  refine ⟨?_, ?_, ?_, fun w recorded => nomatch recorded⟩
  · rw [fresh]
    decide
  · rw [fresh]
    rfl
  · rw [fresh]
    rfl

omit [FrameSink S] in
theorem of_dials {c d : Console S} {owed : Nat} {log : List Work} (inStep : InStep c owed log)
    (same : d.dials = c.dials) : InStep d owed log := by
  obtain ⟨dot, dots, cycles, fits⟩ := inStep
  rw [← same] at dot dots cycles
  exact ⟨dot, dots, cycles, fits⟩

omit [FrameSink S] in
/-- An act that leaves the dials alone is not logged. -/
theorem idle {c d : Console S} {owed : Nat} {log : List Work} (inStep : InStep c owed log)
    (same : d.dials = c.dials) : InStep d owed (log ++ []) := by
  rw [List.append_nil]
  exact inStep.of_dials same

omit [FrameSink S] in
/-- Cycles that the processor has counted are owed until the picture unit catches up. -/
theorem owe {c d : Console S} {log : List Work} (inStep : InStep c 0 log) {w : Work}
    (counted : d.dials = (c.dials.1 + w.cycles, c.dials.2)) (kind : w ≠ .reset) (fits : w.Fits) :
    InStep d w.cycles (log ++ [w]) := by
  obtain ⟨dot, dots, cycles, fit⟩ := inStep
  refine ⟨?_, ?_, ?_, List.forall_mem_append.mpr ⟨fit, by simpa using fits⟩⟩
  · rw [counted]
    exact dot
  · rw [counted, spent_append_singleton, Nat.mul_add, ← dots]
    rfl
  · rw [counted, spentSinceReset_append_singleton, if_neg kind, ← cycles]

omit [FrameSink S] in
/-- The entry of a non-maskable interrupt. -/
theorem enter {c : Console S} {log : List Work} (inStep : InStep c 0 log) :
    InStep { c with machine := c.machine.nmi.2 } interruptCycles (log ++ [.interrupt]) :=
  inStep.owe (w := .interrupt) (Machine.sheltered_nmi Bus.beam c.machine) (by decide) trivial

/-! ## Catching up -/

/-- The picture unit catches up with what is owed. -/
theorem elapsed {c : Console S} {owed : Nat} {log : List Work} (inStep : InStep c owed log)
    (small : owed ≤ interruptCycles) :
    InStep (c.elapsed owed) 0 (log ++ [.advance c.picture.dot owed]) := by
  obtain ⟨dot, dots, cycles, fit⟩ := inStep
  have few : owed * dotsPerCycle ≤ 21 := Nat.mul_le_mul_right dotsPerCycle small
  have fits : (Work.advance c.picture.dot owed).Fits := by
    have place : c.picture.dot < 341 := dot
    have size : UInt32.size = 4294967296 := rfl
    exact ⟨by omega, by omega⟩
  refine ⟨?_, ?_, ?_, List.forall_mem_append.mpr ⟨fit, by simpa using fits⟩⟩
  · rw [dials_elapsed]
    change (c.picture.advance _).2.dot < dotsPerScanline
    rw [PictureUnit.dot_advance]
    exact Nat.mod_lt _ (by decide)
  · rw [dials_elapsed, spent_append_singleton]
    change (c.picture.advance _).2.totalDots + 0 = dotsPerCycle * (spent log + 0)
    rw [PictureUnit.totalDots_advance, Nat.add_zero, Nat.add_zero, ← dots, Nat.mul_comm]
    rfl
  · rw [dials_elapsed, spentSinceReset_append_singleton]
    exact cycles

/-- A round of catching up pays what is owed; the entry of an interrupt is owed then. -/
theorem catchUpRound {c : Console S} {owed : Nat} {log : List Work} (inStep : InStep c owed log)
    (small : owed ≤ interruptCycles) :
    InStep (c.catchUpRound owed).2 (c.catchUpRound owed).1 (log ++ c.roundWork owed) := by
  have paid := inStep.elapsed small
  rw [catchUpRound_eq, roundWork]
  split
  · rw [List.append_cons]
    exact paid.enter
  · exact paid

end InStep

/-- **There is no third round of catching up:** the entry of an interrupt that was raised in one round
is too short to reach vertical blank again in the next. -/
theorem catchUpRound_catchUpRound {c : Console S} {owed : Nat} {log : List Work}
    (inStep : InStep c owed log) (small : owed ≤ interruptCycles) :
    ((c.catchUpRound owed).2.catchUpRound (c.catchUpRound owed).1).1 = 0 := by
  have place : c.picture.dot < 341 := inStep.dot
  have few : owed * dotsPerCycle ≤ 21 := Nat.mul_le_mul_right dotsPerCycle small
  have size : UInt32.size = 4294967296 := rfl
  have next : (c.catchUpRound owed).2.picture.dot = (c.picture.dot + owed * dotsPerCycle) % 341 := by
    have fits : c.picture.dot + owed * dotsPerCycle < UInt32.size := by omega
    have moved := PictureUnit.dot_advance c.picture (owed * dotsPerCycle)
    rw [Nat.mod_eq_of_lt fits] at moved
    exact (congrArg (·.2.2.dot) (dials_catchUpRound c owed)).trans moved
  have within : (c.catchUpRound owed).2.picture.dot + (c.catchUpRound owed).1 * dotsPerCycle <
      dotsPerScanline := by
    have line : dotsPerScanline = 341 := rfl
    rw [next, pending_catchUpRound]
    split
    · -- An interrupt was raised, so the beam is at the beginning of a scanline.
      rename_i raised
      have crossed : 341 ≤ c.picture.dot + owed * dotsPerCycle := by
        rcases Nat.lt_or_ge (c.picture.dot + owed * dotsPerCycle) 341 with before | crossed
        · have quiet := PictureUnit.signals_advance_of_lt before
          change (c.picture.advance (owed * dotsPerCycle)).1.nmi = true at raised
          rw [quiet] at raised
          exact absurd raised (by decide)
        · exact crossed
      have entry : interruptCycles * dotsPerCycle = 21 := rfl
      omega
    · omega
  rw [pending_catchUpRound]
  change (if ((c.catchUpRound owed).2.picture.advance _).1.nmi = true then _ else _) = 0
  rw [PictureUnit.signals_advance_of_lt within]
  rfl

namespace InStep

/-- Catching up pays all that is owed. -/
theorem catchUp {c : Console S} {owed : Nat} {log : List Work} (inStep : InStep c owed log)
    (small : owed ≤ interruptCycles) :
    InStep (c.catchUp owed).2 0 (log ++ c.catchUpWork owed 2) := by
  refine of_dials ?_ (dials_throttle (c.catchUpRounds owed 2).2 _)
  have first := inStep.catchUpRound small
  have last := catchUpRound_catchUpRound inStep small
  have entry : (c.catchUpRound owed).1 ≤ interruptCycles := by
    rw [pending_catchUpRound]
    split <;> decide
  unfold catchUpRounds catchUpWork
  by_cases nothing : owed = 0
  · subst nothing
    simpa only [if_true, List.append_nil] using inStep
  · simp only [if_neg nothing, catchUpRounds, catchUpWork]
    by_cases quiet : (c.catchUpRound owed).1 = 0
    · rw [quiet] at first
      simpa only [quiet, if_true, List.append_nil] using first
    · have second := first.catchUpRound entry
      rw [last] at second
      simpa only [if_neg quiet, List.append_nil, List.append_assoc] using second

end InStep

/-- With nothing to catch up with, nothing moves. -/
theorem dials_catchUp_zero (c : Console S) : (c.catchUp 0).2.dials = c.dials := by
  simp only [catchUp, catchUpRounds, if_true]
  exact dials_throttle c 0

namespace InStep

/-! ## Acts -/

theorem step {c : Console S} {log : List Work} (inStep : InStep c 0 log) :
    InStep c.step.2 0 (log ++ c.stepWork) := by
  have executed := Machine.sheltered_step Bus.beam c.machine
  have short := Machine.cyclesSpent_step_le c.machine
  unfold stepWork
  cases halted : c.isHalted with
  | true =>
    have still : c.machine.step = (.ok 0, c.machine) := if_pos halted
    have same : c.step.2.dials = c.dials := by
      simp only [Console.step, still]
      exact dials_catchUp_zero c
    exact inStep.idle same
  | false =>
    simp only [Bool.false_eq_true, if_false, Console.step]
    cases result : c.machine.step.1 with
    | ok cycles =>
      rw [result] at executed short
      have owed : InStep { c with machine := c.machine.step.2 } cycles
          (log ++ [.instruction cycles]) :=
        inStep.owe (w := .instruction cycles) executed (by intro e; cases e) trivial
      dsimp only
      rw [List.append_cons]
      exact owed.catchUp short
    | error e =>
      -- A failing instruction counts nothing and the picture unit does not advance.
      rw [result] at executed
      exact inStep.idle executed

theorem nmi {c : Console S} {log : List Work} (inStep : InStep c 0 log) :
    InStep c.nmi.2 0 (log ++ c.nmiWork) := by
  unfold nmiWork
  rw [List.append_cons]
  exact inStep.enter.catchUp (Nat.le_refl _)

theorem irq {c : Console S} {log : List Work} (inStep : InStep c 0 log) :
    InStep c.irq.2 0 (log ++ c.irqWork) := by
  have entered := Machine.sheltered_irq Bus.beam c.machine
  unfold irqWork
  cases masked : c.machine.registers.status.get .interruptDisable with
  | true =>
    have ignored : c.machine.irq = (0, c.machine) := by
      simp only [Machine.irq, masked, if_true]
    have same : c.irq.2.dials = c.dials := by
      simp only [Console.irq, ignored]
      exact dials_catchUp_zero c
    exact inStep.idle same
  | false =>
    have cycles : c.machine.irq.1 = interruptCycles := by
      simp only [Machine.irq, masked]
      rfl
    rw [cycles] at entered
    have owed : InStep { c with machine := c.machine.irq.2 } interruptCycles
        (log ++ [.interrupt]) :=
      inStep.owe (w := .interrupt) entered (by decide) trivial
    simp only [Bool.false_eq_true, if_false]
    rw [List.append_cons]
    unfold Console.irq
    dsimp only
    rw [cycles]
    exact owed.catchUp (Nat.le_refl _)

omit [FrameSink S] in
theorem reset {c : Console S} {log : List Work} (inStep : InStep c 0 log) :
    InStep c.reset 0 (log ++ [.reset]) := by
  obtain ⟨dot, dots, -, fits⟩ := inStep
  refine ⟨?_, ?_, ?_, List.forall_mem_append.mpr ⟨fits, by simp [Work.Fits]⟩⟩
  · rw [dials_reset]
    exact dot
  · rw [dials_reset, spent_append_singleton]
    exact dots
  · rw [dials_reset, spentSinceReset_append_singleton]
    rfl

omit [FrameSink S] in
theorem toggleHalt {c : Console S} {log : List Work} (inStep : InStep c 0 log) :
    InStep c.toggleHalt 0 (log ++ []) := by
  obtain ⟨dot, dots, cycles, fits⟩ := inStep
  rw [List.append_nil]
  refine ⟨?_, ?_, ?_, fits⟩
  · rw [dials_toggleHalt]
    exact dot
  · rw [dials_toggleHalt]
    exact dots
  · rw [dials_toggleHalt]
    exact cycles

/-- **No act brings the counters and the log apart**, whether it succeeds or fails. -/
theorem act {c : Console S} {log : List Work} (inStep : InStep c 0 log) (a : Act) :
    InStep (c.act a) 0 (log ++ c.actWork a) := by
  cases a with
  | step => exact inStep.step
  | nmi => exact inStep.nmi
  | irq => exact inStep.irq
  | reset => exact inStep.reset
  | toggleHalt => exact inStep.toggleHalt
  | read address => exact inStep.idle (dials_read c address)
  | write address v => exact inStep.idle (dials_write c address v)
  | updateRegisters f => exact inStep.idle (dials_updateRegisters c f)
  | request r => exact inStep.idle (dials_request c r)
  | takeReset => exact inStep.idle rfl
  | takeToggles => exact inStep.idle rfl
  | note e => exact inStep.idle (dials_note c e)
  | wait => exact inStep.idle (dials_wait c)

theorem actAll {c : Console S} {log : List Work} (inStep : InStep c 0 log) (as : List Act) :
    InStep (c.actAll as) 0 (log ++ c.actAllWork as) := by
  induction as generalizing c log with
  | nil => exact inStep.idle rfl
  | cons a rest ih =>
    rw [actAllWork, ← List.append_assoc]
    exact ih (inStep.act a)

end InStep

/-! ## Whole runs -/

/-- **Processor and picture unit stay in lockstep.** Whatever is done with a new console, the dots are
three times all cycles that were spent, the processor counts those since the last reset, and no word
of thirty-two bits overflows on the way. The counters themselves are unbounded here. -/
theorem lockstep (cartridge : Cartridge) (joypad : Joypad) (sink : S) (settings : Settings)
    (clock : Clock) (journal : Journal) (os : List Operation) :
    let c : Console S := .ofCartridge cartridge joypad sink settings clock journal
    (c.operateAll os).picture.totalDots = dotsPerCycle * spent (c.work os) ∧
      (c.operateAll os).machine.core.totalCycles = spentSinceReset (c.work os) ∧
      ∀ w ∈ c.work os, w.Fits := by
  intro c
  have agrees : InStep (c.actAll (c.allActs os)) 0 ([] ++ c.work os) :=
    (InStep.ofCartridge cartridge joypad sink settings clock journal).actAll _
  rw [actAll_allActs] at agrees
  exact ⟨agrees.dots, agrees.cycles, agrees.fits⟩

end Famicom.Console

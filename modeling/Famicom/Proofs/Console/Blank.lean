import Famicom.Proofs.Console.Lockstep
import Famicom.Proofs.Picture.Timing

/-!
# Vertical blank, delivered once

An instruction takes so few dots that vertical blank begins at most once while the picture unit
catches up with it, and the entry of the interrupt that it may raise takes so few that it does not
begin again.

* `deliver` is what catching up comes to: the frame is presented at most once, and the interrupt is
  entered at most once.
* `catchUpRounds_eq_deliver`: the rounds of catching up do exactly that, however many are allowed.
* `Recorder` is a sink that keeps the frames it was shown.
* `blank_delivered_once`: every instruction delivers the vertical blank that begins with it once,
  and over any run as many frames are presented as were finished.
-/

namespace Famicom.Console

open Picture Processor

variable {S : Type}

/-! ## Dots that pass -/

/-- Time passes for the picture unit, and nothing else happens. -/
def pass (c : Console S) (cycles : Nat) : Console S :=
  { c with
    machine := { c.machine with memory := (c.bus.advance (cycles * dotsPerCycle)).2 } }

/-- The processor enters its handler of non-maskable interrupts. -/
def enterNmi (c : Console S) : Console S := { c with machine := c.machine.nmi.2 }

/-- Whether the scanline with which vertical blank begins is entered within so many cycles. -/
def BlankWithin (c : Console S) (cycles : Nat) : Prop :=
  blankScanline ∈ c.picture.beam.entered (cycles * dotsPerCycle)

instance (c : Console S) (cycles : Nat) : Decidable (c.BlankWithin cycles) :=
  inferInstanceAs (Decidable (blankScanline ∈ _))

theorem beam_eq_dials (c : Console S) : c.picture.beam = c.dials.2.2 := rfl

theorem sink_pass (c : Console S) (cycles : Nat) : (c.pass cycles).sink = c.sink := rfl

theorem sink_enterNmi (c : Console S) : c.enterNmi.sink = c.sink := rfl

theorem dials_enterNmi (c : Console S) :
    c.enterNmi.dials = (c.dials.1 + interruptCycles, c.dials.2) :=
  Machine.sheltered_nmi Bus.beam c.machine

/-- So few cycles are counted exactly. -/
theorem counts_of_le {c : Console S} (place : c.picture.dot < dotsPerScanline) {cycles : Nat}
    (few : cycles ≤ interruptCycles) : c.picture.Counts (cycles * dotsPerCycle) := by
  have dots : cycles * dotsPerCycle ≤ 21 := Nat.mul_le_mul_right dotsPerCycle few
  have line : dotsPerScanline = 341 := rfl
  have size : UInt32.size = 4294967296 := rfl
  unfold PictureUnit.Counts
  omega

/-- No more than one scanline is completed in so few cycles. -/
theorem lines_le_one {c : Console S} (place : c.picture.dot < dotsPerScanline) {cycles : Nat}
    (few : cycles ≤ interruptCycles) :
    (c.picture.dot + cycles * dotsPerCycle) / dotsPerScanline ≤ 1 := by
  have dots : cycles * dotsPerCycle ≤ 21 := Nat.mul_le_mul_right dotsPerCycle few
  have line : dotsPerScanline = 341 := rfl
  rw [line] at place ⊢
  omega

theorem frameCount_pass {c : Console S} (place : c.picture.dot < dotsPerScanline) {cycles : Nat}
    (few : cycles ≤ interruptCycles) :
    (c.pass cycles).frameCount = c.frameCount + if c.BlankWithin cycles then 1 else 0 := by
  refine (PictureUnit.frameCount_advance (counts_of_le place few)).trans ?_
  exact congrArg (c.frameCount + ·) (Beam.count_linesFrom_of_le_one (lines_le_one place few) _)

theorem blankWithin_iff {c : Console S} (place : c.picture.dot < dotsPerScanline) {cycles : Nat}
    (few : cycles ≤ interruptCycles) :
    c.BlankWithin cycles ↔
      c.picture.scanline ≠ blankScanline ∧ (c.pass cycles).picture.scanline = blankScanline := by
  have scanline : (c.pass cycles).picture.scanline = _ :=
    congrArg Beam.scanline (PictureUnit.beam_advance_eq (counts_of_le place few))
  rw [scanline]
  exact Beam.blank_mem_linesFrom_iff (lines_le_one place few)
    { c.picture.beam with
      dot := (c.picture.dot + cycles * dotsPerCycle) % dotsPerScanline
      totalDots := c.picture.totalDots + cycles * dotsPerCycle }

/-- After vertical blank has begun the beam is at the beginning of a scanline. -/
theorem dot_pass_of_blankWithin {c : Console S} (place : c.picture.dot < dotsPerScanline)
    {cycles : Nat} (few : cycles ≤ interruptCycles) (begins : c.BlankWithin cycles) :
    (c.pass cycles).picture.dot < 21 := by
  have moved : (c.pass cycles).picture.dot =
      (c.picture.dot + cycles * dotsPerCycle) % UInt32.size % dotsPerScanline :=
    PictureUnit.dot_advance c.picture _
  have entered : blankScanline ∈ Beam.linesFrom c.picture.scanline
      ((c.picture.dot + cycles * dotsPerCycle) / dotsPerScanline) := begins
  have completed : (c.picture.dot + cycles * dotsPerCycle) / dotsPerScanline ≠ 0 := by
    intro within
    rw [within] at entered
    exact absurd entered List.not_mem_nil
  have dots : cycles * dotsPerCycle ≤ 21 := Nat.mul_le_mul_right dotsPerCycle few
  rw [moved, Nat.mod_eq_of_lt (counts_of_le place few)]
  have line : dotsPerScanline = 341 := rfl
  rw [line] at place completed ⊢
  omega

theorem not_blankWithin_zero {c : Console S} (place : c.picture.dot < dotsPerScanline) :
    ¬ c.BlankWithin 0 := by
  have lines : (c.picture.dot + 0) / dotsPerScanline = 0 := Nat.div_eq_of_lt place
  unfold BlankWithin Beam.entered
  rw [Nat.zero_mul]
  change ¬ blankScanline ∈ Beam.linesFrom _ ((c.picture.dot + 0) / dotsPerScanline)
  rw [lines]
  exact List.not_mem_nil

theorem pass_zero {c : Console S} (place : c.picture.dot < dotsPerScanline) : c.pass 0 = c := by
  have fits : c.picture.dot < UInt32.size := Nat.lt_trans place (by decide)
  have still : c.picture.advance 0 = (.none, c.picture) := by
    simp only [PictureUnit.advance, Nat.add_zero, Nat.mod_eq_of_lt fits, Nat.mod_eq_of_lt place,
      Nat.div_eq_of_lt place, PictureUnit.finishScanlines]
  have bus : (c.bus.advance (0 * dotsPerCycle)).2 = c.bus := by
    rw [Nat.zero_mul]
    change { c.bus with
      picture := (c.picture.advance 0).2
      journal := c.bus.journal.noteAll
        (PictureUnit.blankEvents c.picture.frameCount (c.picture.advance 0).2.frameCount) } = c.bus
    rw [still]
    simp only [PictureUnit.blankEvents, Nat.sub_self, List.range'_zero, List.map_nil,
      Journal.noteAll, List.foldl_nil]
    rfl
  unfold pass
  rw [bus]
  rfl

variable [FrameSink S]

/-! ## One delivery -/

/-- Lets the picture unit catch up with an instruction: if vertical blank begins, the frame is
presented once, and if the control register asks for it, the interrupt is entered once, which takes
its own time. -/
def deliver (c : Console S) (cycles : Nat) : Nat × Console S :=
  let passed := c.pass cycles
  if c.BlankWithin cycles then
    let shown := passed.present passed.picture.frame
    if c.picture.control.interrupts then
      (cycles + interruptCycles, shown.enterNmi.pass interruptCycles)
    else (cycles, shown)
  else (cycles, passed)

theorem elapsed_eq (c : Console S) (cycles : Nat) :
    c.elapsed cycles =
      if (c.picture.advance (cycles * dotsPerCycle)).1.frameReady then
        (c.pass cycles).present (c.pass cycles).picture.frame
      else c.pass cycles := rfl

/-- A round of catching up with few cycles, by what happens in them. -/
theorem catchUpRound_of_le {c : Console S} (place : c.picture.dot < dotsPerScanline) {cycles : Nat}
    (few : cycles ≤ interruptCycles) :
    c.catchUpRound cycles =
      if c.BlankWithin cycles then
        let shown := (c.pass cycles).present (c.pass cycles).picture.frame
        if c.picture.control.interrupts then (interruptCycles, shown.enterNmi) else (0, shown)
      else (0, c.pass cycles) := by
  have signals := PictureUnit.signals_advance (counts_of_le place few)
  rw [catchUpRound_eq, elapsed_eq]
  change (if (c.picture.advance (cycles * dotsPerCycle)).1.nmi = true then _ else _) = _
  rw [signals]
  by_cases begins : c.BlankWithin cycles
  · have entered : blankScanline ∈ c.picture.beam.entered (cycles * dotsPerCycle) := begins
    simp only [begins, entered, decide_true, Bool.true_and, if_true]
    rfl
  · have entered : ¬ blankScanline ∈ c.picture.beam.entered (cycles * dotsPerCycle) := begins
    simp only [begins, entered, decide_false, Bool.false_and, Bool.false_eq_true, if_false]

/-- A round in which the scanline goes on. -/
theorem catchUpRound_of_lt {c : Console S} {cycles : Nat}
    (within : c.picture.dot + cycles * dotsPerCycle < dotsPerScanline) :
    c.catchUpRound cycles = (0, c.pass cycles) := by
  have quiet := PictureUnit.signals_advance_of_lt within
  rw [catchUpRound_eq, elapsed_eq]
  change (if (c.picture.advance (cycles * dotsPerCycle)).1.nmi = true then _ else _) = _
  rw [quiet]
  rfl

/-- Presenting the frame and entering the interrupt leave the beam where it was. -/
theorem beam_enterNmi_present (c : Console S) (frame : Frame) :
    (c.present frame).enterNmi.picture.beam = c.picture.beam := by
  rw [beam_eq_dials, beam_eq_dials, dials_enterNmi, dials_present]

/-- The entry of the interrupt that vertical blank has raised is over before the next scanline. -/
theorem entry_of_blankWithin {c : Console S} (place : c.picture.dot < dotsPerScanline)
    {cycles : Nat} (few : cycles ≤ interruptCycles) (begins : c.BlankWithin cycles)
    (frame : Frame) :
    ((c.pass cycles).present frame).enterNmi.picture.dot + interruptCycles * dotsPerCycle <
      dotsPerScanline := by
  have dot : ((c.pass cycles).present frame).enterNmi.picture.dot = (c.pass cycles).picture.dot :=
    congrArg Beam.dot (beam_enterNmi_present (c.pass cycles) frame)
  have start := dot_pass_of_blankWithin place few begins
  have entry : interruptCycles * dotsPerCycle = 21 := rfl
  have line : dotsPerScanline = 341 := rfl
  omega

/-- **Catching up is one delivery, and two rounds are enough for it**, however many are allowed. -/
theorem catchUpRounds_eq_deliver {c : Console S} (place : c.picture.dot < dotsPerScanline)
    {cycles : Nat} (few : cycles ≤ interruptCycles) (n : Nat) :
    c.catchUpRounds cycles (n + 2) = c.deliver cycles := by
  -- With nothing pending a further round does nothing.
  have done (d : Console S) (rounds : Nat) : d.catchUpRounds 0 rounds = (0, d) := by
    cases rounds <;> rfl
  unfold catchUpRounds deliver
  by_cases nothing : cycles = 0
  · subst nothing
    rw [if_pos rfl, if_neg (not_blankWithin_zero place), pass_zero place]
  · rw [if_neg nothing, catchUpRound_of_le place few]
    dsimp only
    by_cases begins : c.BlankWithin cycles
    · rw [if_pos begins, if_pos begins]
      cases asked : c.picture.control.interrupts with
      | false => simp only [Bool.false_eq_true, if_false, done, Nat.add_zero]
      | true =>
        simp only [if_true]
        have within := entry_of_blankWithin place few begins (c.pass cycles).picture.frame
        rw [catchUpRounds, if_neg (by decide), catchUpRound_of_lt within]
        simp only [done, Nat.add_zero]
    · rw [if_neg begins, if_neg begins]
      simp only [done, Nat.add_zero]

/-! ## What a delivery shows -/

omit [FrameSink S] in
theorem scanline_pass_of_lt {c : Console S} {cycles : Nat}
    (within : c.picture.dot + cycles * dotsPerCycle < dotsPerScanline) :
    (c.pass cycles).picture.scanline = c.picture.scanline ∧
      (c.pass cycles).frameCount = c.frameCount := by
  have counts : c.picture.Counts (cycles * dotsPerCycle) := Nat.lt_trans within (by decide)
  have beam : (c.pass cycles).picture.beam = _ :=
    PictureUnit.beam_advance_eq (u := c.picture) counts
  rw [Nat.div_eq_of_lt within] at beam
  exact ⟨congrArg Beam.scanline beam, congrArg Beam.frameCount beam⟩

/-- The interrupt that a delivery may enter completes no scanline. -/
theorem scanline_deliver {c : Console S} (place : c.picture.dot < dotsPerScanline) {cycles : Nat}
    (few : cycles ≤ interruptCycles) :
    (c.deliver cycles).2.picture.scanline = (c.pass cycles).picture.scanline ∧
      (c.deliver cycles).2.frameCount = (c.pass cycles).frameCount := by
  have shown (frame : Frame) :
      ((c.pass cycles).present frame).picture.beam = (c.pass cycles).picture.beam := by
    rw [beam_eq_dials, beam_eq_dials, dials_present]
  unfold deliver
  dsimp only
  split
  · rename_i begins
    split
    · have within := entry_of_blankWithin place few begins (c.pass cycles).picture.frame
      have still := scanline_pass_of_lt within
      have beam := beam_enterNmi_present (c.pass cycles) (c.pass cycles).picture.frame
      exact ⟨still.1.trans (congrArg Beam.scanline beam),
        still.2.trans (congrArg Beam.frameCount beam)⟩
    · exact ⟨congrArg Beam.scanline (shown _), congrArg Beam.frameCount (shown _)⟩
  · exact ⟨rfl, rfl⟩

theorem frameCount_deliver {c : Console S} (place : c.picture.dot < dotsPerScanline) {cycles : Nat}
    (few : cycles ≤ interruptCycles) :
    (c.deliver cycles).2.frameCount = c.frameCount + if c.BlankWithin cycles then 1 else 0 := by
  rw [(scanline_deliver place few).2, frameCount_pass place few]

omit [FrameSink S] in
theorem sink_throttle (c : Console S) (cycles : Nat) : (c.throttle cycles).sink = c.sink := by
  obtain ⟨pacer, clock, same | ⟨lag, noted⟩⟩ := c.throttle_cases cycles
  · rw [same]
  · rw [noted]
    rfl

omit [FrameSink S] in
theorem sink_reset (c : Console S) : c.reset.sink = c.sink := by
  obtain ⟨pacer, clock, reset⟩ := c.reset_eq
  rw [reset]
  rfl

omit [FrameSink S] in
theorem sink_ofCartridge (cartridge : Cartridge) (joypad : Joypad) (sink : S)
    (settings : Settings) (clock : Clock) (journal : Journal) :
    (ofCartridge cartridge joypad sink settings clock journal).sink = sink :=
  sink_reset _

theorem sink_present (c : Console S) (frame : Frame) :
    (c.present frame).sink = (FrameSink.present c.sink frame).1 := by
  rw [present_eq]

/-- The frame that is complete when vertical blank begins within so many cycles. -/
def finished (c : Console S) (cycles : Nat) : Frame := (c.pass cycles).picture.frame

theorem sink_deliver (c : Console S) (cycles : Nat) :
    (c.deliver cycles).2.sink =
      if c.BlankWithin cycles then (FrameSink.present c.sink (c.finished cycles)).1
      else c.sink := by
  unfold deliver
  dsimp only
  split
  · split
    · rw [sink_pass, sink_enterNmi, sink_present, sink_pass]
      rfl
    · rw [sink_present, sink_pass]
      rfl
  · rfl

theorem returned_deliver (c : Console S) (cycles : Nat) :
    (c.deliver cycles).1 =
      if c.BlankWithin cycles ∧ c.picture.control.interrupts = true then cycles + interruptCycles
      else cycles := by
  unfold deliver
  dsimp only
  by_cases begins : c.BlankWithin cycles <;> cases c.picture.control.interrupts <;> simp [begins]

/-- Catching up is a delivery, and the schedule is followed after it. -/
theorem catchUp_eq_deliver {c : Console S} (place : c.picture.dot < dotsPerScanline) {cycles : Nat}
    (few : cycles ≤ interruptCycles) :
    c.catchUp cycles = ((c.deliver cycles).1, (c.deliver cycles).2.throttle (c.deliver cycles).1) := by
  unfold catchUp
  rw [catchUpRounds_eq_deliver place few 0]

/-! ## Instructions -/

omit [FrameSink S] in
/-- The console after the instruction, before the picture unit catches up. -/
def executed (c : Console S) : Console S := { c with machine := c.machine.step.2 }

/-- A step whose instruction has succeeded delivers vertical blank once if it begins, which it does
exactly if the step enters its scanline, and not at all otherwise. The control register is the same
at every moment of catching up, and there are no more than two rounds of it: the step is the
instruction, then one delivery, then the look at the schedule. The sink is shown one frame if
vertical blank begins. -/
structure DeliversOnce (c : Console S) (cycles : Nat) : Prop where
  control : ∀ dots,
    (c.executed.picture.advance dots).2.control = c.executed.picture.control
  rounds : ∀ n, c.executed.catchUpRounds cycles (n + 2) = c.executed.deliver cycles
  whole : c.step =
    (.ok (c.executed.deliver cycles).1,
      (c.executed.deliver cycles).2.throttle (c.executed.deliver cycles).1)
  begins : c.executed.BlankWithin cycles ↔
    c.picture.scanline ≠ blankScanline ∧ c.step.2.picture.scanline = blankScanline
  presents : c.step.2.sink =
    if c.executed.BlankWithin cycles then
      (FrameSink.present c.sink (c.executed.finished cycles)).1
    else c.sink
  frames : c.step.2.frameCount =
    c.frameCount + if c.executed.BlankWithin cycles then 1 else 0
  returns : c.step.1 = .ok
    (if c.executed.BlankWithin cycles ∧ c.executed.picture.control.interrupts = true then cycles + 7
      else cycles)

theorem deliversOnce_of_step {c : Console S} (place : c.picture.dot < dotsPerScanline) {cycles : Nat}
    (succeeds : c.machine.step.1 = .ok cycles) : c.DeliversOnce cycles := by
  have executed : c.executed.dials = (c.dials.1 + cycles, c.dials.2) := by
    have sheltered := Machine.sheltered_step Bus.beam c.machine
    rw [succeeds] at sheltered
    exact sheltered
  have beam : c.executed.picture.beam = c.picture.beam := congrArg (·.2.2) executed
  have dot : c.executed.picture.dot = c.picture.dot := congrArg Beam.dot beam
  have scanline : c.executed.picture.scanline = c.picture.scanline := congrArg Beam.scanline beam
  have frames : c.executed.frameCount = c.frameCount := congrArg Beam.frameCount beam
  have place' : c.executed.picture.dot < dotsPerScanline := dot ▸ place
  have few : cycles ≤ interruptCycles := by
    have short := Machine.cyclesSpent_step_le c.machine
    rwa [succeeds] at short
  have whole : c.step =
      (.ok (c.executed.deliver cycles).1,
        (c.executed.deliver cycles).2.throttle (c.executed.deliver cycles).1) := by
    unfold step
    dsimp only
    rw [succeeds]
    exact congrArg (fun r : Nat × Console S => (Except.ok r.1, r.2)) (catchUp_eq_deliver place' few)
  have paced : c.step.2.picture.beam = (c.executed.deliver cycles).2.picture.beam := by
    rw [whole]
    exact congrArg (·.2.2) (dials_throttle _ _)
  refine ⟨PictureUnit.control_advance _, catchUpRounds_eq_deliver place' few, whole, ?_, ?_, ?_, ?_⟩
  · have after : c.step.2.picture.scanline = (c.executed.pass cycles).picture.scanline :=
      (congrArg Beam.scanline paced).trans (scanline_deliver place' few).1
    rw [blankWithin_iff place' few, scanline, after]
  · rw [whole, sink_throttle, sink_deliver]
    rfl
  · have after : c.step.2.frameCount = (c.executed.deliver cycles).2.frameCount :=
      congrArg Beam.frameCount paced
    rw [after, frameCount_deliver place' few, frames]
  · rw [whole, returned_deliver]
    rfl

/-! ## Acts -/

/-- **An act lets the picture unit catch up with few cycles or leaves it where it was.** The
processor may have worked before, which concerns neither the sink nor the beam. -/
theorem act_cases (c : Console S) (a : Act) :
    ((c.act a).sink = c.sink ∧ (c.act a).picture.beam = c.picture.beam) ∨
      ∃ (d : Console S) (cycles : Nat), c.act a = (d.catchUp cycles).2 ∧
        cycles ≤ interruptCycles ∧ d.sink = c.sink ∧ d.picture.beam = c.picture.beam := by
  cases a with
  | step =>
    have executed : c.executed.picture.beam = c.picture.beam :=
      congrArg (·.2.2) (Machine.sheltered_step Bus.beam c.machine)
    have few := Machine.cyclesSpent_step_le c.machine
    cases result : c.machine.step.1 with
    | ok cycles =>
      rw [result] at few
      refine .inr ⟨c.executed, cycles, ?_, few, rfl, executed⟩
      simp only [act, Console.step, result]
      rfl
    | error fault =>
      left
      simp only [act, Console.step, result]
      exact ⟨trivial, executed⟩
  | nmi =>
    have entered : c.enterNmi.picture.beam = c.picture.beam := by
      rw [beam_eq_dials, beam_eq_dials, dials_enterNmi]
    exact .inr ⟨c.enterNmi, interruptCycles, rfl, Nat.le_refl _, rfl, entered⟩
  | irq =>
    have entered : c.machine.irq.2.memory.picture.beam = c.picture.beam :=
      congrArg (·.2.2) (Machine.sheltered_irq Bus.beam c.machine)
    have few : c.machine.irq.1 ≤ interruptCycles := by
      unfold Machine.irq
      split
      · exact Nat.zero_le _
      · exact Nat.le_refl _
    exact .inr ⟨{ c with machine := c.machine.irq.2 }, _, rfl, few, rfl, entered⟩
  | reset => exact .inl ⟨sink_reset c, congrArg (·.2.2) (dials_reset c)⟩
  | toggleHalt => exact .inl ⟨rfl, congrArg (·.2.2) (dials_toggleHalt c)⟩
  | read address => exact .inl ⟨rfl, congrArg (·.2.2) (dials_read c address)⟩
  | write address v => exact .inl ⟨rfl, congrArg (·.2.2) (dials_write c address v)⟩
  | updateRegisters f => exact .inl ⟨rfl, rfl⟩
  | request r =>
    have kept : (c.request r).sink = c.sink := by rw [request_eq]
    exact .inl ⟨kept, congrArg (·.2.2) (dials_request c r)⟩
  | takeReset => exact .inl ⟨rfl, rfl⟩
  | takeToggles => exact .inl ⟨rfl, rfl⟩
  | note e => exact .inl ⟨rfl, congrArg (·.2.2) (dials_note c e)⟩
  | wait =>
    obtain ⟨pacer, clock, restarted⟩ := c.wait_eq
    have kept : (Loop.wait c).sink = c.sink := by rw [restarted]
    exact .inl ⟨kept, congrArg (·.2.2) (dials_wait c)⟩

/-! ## Runs -/

/-- A sink together with the frames it was shown, oldest first. -/
structure Recorder (S : Type) where
  inner : S
  frames : List Frame

instance : FrameSink (Recorder S) where
  present s frame :=
    let r := FrameSink.present s.inner frame
    (⟨r.1, s.frames ++ [frame]⟩, r.2)

/-- As many frames were presented as were finished. -/
def Tallies (c : Console (Recorder S)) : Prop := c.sink.frames.length = c.frameCount

namespace Tallies

omit [FrameSink S] in
theorem of_kept {c d : Console (Recorder S)} (tallies : c.Tallies) (sink : d.sink = c.sink)
    (beam : d.picture.beam = c.picture.beam) : d.Tallies := by
  have frames : d.frameCount = c.frameCount := congrArg Beam.frameCount beam
  unfold Tallies
  rw [sink, frames]
  exact tallies

/-- Catching up presents the frames that are finished meanwhile. -/
theorem catchUp {c d : Console (Recorder S)} (counted : c.Tallies)
    (place : c.picture.dot < dotsPerScanline) (sink : d.sink = c.sink)
    (beam : d.picture.beam = c.picture.beam) {cycles : Nat} (few : cycles ≤ interruptCycles) :
    (d.catchUp cycles).2.Tallies := by
  have dot : d.picture.dot = c.picture.dot := congrArg Beam.dot beam
  have tallies : d.sink.frames.length = d.frameCount := counted.of_kept sink beam
  have delivered : (d.deliver cycles).2.Tallies := by
    unfold Tallies
    rw [sink_deliver, frameCount_deliver (dot ▸ place) few, ← tallies]
    split
    · exact List.length_append
    · rfl
  rw [catchUp_eq_deliver (dot ▸ place) few]
  exact delivered.of_kept (sink_throttle _ _) (congrArg (·.2.2) (dials_throttle _ _))

/-- **No act brings the frames that were presented and those that were finished apart.** -/
theorem act {c : Console (Recorder S)} (tallies : c.Tallies)
    (place : c.picture.dot < dotsPerScanline) (a : Act) : (c.act a).Tallies := by
  obtain ⟨sink, beam⟩ | ⟨d, cycles, acts, few, sink, beam⟩ := act_cases c a
  · exact tallies.of_kept sink beam
  · rw [acts]
    exact tallies.catchUp place sink beam few

theorem actAll {c : Console (Recorder S)} {log : List Work} (tallies : c.Tallies)
    (inStep : InStep c 0 log) (as : List Act) : (c.actAll as).Tallies := by
  induction as generalizing c log with
  | nil => exact tallies
  | cons a rest ih => exact ih (tallies.act inStep.dot a) (inStep.act a)

theorem operateAll {c : Console (Recorder S)} {log : List Work} (tallies : c.Tallies)
    (inStep : InStep c 0 log) (os : List Operation) : (c.operateAll os).Tallies := by
  rw [← actAll_allActs]
  exact tallies.actAll inStep _

omit [FrameSink S] in
/-- A new console has presented nothing. -/
theorem ofCartridge (cartridge : Cartridge) (joypad : Joypad) (sink : S) (settings : Settings)
    (clock : Clock) (journal : Journal) :
    (Console.ofCartridge cartridge joypad (⟨sink, []⟩ : Recorder S) settings clock
      journal).Tallies := by
  have beam := congrArg (·.2.2)
    (dials_ofCartridge cartridge joypad (⟨sink, []⟩ : Recorder S) settings clock journal)
  have frames := congrArg Beam.frameCount beam
  unfold Tallies
  rw [sink_ofCartridge]
  exact frames.symm

end Tallies

theorem dot_operateAll (cartridge : Cartridge) (joypad : Joypad) (sink : S) (settings : Settings)
    (clock : Clock) (journal : Journal) (os : List Operation) :
    ((ofCartridge cartridge joypad sink settings clock journal).operateAll os).picture.dot <
      dotsPerScanline := by
  rw [← actAll_allActs]
  exact ((InStep.ofCartridge cartridge joypad sink settings clock journal).actAll _).dot

/-- **Vertical blank is delivered exactly once.** Whatever was done with a new console before, a
step whose instruction succeeds presents one frame if it enters the scanline of vertical blank, and
enters one interrupt if the control register asks for it; a step whose instruction fails delivers
nothing. So over any operations a sink is shown as many frames as were finished. -/
theorem blank_delivered_once (cartridge : Cartridge) (joypad : Joypad) (sink : S)
    (settings : Settings) (clock : Clock) (journal : Journal) (os : List Operation) :
    let c : Console S :=
      (ofCartridge cartridge joypad sink settings clock journal).operateAll os
    let d : Console (Recorder S) :=
      (ofCartridge cartridge joypad ⟨sink, []⟩ settings clock journal).operateAll os
    (match c.machine.step.1 with
      | .ok cycles => c.DeliversOnce cycles
      | .error fault => c.step = (.error fault, c.executed)) ∧
      d.sink.frames.length = d.frameCount := by
  intro c d
  constructor
  · have place : c.picture.dot < dotsPerScanline :=
      dot_operateAll cartridge joypad sink settings clock journal os
    split
    · rename_i cycles succeeds
      exact deliversOnce_of_step place succeeds
    · rename_i fault fails
      simp only [step, fails, executed]
  · exact (Tallies.ofCartridge cartridge joypad sink settings clock journal).operateAll
      (InStep.ofCartridge cartridge joypad (⟨sink, []⟩ : Recorder S) settings clock journal) os

end Famicom.Console

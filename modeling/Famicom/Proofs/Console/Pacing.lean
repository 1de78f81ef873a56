import Famicom.Proofs.Console.Twins

/-!
# Pacing

A paced console looks at the clock when it has executed an instruction or was asked to interrupt, and
at no other time unless it is reset or waits. It cannot go wrong in doing so, and whoever does not look
at the clock himself cannot tell that it does.

* `Pacer.throttle?`: following the schedule with durations that are never negative.
* `Pacer.Sane`: what a look at the schedule may do, and that it does not go below zero.
* `Minds`: what an act of a paced console does to the schedule.
* `pacing_unobservable`: all this after any operations, and that pacing changes nothing else.
-/

namespace Famicom.Console

open Picture Processor

namespace Pacer

/-! ## Durations -/

/-- The difference of two durations, if the first is no shorter. -/
def minus? (a b : Nat) : Option Nat := if b ≤ a then some (a - b) else none

theorem minus?_of_le {a b : Nat} (le : b ≤ a) : minus? a b = some (a - b) := if_pos le

/-- The decision of `verdict`, with durations. -/
def verdict? (target elapsed : Nat) : Option Verdict :=
  if elapsed < target then
    (minus? target elapsed).map fun ahead => if minSleep ≤ ahead then .sleep ahead else .carryOn
  else
    (minus? elapsed target).map fun lag => if maxLag < lag then .giveUp lag else .carryOn

theorem verdict?_eq (target elapsed : Nat) :
    verdict? target elapsed = some (verdict target elapsed) := by
  unfold verdict? verdict
  split
  · rename_i ahead
    rw [minus?_of_le (Nat.le_of_lt ahead), Option.map_some]
  · rename_i behind
    rw [minus?_of_le (Nat.not_lt.mp behind), Option.map_some]

/-! ## Looks at the schedule -/

/-- The time that is due with so many cycles more. -/
def due (p : Pacer) (cycles : Nat) : Nat := { p with cycles := p.cycles + cycles }.emulatedTime

/-- The time that has passed when the clock is read next. -/
def passed (p : Pacer) (clock : Clock) : Nat := clock.read.1 - p.origin

/-- Counts cycles and does what was decided when the clock was read. -/
def heed (p : Pacer) (clock : Clock) (cycles : Nat) (v : Verdict) : Verdict × Pacer × Clock :=
  let counted := { p with cycles := p.cycles + cycles }
  match v with
  | .carryOn => (v, counted, clock.read.2)
  | .sleep ahead => (v, counted, clock.read.2.sleep ahead)
  | .giveUp _ => (v, counted.restart clock.read.2.read.1, clock.read.2.read.2)

theorem throttle_eq (p : Pacer) (clock : Clock) (cycles : Nat) :
    p.throttle clock cycles = p.heed clock cycles (verdict (p.due cycles) (p.passed clock)) := rfl

/-- Follows the schedule, with durations. -/
def throttle? (p : Pacer) (clock : Clock) (cycles : Nat) : Option (Verdict × Pacer × Clock) := do
  let elapsed ← minus? clock.read.1 p.origin
  let v ← verdict? (p.due cycles) elapsed
  return p.heed clock cycles v

/-- A schedule that has begun by the time of the clock, with a rate to divide by. -/
structure Begun (p : Pacer) (clock : Clock) : Prop where
  rate : 0 < p.rate
  origin : p.origin ≤ clock.now

theorem begun_start (rate : Nat) (clock : Clock) :
    Begun (.start rate clock.read.1) clock.read.2 where
  rate := Nat.lt_of_lt_of_le Nat.one_pos (Nat.le_max_right rate 1)
  origin := Nat.le_refl _

/-- A look at the schedule with so many cycles more. It sleeps only if it is ahead of the schedule,
and until it no longer is; it gives the schedule up only if it is far behind. -/
structure Sane (p : Pacer) (clock : Clock) (cycles : Nat) : Prop where
  rate : 0 < p.rate
  checked : p.throttle? clock cycles = some (p.throttle clock cycles)
  sleeps : (p.throttle clock cycles).2.2.slept = clock.slept ∨
    p.passed clock < p.due cycles ∧
      (p.throttle clock cycles).2.2.slept = clock.slept + (p.due cycles - p.passed clock)
  restarts : (p.throttle clock cycles).2.1 = { p with cycles := p.cycles + cycles } ∨
    p.due cycles + maxLag < p.passed clock

namespace Begun

variable {p : Pacer} {clock : Clock} (begun : p.Begun clock)

include begun

theorem restart : (p.restart clock.read.1).Begun clock.read.2 := ⟨begun.rate, Nat.le_refl _⟩

theorem sleep (n : Nat) : p.Begun (clock.sleep n) :=
  ⟨begun.rate, Nat.le_trans begun.origin (Nat.le_add_right _ _)⟩

theorem read : p.Begun clock.read.2 := ⟨begun.rate, Nat.le_trans begun.origin clock.le_read⟩

theorem count (cycles : Nat) : Begun { p with cycles := p.cycles + cycles } clock :=
  ⟨begun.rate, begun.origin⟩

theorem throttle (cycles : Nat) :
    (p.throttle clock cycles).2.1.Begun (p.throttle clock cycles).2.2 := by
  rw [throttle_eq]
  cases verdict (p.due cycles) (p.passed clock) with
  | carryOn => exact begun.read.count cycles
  | sleep ahead => exact (begun.read.count cycles).sleep ahead
  | giveUp lag => exact (begun.read.count cycles).restart

theorem sane (cycles : Nat) : p.Sane clock cycles := by
  have decided := verdict_cases (p.due cycles) (p.passed clock)
  constructor
  case rate => exact begun.rate
  case checked =>
    have elapsed : minus? clock.read.1 p.origin = some (p.passed clock) :=
      minus?_of_le (Nat.le_trans begun.origin clock.le_read)
    simp only [throttle?, elapsed, verdict?_eq, throttle_eq, Option.bind_eq_bind,
      Option.bind_some, Option.pure_def]
  case sleeps =>
    rw [throttle_eq]
    cases decision : verdict (p.due cycles) (p.passed clock) with
    | carryOn | giveUp lag => exact .inl rfl
    | sleep ahead =>
      rw [decision] at decided
      obtain ⟨early, exactly⟩ := decided
      refine .inr ⟨early, congrArg (clock.slept + ·) ?_⟩
      omega
  case restarts =>
    rw [throttle_eq]
    cases decision : verdict (p.due cycles) (p.passed clock) with
    | carryOn | sleep ahead => exact .inl rfl
    | giveUp lag =>
      rw [decision] at decided
      exact .inr decided.1

end Begun

end Pacer

/-! ## The schedule of a console -/

variable {S : Type}

/-- What concerns the schedule. -/
def pace (c : Console S) : Option Pacer × Clock := (c.pacer, c.clock)

theorem pace_machine (c : Console S) (m : Machine Bus) :
    { c with machine := m }.pace = c.pace := rfl

section

variable {c : Console S} {p : Pacer} {clock : Clock} (kept : c.pace = (some p, clock))

include kept

theorem pace_restartPacer :
    c.restartPacer.pace = (some (p.restart clock.read.1), clock.read.2) := by
  obtain ⟨paced, rfl⟩ := Prod.mk.inj kept
  simp only [restartPacer, paced, pace]

theorem pace_reset : c.reset.pace = (some (p.restart clock.read.1), clock.read.2) :=
  pace_restartPacer ((c.pace_machine c.machine.reset).trans kept)

theorem pace_throttle (cycles : Nat) :
    (c.throttle cycles).pace =
      (some (p.throttle clock cycles).2.1, (p.throttle clock cycles).2.2) := by
  obtain ⟨paced, rfl⟩ := Prod.mk.inj kept
  simp only [throttle, paced]
  split <;> rfl

end

variable [FrameSink S]

theorem pace_elapsed (c : Console S) (pending : Nat) : (c.elapsed pending).pace = c.pace := by
  unfold elapsed
  dsimp only
  split
  · rw [present_eq]
    rfl
  · rfl

theorem pace_catchUpRound (c : Console S) (pending : Nat) :
    (c.catchUpRound pending).2.pace = c.pace := by
  rw [catchUpRound_eq]
  split
  · exact (pace_machine _ _).trans (c.pace_elapsed pending)
  · exact c.pace_elapsed pending

theorem pace_catchUpRounds (c : Console S) (pending rounds : Nat) :
    (c.catchUpRounds pending rounds).2.pace = c.pace :=
  kept_catchUpRounds pace_catchUpRound c pending rounds

section

variable {c : Console S} {p : Pacer} {clock : Clock} (kept : c.pace = (some p, clock))

include kept

theorem pace_catchUp (cycles : Nat) :
    (c.catchUp cycles).2.pace =
      (some (p.throttle clock (c.catchUp cycles).1).2.1,
        (p.throttle clock (c.catchUp cycles).1).2.2) :=
  pace_throttle ((c.pace_catchUpRounds cycles 2).trans kept) _

theorem pace_nmi :
    c.nmi.2.pace =
      (some (p.throttle clock c.nmi.1).2.1, (p.throttle clock c.nmi.1).2.2) :=
  pace_catchUp ((c.pace_machine c.machine.nmi.2).trans kept) c.machine.nmi.1

theorem pace_irq :
    c.irq.2.pace =
      (some (p.throttle clock c.irq.1).2.1, (p.throttle clock c.irq.1).2.2) :=
  pace_catchUp ((c.pace_machine c.machine.irq.2).trans kept) c.machine.irq.1

end

/-- What an act of a console does to the schedule `p`. It looks at the schedule with the cycles that
it returns, or leaves it alone; only a reset of the console starts a new one, and a halted console
when it has waited. -/
inductive Minds (c : Console S) (p : Pacer) : Act → Prop
  | look {a : Act} {cycles : Nat} (returns : c.reply (.act a) = .cycles (.ok cycles))
      (sane : p.Sane c.clock cycles)
      (pace : (c.act a).pace =
        (some (p.throttle c.clock cycles).2.1, (p.throttle c.clock cycles).2.2)) : Minds c p a
  | leave {a : Act} (pace : (c.act a).pace = (some p, c.clock)) : Minds c p a
  | reset (pace : c.reset.pace = (some (p.restart c.clock.read.1), c.clock.read.2)) :
    Minds c p .reset
  | wait {clock : Clock} (slept : clock = c.clock.sleep (millisecond * c.settings.pollInterval))
      (pace : (Loop.wait c).pace = (some (p.restart clock.read.1), clock.read.2)) : Minds c p .wait

/-- **Every act of a console on a schedule minds it.** -/
theorem minds_act {c : Console S} {p : Pacer} (paced : c.pacer = some p) (begun : p.Begun c.clock)
    (a : Act) : Minds c p a := by
  have kept : c.pace = (some p, c.clock) := congrArg (·, c.clock) paced
  cases a with
  | step =>
    cases result : c.machine.step.1 with
    | ok cycles =>
      have step : c.step =
          (.ok (c.executed.catchUp cycles).1, (c.executed.catchUp cycles).2) := by
        simp only [Console.step, result]
        rfl
      have caught := pace_catchUp ((c.pace_machine c.machine.step.2).trans kept) cycles
      have returns : c.reply (.act .step) = .cycles (.ok (c.executed.catchUp cycles).1) := by
        simp only [reply, step]
      exact .look returns (begun.sane _) ((congrArg (fun r => r.2.pace) step).trans caught)
    | error fault =>
      have step : c.step = (.error fault, c.executed) := by
        simp only [Console.step, result]
        rfl
      exact .leave ((congrArg (fun r => r.2.pace) step).trans kept)
  | nmi => exact .look rfl (begun.sane _) (pace_nmi kept)
  | irq => exact .look rfl (begun.sane _) (pace_irq kept)
  | reset => exact .reset (pace_reset kept)
  | wait =>
    exact .wait rfl (pace_restartPacer
      (c := { c with clock := c.clock.sleep (millisecond * c.settings.pollInterval) })
      (congrArg (·, _) paced))
  | request r =>
    have left : (c.request r).pace = c.pace := by
      rw [request_eq]
      rfl
    exact .leave (left.trans kept)
  | toggleHalt | read _ | write _ _ | updateRegisters _ | takeReset | takeToggles | note _ =>
    exact .leave kept

/-- The console is paced, and its schedule has begun. -/
def OnSchedule (c : Console S) : Prop := ∃ p, c.pacer = some p ∧ p.Begun c.clock

omit [FrameSink S] in
theorem OnSchedule.of_pace {c : Console S} {p : Pacer} {clock : Clock}
    (pace : c.pace = (some p, clock)) (begun : p.Begun clock) : c.OnSchedule := by
  obtain ⟨pacer, rfl⟩ := Prod.mk.inj pace
  exact ⟨p, pacer, begun⟩

theorem OnSchedule.act {c : Console S} (onSchedule : c.OnSchedule) (a : Act) :
    (c.act a).OnSchedule := by
  obtain ⟨p, paced, begun⟩ := onSchedule
  cases minds_act paced begun a with
  | look _ _ pace => exact .of_pace pace (begun.throttle _)
  | leave pace => exact .of_pace pace begun
  | reset pace => exact .of_pace pace begun.restart
  | wait slept pace => exact .of_pace pace (slept ▸ (begun.sleep _).restart)

theorem OnSchedule.actAll {c : Console S} (onSchedule : c.OnSchedule) (as : List Act) :
    (c.actAll as).OnSchedule := by
  induction as generalizing c with
  | nil => exact onSchedule
  | cons a rest ih => exact ih (onSchedule.act a)

omit [FrameSink S] in
/-- A paced console is on schedule from the start. -/
theorem onSchedule_ofCartridge (cartridge : Cartridge) (joypad : Joypad) (sink : S)
    (settings : Settings) (clock : Clock) (journal : Journal) :
    (ofCartridge cartridge joypad sink { settings with paced := true } clock
      journal).OnSchedule := by
  have begun := Pacer.begun_start settings.rate clock
  unfold ofCartridge
  exact .of_pace (pace_reset rfl) begun.restart

/-! ## Pacing and emulation -/

/-- The consoles are the same but for their journals and what concerns the schedule. -/
structure SameEmulation (c d : Console S) : Prop where
  core : c.machine.core = d.machine.core
  storage : c.bus.storage = d.bus.storage
  picture : c.picture = d.picture
  connector : c.bus.connector = d.bus.connector
  sink : c.sink = d.sink
  control : c.control = d.control

omit [FrameSink S] in
theorem Twins.sameEmulation {c d : Console S} (twins : Twins c d) : SameEmulation c d where
  core := by
    have core : c.essence.core = d.essence.core := congrArg Machine.core twins.alike.essence
    exact core
  storage := congrArg (·.memory.storage) twins.alike.essence
  picture := twins.alike.picture
  connector := congrArg (·.memory.connector) twins.alike.essence
  sink := twins.alike.sink
  control := twins.control

omit [FrameSink S] in
/-- New consoles with the same cartridge, joypad and sink are twins. -/
theorem twins_ofCartridge (cartridge : Cartridge) (joypad : Joypad) (sink : S)
    (settings settings' : Settings) (clock clock' : Clock) (journal journal' : Journal) :
    Twins (ofCartridge cartridge joypad sink settings clock journal)
      (ofCartridge cartridge joypad sink settings' clock' journal') :=
  Twins.reset ⟨⟨rfl, rfl⟩, rfl⟩

/-- The act minds the schedule of the console, which has one. -/
def KeepsSchedule (c : Console S) (a : Act) : Prop := ∃ p, c.pacer = some p ∧ Minds c p a

/-- **Pacing does not influence the emulation**: whatever the settings and the clocks, the same
operations return the same, leave the same console and show its sink the same frames. And after any
acts, the acts that operations consist of among them, every act of a paced console minds its
schedule. -/
theorem pacing_unobservable (cartridge : Cartridge) (joypad : Joypad) (sink : S)
    (settings settings' : Settings) (clock clock' : Clock) (journal journal' : Journal)
    (os : List Operation) :
    let c : Console S := ofCartridge cartridge joypad sink settings clock journal
    let d : Console S := ofCartridge cartridge joypad sink settings' clock' journal'
    let r : Console (Recorder S) :=
      ofCartridge cartridge joypad ⟨sink, []⟩ settings clock journal
    let t : Console (Recorder S) :=
      ofCartridge cartridge joypad ⟨sink, []⟩ settings' clock' journal'
    let paced : Console S :=
      ofCartridge cartridge joypad sink { settings with paced := true } clock journal
    c.replies os = d.replies os ∧ SameEmulation (c.operateAll os) (d.operateAll os) ∧
      (r.operateAll os).sink.frames = (t.operateAll os).sink.frames ∧
      ∀ as a, KeepsSchedule (paced.actAll as) a := by
  intro c d r t paced
  have twins : Twins c d := twins_ofCartridge _ _ _ _ _ _ _ _ _
  have recorders : Twins r t := twins_ofCartridge _ _ _ _ _ _ _ _ _
  obtain ⟨returned, after⟩ := twins.operateAll os
  refine ⟨returned, after.sameEmulation, ?_, fun as a => ?_⟩
  · exact congrArg Recorder.frames (recorders.operateAll os).2.alike.sink
  · have onSchedule : paced.OnSchedule := onSchedule_ofCartridge _ _ _ _ _ _
    obtain ⟨p, pacer, begun⟩ := onSchedule.actAll as
    exact ⟨p, pacer, minds_act pacer begun a⟩

end Famicom.Console

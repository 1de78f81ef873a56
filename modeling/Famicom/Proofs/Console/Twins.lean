import Famicom.Proofs.Console.Alike
import Famicom.Proofs.Console.Moves
import Famicom.Proofs.Console.Turns

/-!
# Nothing can be told from the clock

Two consoles that differ in their journals, settings, pacers and clocks only go on like this whatever
is done with both, and every operation returns the same on both. So neither the time that passes nor
whether the console follows it can be told from what a program, a sink or the user of the console gets
to see.

* `Twins`: the consoles.
* `Twins.step`, `Twins.act`, `Twins.operate`: they stay twins.
* `reply` and `replies`: what operations return.
* `Twins.replies`: it is the same on both sides.
-/

namespace Famicom.Console

open Processor

variable {S : Type}

/-- Two consoles that differ in their journals, settings, pacers and clocks only. -/
structure Twins (c d : Console S) : Prop where
  alike : Alike (· = ·) c d
  control : c.control = d.control

instance [FrameSink S] : Follows (Eq (α := S)) where
  sink := by
    rintro s _ frame rfl
    rfl
  joypad := by
    rintro s _ frame rfl
    rfl

/-! ## Requests of the sink -/

section

variable [FrameSink S] {c d : Console S}

theorem Alike.roundRequests (alike : Alike (· = ·) c d) (pending : Nat) :
    c.roundRequests pending = d.roundRequests pending := by
  obtain ⟨signals, bus⟩ := alike.advance (pending * dotsPerCycle)
  have frame := congrArg (·.picture.frame) bus
  unfold Console.roundRequests
  dsimp only [Bus.silenced] at frame ⊢
  rw [signals, frame, alike.sink]

/-- A sink that is shown the same frames makes the same requests. -/
theorem Alike.catchUpRequests (alike : Alike (· = ·) c d) (pending rounds : Nat) :
    c.catchUpRequests pending rounds = d.catchUpRequests pending rounds := by
  induction rounds generalizing c d pending with
  | zero => rfl
  | succ rounds ih =>
    obtain ⟨next, round⟩ := alike.catchUpRound pending
    unfold Console.catchUpRequests
    rw [alike.roundRequests, next, ih round]

end

namespace Twins

variable {c d : Console S}

/-! ## Acts -/

theorem machine (twins : Twins c d) (f : Machine Bus → Machine Bus)
    (blind : ∀ s, f (s.along Bus.silenced) = (f s).along Bus.silenced) :
    Twins { c with machine := f c.machine } { d with machine := f d.machine } :=
  ⟨twins.alike.machine f blind, twins.control⟩

theorem note (twins : Twins c d) (e e' : Event) : Twins (c.note e) (d.note e') :=
  ⟨⟨twins.alike.essence, twins.alike.sink⟩, twins.control⟩

theorem restartPacer (twins : Twins c d) : Twins c.restartPacer d.restartPacer := by
  obtain ⟨pacer, clock, restarted⟩ := c.restartPacer_eq
  obtain ⟨pacer', clock', restarted'⟩ := d.restartPacer_eq
  rw [restarted, restarted']
  exact ⟨⟨twins.alike.essence, twins.alike.sink⟩, twins.control⟩

theorem reset (twins : Twins c d) : Twins c.reset d.reset :=
  (twins.machine (·.reset) fun s => s.reset_along Bus.silenced).restartPacer.note _ _

theorem wait (twins : Twins c d) : Twins (Loop.wait c) (Loop.wait d) :=
  restartPacer ⟨⟨twins.alike.essence, twins.alike.sink⟩, twins.control⟩

theorem request (twins : Twins c d) (r : Request) : Twins (c.request r) (d.request r) := by
  have touched := twins.alike.machine (·.along (·.mapJoypad r.handle)) fun _ => rfl
  rw [request_eq, request_eq]
  exact ⟨⟨touched.essence, twins.alike.sink⟩, congrArg (·.request r) twins.control⟩

theorem requestAll (twins : Twins c d) (rs : List Request) :
    Twins (c.requestAll rs) (d.requestAll rs) := by
  induction rs generalizing c d with
  | nil => exact twins
  | cons r rs ih => exact ih (twins.request r)

theorem read (twins : Twins c d) (address : UInt16) :
    (c.read address).1 = (d.read address).1 ∧
      Twins (c.read address).2 (d.read address).2 := by
  have byte := congrArg (fun s : Machine Bus => (s.read address).1) twins.alike.essence
  unfold essence at byte
  simp only [Machine.read_along] at byte
  exact ⟨byte, twins.machine (fun s => (s.read address).2)
    fun s => congrArg Prod.snd (s.read_along Bus.silenced address)⟩

variable [FrameSink S]

theorem catchUp (twins : Twins c d) (cycles : Nat) :
    (c.catchUp cycles).1 = (d.catchUp cycles).1 ∧
      Twins (c.catchUp cycles).2 (d.catchUp cycles).2 := by
  obtain ⟨spent, alike⟩ := twins.alike.catchUp cycles
  refine ⟨spent, alike, ?_⟩
  unfold Console.catchUp
  rw [control_throttle, control_throttle, control_catchUpRounds_eq, control_catchUpRounds_eq,
    twins.control, twins.alike.catchUpRequests]

/-- **Twins take the same step.** -/
theorem step (twins : Twins c d) : c.step.1 = d.step.1 ∧ Twins c.step.2 d.step.2 := by
  obtain ⟨result, alike⟩ := twins.alike.executed
  have executed : Twins c.executed d.executed := ⟨alike, twins.control⟩
  unfold Console.step
  dsimp only
  rw [result]
  split
  · rename_i cycles _
    obtain ⟨spent, after⟩ := executed.catchUp cycles
    exact ⟨congrArg Except.ok spent, after⟩
  · exact ⟨rfl, executed⟩

theorem nmi (twins : Twins c d) : c.nmi.1 = d.nmi.1 ∧ Twins c.nmi.2 d.nmi.2 := by
  have entered := twins.machine (·.nmi.2) fun s => by simp only [Machine.nmi_along]
  exact entered.catchUp interruptCycles

theorem irq (twins : Twins c d) : c.irq.1 = d.irq.1 ∧ Twins c.irq.2 d.irq.2 := by
  have cycles := congrArg (·.irq.1) twins.alike.essence
  unfold essence at cycles
  simp only [Machine.irq_along] at cycles
  have entered := twins.machine (·.irq.2) fun s => congrArg Prod.snd (s.irq_along Bus.silenced)
  unfold Console.irq
  dsimp only
  rw [cycles]
  exact entered.catchUp _

/-- **Twins stay twins whatever is done with both.** -/
theorem act (twins : Twins c d) (a : Act) : Twins (c.act a) (d.act a) := by
  cases a with
  | step => exact twins.step.2
  | nmi => exact twins.nmi.2
  | irq => exact twins.irq.2
  | reset => exact twins.reset
  | toggleHalt => exact twins.machine (·.toggleHalt) fun s => s.toggleHalt_along Bus.silenced
  | read address => exact (twins.read address).2
  | write address v =>
    exact twins.machine (·.write address v) fun s => s.write_along Bus.silenced address v
  | updateRegisters f => exact twins.machine (·.update f) fun s => s.update_along Bus.silenced f
  | request r => exact twins.request r
  | takeReset =>
    exact ⟨⟨twins.alike.essence, twins.alike.sink⟩, congrArg (·.takeReset.2) twins.control⟩
  | takeToggles =>
    exact ⟨⟨twins.alike.essence, twins.alike.sink⟩, congrArg (·.takeHaltToggles.2) twins.control⟩
  | note e => exact twins.note e e
  | wait => exact twins.wait

/-! ## Runs -/

theorem runToFrame (twins : Twins c d) (target fuel : Nat) :
    (c.runToFrame target fuel).1 = (d.runToFrame target fuel).1 ∧
      Twins (c.runToFrame target fuel).2 (d.runToFrame target fuel).2 := by
  induction fuel generalizing c d with
  | zero => exact ⟨rfl, twins⟩
  | succ fuel ih =>
    obtain ⟨result, stepped⟩ := twins.step
    unfold Console.runToFrame
    dsimp only
    rw [twins.alike.frameCount, twins.alike.isHalted, result]
    split
    · exact ⟨rfl, twins⟩
    · split
      · exact ⟨rfl, twins⟩
      · split
        · exact ih stepped
        · exact ⟨rfl, stepped⟩

theorem runForBlank (twins : Twins c d) (start spent limit fuel : Nat) :
    (c.runForBlank start spent limit fuel).1 = (d.runForBlank start spent limit fuel).1 ∧
      Twins (c.runForBlank start spent limit fuel).2
        (d.runForBlank start spent limit fuel).2 := by
  induction fuel generalizing c d spent with
  | zero => exact ⟨rfl, twins⟩
  | succ fuel ih =>
    obtain ⟨result, stepped⟩ := twins.step
    unfold Console.runForBlank
    dsimp only
    rw [twins.alike.isHalted, result]
    split
    · exact ⟨rfl, twins⟩
    · split
      · exact ⟨rfl, twins⟩
      · split
        · rw [stepped.alike.frameCount]
          split
          · exact ⟨rfl, stepped⟩
          · exact ih stepped _
        · exact ⟨rfl, stepped⟩

end Twins

/-! ## The free run -/

namespace Loop

variable [FrameSink S]

/-- Two loops in the same phase, with twins. -/
structure Twins (l m : Loop S) : Prop where
  console : Console.Twins l.console m.console
  phase : l.phase = m.phase

namespace Twins

variable {l m : Loop S}

theorem step (paired : Twins l m) : Twins l.step m.step := by
  obtain ⟨c, phase⟩ := l
  obtain ⟨d, _⟩ := m
  obtain ⟨twins, rfl⟩ := paired
  dsimp only at twins
  have control := twins.control
  cases phase with
  | takeReset =>
    refine ⟨twins.act .takeReset, ?_⟩
    simp only [Loop.step, control]
  | applyReset => exact ⟨twins.reset, rfl⟩
  | takeToggles =>
    refine ⟨twins.act .takeToggles, ?_⟩
    simp only [Loop.step, control]
  | applyToggles n =>
    unfold Loop.step
    dsimp only
    split
    · exact ⟨twins, rfl⟩
    · exact ⟨twins.act .toggleHalt, rfl⟩
  | checkStop =>
    unfold Loop.step
    dsimp only
    rw [control]
    split
    · exact ⟨twins.note _ _, rfl⟩
    · exact ⟨twins, rfl⟩
  | proceed =>
    obtain ⟨result, stepped⟩ := twins.step
    unfold Loop.step
    dsimp only
    rw [twins.alike.isHalted, result]
    split
    · exact ⟨twins.wait, rfl⟩
    · split <;> exact ⟨stepped, rfl⟩
  | ended result => exact ⟨twins, rfl⟩

theorem drive (twins : Twins l m) (schedule : List (List Request)) :
    Twins (l.drive schedule) (m.drive schedule) := by
  induction schedule generalizing l m with
  | nil => exact twins
  | cons rs rest ih =>
    have asked : Twins { l with console := l.console.requestAll rs }
        { m with console := m.console.requestAll rs } := ⟨twins.console.requestAll rs, twins.phase⟩
    exact ih asked.step

end Twins

/-- How the loop has ended, if it has. -/
def result? (l : Loop S) : Option (Except Failure Unit) :=
  match l.phase with
  | .ended r => some r
  | _ => none

end Loop

/-! ## What operations return -/

/-- What an operation returns. A free run may be still going on. -/
inductive Reply where
  | nothing
  | cycles (result : Except Fault Nat)
  | byte (v : UInt8)
  | run (result : Except Failure Unit)
  | freeRun (result : Option (Except Failure Unit))

variable [FrameSink S]

def reply (c : Console S) : Operation → Reply
  | .act .step => .cycles c.step.1
  | .act .nmi => .cycles (.ok c.nmi.1)
  | .act .irq => .cycles (.ok c.irq.1)
  | .act (.read address) => .byte (c.read address).1
  | .act _ => .nothing
  | .runFrames n => .run (c.runFrames n).1
  | .runToBlank => .run c.runToBlank.1
  | .run schedule => .freeRun ((Loop.start c).drive schedule).result?

/-- What operations return, one after the other. -/
def replies (c : Console S) : List Operation → List Reply
  | [] => []
  | o :: rest => c.reply o :: (c.operate o).2.replies rest

namespace Twins

variable {c d : Console S}

/-- **Twins stay twins over every operation, and it returns the same.** -/
theorem operate (twins : Twins c d) (o : Operation) :
    c.reply o = d.reply o ∧ Twins (c.operate o).2 (d.operate o).2 := by
  cases o with
  | act a =>
    refine ⟨?_, twins.act a⟩
    cases a with
    | step => exact congrArg Reply.cycles twins.step.1
    | nmi => exact congrArg (Reply.cycles ∘ .ok) twins.nmi.1
    | irq => exact congrArg (Reply.cycles ∘ .ok) twins.irq.1
    | read address => exact congrArg Reply.byte (twins.read address).1
    | _ => rfl
  | runFrames n =>
    have run := twins.runToFrame ((c.frameCount + n) % UInt64.size) ((n + 1) * dotsPerFrame)
    unfold reply Console.operate runFrames
    rw [← twins.alike.frameCount]
    exact ⟨congrArg Reply.run run.1, run.2⟩
  | runToBlank =>
    have run := twins.runForBlank c.frameCount 0 (2 * cyclesPerFrame) (2 * cyclesPerFrame)
    unfold reply Console.operate Console.runToBlank
    rw [← twins.alike.frameCount]
    exact ⟨congrArg Reply.run run.1, run.2⟩
  | run schedule =>
    have started : Loop.Twins (Loop.start c) (Loop.start d) := ⟨twins.note _ _, rfl⟩
    have driven := started.drive schedule
    refine ⟨?_, driven.console⟩
    simp only [reply, Loop.result?, driven.phase]

theorem operateAll (twins : Twins c d) (os : List Operation) :
    c.replies os = d.replies os ∧ Twins (c.operateAll os) (d.operateAll os) := by
  induction os generalizing c d with
  | nil => exact ⟨rfl, twins⟩
  | cons o rest ih =>
    obtain ⟨first, after⟩ := twins.operate o
    obtain ⟨others, last⟩ := ih after
    exact ⟨congrArg₂ List.cons first others, last⟩

end Twins

end Famicom.Console

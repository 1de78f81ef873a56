import Famicom.Proofs.Console.Alike
import Famicom.Proofs.Console.Progress
import Famicom.Proofs.Console.Stopping

/-!
# The drivers of a console

A console is driven to a number of frames by a bounded run, by runs to vertical blank one after the
other, or by the free-running loop with a sink that asks for a stop when it has seen enough. Each
has a test of its own for when it is done, and each stops after the very same instruction.

* `RunsTo`: running until a frame is finished or the processor faults, which all of them come to.
* `Countdown`: a sink that asks for a stop with its last frame.
* `runsTo_runFrames`, `runsTo_runBlanks`, `Loop.ended_of_runsTo`: the drivers one by one.
* `drivers_agree`: they end in the same state, and a bounded run is the same in two parts.
-/

namespace Famicom.Console

open Picture Processor

section

variable {S : Type} [FrameSink S]

/-! ## Running to a frame -/

/-- Executing instructions until the frame count reaches `target` or an instruction fails: the
console before, the result and the console after. -/
inductive RunsTo (target : Nat) : Console S → Except Failure Unit → Console S → Prop where
  | arrived {c : Console S} (reached : target ≤ c.frameCount) : RunsTo target c (.ok ()) c
  | step {c d : Console S} {cycles : Nat} {r : Except Failure Unit} (short : c.frameCount < target)
    (succeeds : c.step.1 = .ok cycles) (rest : RunsTo target c.step.2 r d) : RunsTo target c r d
  | fault {c : Console S} {e : Fault} (short : c.frameCount < target)
    (fails : c.step.1 = .error e) : RunsTo target c (.error (.fault e)) c.step.2

namespace RunsTo

variable {s t : Nat} {c d e : Console S} {r r' : Except Failure Unit}

/-- There is one way to run to a frame. -/
theorem unique (run : RunsTo t c r d) (run' : RunsTo t c r' e) : r = r' ∧ d = e := by
  induction run with
  | arrived reached =>
    cases run' with
    | arrived => exact ⟨rfl, rfl⟩
    | step short | fault short => exact absurd reached (Nat.not_le.mpr short)
  | step short succeeds _ ih =>
    cases run' with
    | arrived reached => exact absurd reached (Nat.not_le.mpr short)
    | step _ _ rest => exact ih rest
    | fault _ fails =>
      rw [succeeds] at fails
      cases fails
  | fault short fails =>
    cases run' with
    | arrived reached => exact absurd reached (Nat.not_le.mpr short)
    | step _ succeeds =>
      rw [succeeds] at fails
      cases fails
    | fault _ fails' =>
      rw [fails] at fails'
      cases fails'
      exact ⟨rfl, rfl⟩

/-- A run ends well or with a fault of the processor. -/
theorem result (run : RunsTo t c r d) : r = .ok () ∨ ∃ fault, r = .error (.fault fault) := by
  induction run with
  | arrived => exact .inl rfl
  | step _ _ _ ih => exact ih
  | fault => exact .inr ⟨_, rfl⟩

/-- A run that ends well goes on to a later frame. -/
theorem trans (first : RunsTo s c (.ok ()) d) (later : s ≤ t) (second : RunsTo t d r e) :
    RunsTo t c r e := by
  generalize ended : Except.ok () = well at first
  induction first with
  | arrived => exact second
  | step short succeeds _ ih =>
    exact .step (Nat.lt_of_lt_of_le short later) succeeds (ih second ended)
  | fault => cases ended

/-- A fault on the way to a frame is one on the way to a later frame. -/
theorem fault_mono {failure : Failure} (run : RunsTo s c (.error failure) d) (later : s ≤ t) :
    RunsTo t c (.error failure) d := by
  generalize ended : Except.error failure = badly at run
  induction run with
  | arrived => cases ended
  | step short succeeds _ ih => exact .step (Nat.lt_of_lt_of_le short later) succeeds (ih ended)
  | fault short fails => exact .fault (Nat.lt_of_lt_of_le short later) fails

/-- A run that ends well stops at its frame and not later, and the console can go on. -/
theorem live (run : RunsTo t c (.ok ()) d) (live : c.Live) (before : c.frameCount ≤ t) :
    d.Live ∧ d.frameCount = t := by
  generalize ended : Except.ok () = well at run
  induction run with
  | arrived reached => exact ⟨live, Nat.le_antisymm before reached⟩
  | step short succeeds _ ih =>
    refine ih live.step ?_ ended
    obtain ⟨same, -⟩ | ⟨frame, next, -⟩ := step_cases live.timed.place succeeds
    · rw [same]
      exact before
    · rw [next]
      exact short
  | fault => cases ended

end RunsTo

/-! ## The bounded run -/

/-- With fuel for all the dots, a bounded run does not run out of it. -/
theorem runsTo_runToFrame {c : Console S} (live : c.Live) {target fuel : Nat}
    (enough : target * dotsPerFrame ≤ c.picture.totalDots + fuel) :
    RunsTo target c (c.runToFrame target fuel).1 (c.runToFrame target fuel).2 := by
  induction fuel generalizing c with
  | zero => exact .arrived (live.timed.reached enough)
  | succ fuel ih =>
    unfold runToFrame
    by_cases reached : target ≤ c.frameCount
    · rw [if_pos reached]
      exact .arrived reached
    · have short : c.frameCount < target := Nat.not_le.mp reached
      simp only [if_neg reached, live.running, Bool.false_eq_true, if_false]
      cases result : c.step.1 with
      | ok cycles =>
        have positive := live.cycles_pos result
        have passed := totalDots_step result
        refine .step short result (ih live.step ?_)
        rw [passed, dotsPerCycle]
        omega
      | error e => exact .fault short result

theorem runsTo_runFrames {c : Console S} (live : c.Live) {n : Nat}
    (fits : c.frameCount + n < UInt64.size) :
    RunsTo (c.frameCount + n) c (c.runFrames n).1 (c.runFrames n).2 := by
  have frames := live.timed.frames_le
  unfold runFrames
  rw [Nat.mod_eq_of_lt fits]
  refine runsTo_runToFrame live ?_
  rw [Nat.add_mul, Nat.add_mul]
  have entry : 7161 ≤ dotsPerFrame := by decide
  omega

/-- **A bounded run is the same in two parts**, if the first one ends well. -/
theorem runFrames_add {c : Console S} (live : c.Live) {m n : Nat}
    (fits : c.frameCount + (m + n) < UInt64.size) (succeeds : (c.runFrames m).1 = .ok ()) :
    (c.runFrames m).2.runFrames n = c.runFrames (m + n) := by
  have first := runsTo_runFrames (n := m) live (by omega)
  rw [succeeds] at first
  obtain ⟨later, frames⟩ := first.live live (Nat.le_add_right _ _)
  have second := runsTo_runFrames (n := n) later (by omega)
  have both := first.trans (Nat.le_add_right _ n) (frames ▸ second)
  rw [Nat.add_assoc] at both
  exact Prod.ext_iff.mpr (both.unique (runsTo_runFrames live fits))

/-! ## Runs to vertical blank -/

/-- Runs to vertical blank `n` times, unless a run fails. -/
def runBlanks (c : Console S) : (n : Nat) → Except Failure Unit × Console S
  | 0 => (.ok (), c)
  | n + 1 =>
    let r := c.runToBlank
    match r.1 with
    | .ok _ => r.2.runBlanks n
    | .error failure => (.error failure, r.2)

omit [FrameSink S] in
/-- Before vertical blank begins, fewer cycles are spent than are allowed. -/
theorem spent_lt {c : Console S} (live : c.Live) {start spent : Nat} (before : c.frameCount ≤ start)
    (passed : start * dotsPerFrame + spent * dotsPerCycle ≤ c.picture.totalDots + 7161) :
    spent < 2 * cyclesPerFrame := by
  have few := live.timed.lt_frames
  have frames : (c.frameCount + 1) * dotsPerFrame ≤ (start + 1) * dotsPerFrame :=
    Nat.mul_le_mul_right _ (Nat.succ_le_succ before)
  have limit : dotsPerFrame < 2 * cyclesPerFrame * dotsPerCycle := by decide
  rw [Nat.succ_mul start] at frames
  rw [dotsPerCycle] at passed limit
  omega

/-- A run to vertical blank is not cut short by the limit on its cycles. -/
theorem runsTo_runForBlank {c : Console S} (live : c.Live) {start spent fuel : Nat}
    (before : c.frameCount ≤ start)
    (passed : start * dotsPerFrame + spent * dotsPerCycle ≤ c.picture.totalDots + 7161)
    (enough : 2 * cyclesPerFrame ≤ spent + fuel) :
    RunsTo (start + 1) c (c.runForBlank start spent (2 * cyclesPerFrame) fuel).1
      (c.runForBlank start spent (2 * cyclesPerFrame) fuel).2 := by
  induction fuel generalizing c spent with
  | zero => exact absurd enough (Nat.not_le.mpr (spent_lt live before passed))
  | succ fuel ih =>
    have short : c.frameCount < start + 1 := Nat.lt_succ_of_le before
    have within := spent_lt live before passed
    unfold runForBlank
    simp only [if_neg (Nat.not_le.mpr within), live.running, Bool.false_eq_true, if_false]
    cases result : c.step.1 with
    | ok cycles =>
      have positive := live.cycles_pos result
      have dots := totalDots_step result
      refine .step short result ?_
      dsimp only
      by_cases finished : start < c.step.2.frameCount
      · rw [if_pos finished]
        exact .arrived finished
      · rw [if_neg finished]
        refine ih live.step (Nat.not_lt.mp finished) ?_ (by omega)
        rw [dots, Nat.add_mul]
        omega
    | error e => exact .fault short result

theorem runsTo_runToBlank {c : Console S} (live : c.Live) :
    RunsTo (c.frameCount + 1) c c.runToBlank.1 c.runToBlank.2 := by
  have frames := live.timed.frames_le
  unfold runToBlank
  exact runsTo_runForBlank live (Nat.le_refl _) (by omega) (by omega)

theorem runsTo_runBlanks {c : Console S} (live : c.Live) (n : Nat) :
    RunsTo (c.frameCount + n) c (c.runBlanks n).1 (c.runBlanks n).2 := by
  induction n generalizing c with
  | zero => exact .arrived (Nat.le_refl _)
  | succ n ih =>
    have first := runsTo_runToBlank live
    have later : c.frameCount + 1 ≤ c.frameCount + (n + 1) := by omega
    unfold runBlanks
    dsimp only
    cases result : c.runToBlank.1 with
    | ok _ =>
      rw [result] at first
      obtain ⟨next, frames⟩ := first.live live (Nat.le_succ _)
      have rest := ih next
      rw [frames, Nat.add_assoc, Nat.add_comm 1] at rest
      exact first.trans later rest
    | error failure =>
      rw [result] at first
      exact first.fault_mono later

end

theorem Alike.live {S T : Type} {ρ : S → T → Prop} {c : Console S} {d : Console T}
    (alike : Alike ρ c d) (live : c.Live) : d.Live := by
  refine ⟨?_, alike.isHalted.symm.trans live.running⟩
  have timed := live.timed
  unfold Timed at timed ⊢
  rw [← alike.picture]
  exact timed

/-! ## The free run -/

/-- A sink that presses and releases buttons at most. -/
class Onlooker (S : Type) [FrameSink S] : Prop where
  buttons : ∀ (s : S) (frame : Frame), ∀ r ∈ (FrameSink.present s frame).2,
    ∃ button, r = .press button ∨ r = .release button

instance {S : Type} [FrameSink S] [SilentSink S] : Onlooker S where
  buttons s frame r asked := by
    rw [SilentSink.silent] at asked
    cases asked

instance {S : Type} [FrameSink S] [Onlooker S] : Onlooker (Recorder S) where
  buttons s frame := Onlooker.buttons s.inner frame

/-- A sink that asks for a stop when so many frames are shown to it. -/
structure Countdown (S : Type) where
  inner : S
  left : Nat

variable {S : Type} [FrameSink S]

instance : FrameSink (Countdown S) where
  present s frame :=
    let r := FrameSink.present s.inner frame
    (⟨r.1, s.left - 1⟩, r.2 ++ if s.left = 1 then [.stop] else [])

/-- The sink inside. -/
def Inside (s : S) (t : Countdown S) : Prop := s = t.inner

instance : Follows (Inside (S := S)) where
  sink := by
    rintro s t frame rfl
    rfl
  joypad := by
    rintro s t frame rfl
    funext j
    refine Eq.symm ((handleAll_append _ _ j).trans ?_)
    split <;> rfl

/-- Buttons are no business of the run control. -/
theorem requestAll_of_buttons {rs : List Request}
    (buttons : ∀ r ∈ rs, ∃ button, r = .press button ∨ r = .release button) (c : Control) :
    c.requestAll rs = c := by
  induction rs with
  | nil => rfl
  | cons r rs ih =>
    have same : c.request r = c := by
      obtain ⟨button, rfl | rfl⟩ := buttons r List.mem_cons_self <;> rfl
    refine (congrArg (Control.requestAll · rs) same).trans (ih fun r member => ?_)
    exact buttons r (List.mem_cons_of_mem _ member)

/-- The countdown of the sink ends with the frame `target`, and a stop is asked for exactly if it is
over. -/
structure CountsTo (target : Nat) (c : Console (Countdown S)) : Prop where
  frames : c.frameCount + c.sink.left = target
  control : c.control = { Control.idle with stop := decide (c.sink.left = 0) }

omit [FrameSink S] in
/-- Before the last frame nothing is asked. -/
theorem CountsTo.idle {target : Nat} {c : Console (Countdown S)} (counts : CountsTo target c)
    (short : c.frameCount < target) : c.control = .idle := by
  have counted := counts.frames
  have more : c.sink.left ≠ 0 := by omega
  rw [counts.control, decide_eq_false more]
  rfl

/-- A step counts the frame that it finishes. -/
theorem CountsTo.step [Onlooker S] {target : Nat} {c : Console (Countdown S)}
    (counts : CountsTo target c) (live : c.Live) (short : c.frameCount < target) {cycles : Nat}
    (succeeds : c.step.1 = .ok cycles) : CountsTo target c.step.2 := by
  have counted := counts.frames
  obtain ⟨frames, sink, control⟩ | ⟨frame, frames, sink, control⟩ :=
    step_cases live.timed.place succeeds
  · refine ⟨?_, ?_⟩
    · rw [frames, sink]
      exact counted
    · rw [control, sink]
      exact counts.control
  · have left : c.step.2.sink.left = c.sink.left - 1 := congrArg Countdown.left sink
    refine ⟨by omega, ?_⟩
    have buttons := Onlooker.buttons c.sink.inner frame
    have asked : c.step.2.control =
        (c.control.requestAll (FrameSink.present c.sink.inner frame).2).requestAll
          (if c.sink.left = 1 then [.stop] else []) :=
      control.trans (Control.requestAll_append _ _ _)
    rw [asked, requestAll_of_buttons buttons, counts.idle short, left]
    by_cases last : c.sink.left = 1
    · rw [if_pos last, last]
      rfl
    · have still : c.sink.left - 1 ≠ 0 := by omega
      rw [if_neg last, decide_eq_false still]
      rfl

namespace Loop

theorem run_nil_ended (c : Console S) (r : Except Failure Unit) (fuel : Nat) :
    (⟨c, .ended r⟩ : Loop S).run [] fuel = ⟨c, .ended r⟩ := by
  cases fuel <;> rfl

/-- Without requests from outside a run takes one step after the other. -/
theorem run_nil_succ (l : Loop S) (fuel : Nat) : l.run [] (fuel + 1) = l.step.run [] fuel := by
  obtain ⟨c, phase⟩ := l
  cases phase with
  | ended r => exact (run_nil_ended c r (fuel + 1)).trans (run_nil_ended c r fuel).symm
  | _ => rfl

/-- With nothing asked but a stop the loop comes to its look for a stop. -/
theorem poll {c : Console S} {stop : Bool} (asked : c.control = { Control.idle with stop }) :
    (⟨c, .takeReset⟩ : Loop S).step.step.step = ⟨c, .checkStop⟩ := by
  obtain ⟨machine, sink, settings, pacer, clock, control⟩ := c
  obtain rfl : control = { Control.idle with stop } := asked
  rfl

theorem run_of_stop {c : Console S} (asked : c.control = { Control.idle with stop := true })
    (fuel : Nat) :
    (⟨c, .takeReset⟩ : Loop S).run [] (fuel + 4) =
      ⟨c.note (.loopStopped c.machine.registers.pc), .ended (.ok ())⟩ := by
  have stop : c.control.stop = true := congrArg Control.stop asked
  rw [run_nil_succ, run_nil_succ, run_nil_succ, poll asked, run_nil_succ]
  simp only [step, stop, if_true, run_nil_ended]

/-- A round of the loop without requests executes an instruction. -/
theorem run_of_idle {c : Console S} (idle : c.control = .idle) (running : c.isHalted = false)
    (fuel : Nat) :
    (⟨c, .takeReset⟩ : Loop S).run [] (fuel + 5) =
      match c.step.1 with
      | .ok _ => (⟨c.step.2, .takeReset⟩ : Loop S).run [] fuel
      | .error e => ⟨c.step.2, .ended (.error (.fault e))⟩ := by
  have stop : c.control.stop = false := congrArg Control.stop idle
  have proceed : (⟨c, .checkStop⟩ : Loop S).step = ⟨c, .proceed⟩ := by
    simp only [step, stop, Bool.false_eq_true, if_false]
  rw [run_nil_succ, run_nil_succ, run_nil_succ, poll idle, run_nil_succ, proceed, run_nil_succ]
  cases result : c.step.1 with
  | ok cycles => simp only [step, running, result, Bool.false_eq_true, if_false]
  | error e => simp only [step, running, result, Bool.false_eq_true, if_false, run_nil_ended]

/-- **The free run ends as running to the last frame does**, and leaves a console that is alike. -/
theorem ended_of_runsTo [Onlooker S] {target : Nat} {c d : Console S} {r : Except Failure Unit}
    (run : RunsTo target c r d) (live : c.Live) {e : Console (Countdown S)}
    (alike : Alike Inside c e) (counts : CountsTo target e) :
    ∃ enough, ∀ fuel, enough ≤ fuel →
      ((⟨e, .takeReset⟩ : Loop (Countdown S)).run [] fuel).phase = .ended r ∧
        Alike Inside d ((⟨e, .takeReset⟩ : Loop (Countdown S)).run [] fuel).console := by
  have counted := counts.frames
  induction run generalizing e with
  | arrived reached =>
    have finished : e.sink.left = 0 := by
      rw [alike.frameCount] at reached
      omega
    have asked : e.control = { Control.idle with stop := true } := by
      rw [counts.control, finished]
      rfl
    refine ⟨4, fun fuel enough => ?_⟩
    obtain ⟨more, rfl⟩ := Nat.exists_eq_add_of_le' enough
    rw [run_of_stop asked]
    exact ⟨rfl, alike.essence, alike.sink⟩
  | @step c d cycles r short succeeds _ ih =>
    have liveE := alike.live live
    have idle := counts.idle (alike.frameCount ▸ short)
    obtain ⟨result, alike'⟩ := alike.step
    rw [succeeds] at result
    have counts' := counts.step liveE (alike.frameCount ▸ short) result.symm
    obtain ⟨enough, ended⟩ := ih live.step alike' counts' counts'.frames
    refine ⟨enough + 5, fun fuel more => ?_⟩
    obtain ⟨rest, rfl⟩ := Nat.exists_eq_add_of_le' (Nat.le_of_add_left_le more)
    rw [run_of_idle idle liveE.running, ← result]
    exact ended rest (by omega)
  | @fault c f short fails =>
    have liveE := alike.live live
    have idle := counts.idle (alike.frameCount ▸ short)
    obtain ⟨result, alike'⟩ := alike.step
    rw [fails] at result
    refine ⟨5, fun fuel more => ?_⟩
    obtain ⟨rest, rfl⟩ := Nat.exists_eq_add_of_le' more
    rw [run_of_idle idle liveE.running, ← result]
    exact ⟨rfl, alike'⟩

end Loop

/-! ## Agreement -/

/-- The console in front of another sink, with no requests pending. -/
def facing {S T : Type} (c : Console S) (sink : T) : Console T where
  machine := c.machine
  sink := sink
  settings := c.settings
  pacer := c.pacer
  clock := c.clock
  control := .idle

theorem facing_live {S T : Type} {c : Console S} (live : c.Live) (sink : T) :
    (c.facing sink).Live := ⟨live.timed, live.running⟩

/-- A free run that its sink stops with the `n`-th frame runs to that frame. -/
theorem runFreely_of_runsTo [Onlooker S] {c d : Console S} {n : Nat} {r : Except Failure Unit}
    (run : RunsTo (c.frameCount + n) c r d) (live : c.Live) (positive : 0 < n)
    {f : Console (Countdown S)} (facing : f = c.facing ⟨c.sink, n⟩) :
    ∃ enough, ∀ fuel, enough ≤ fuel →
      ((Loop.start f).run [] fuel).phase = .ended r ∧ (runFreely f [] fuel).1 = r ∧
        Alike Inside d (runFreely f [] fuel).2 := by
  have essence : c.essence = (f.note .loopStarted).essence := by
    rw [facing, essence_note]
    rfl
  have sink : (f.note .loopStarted).sink = ⟨c.sink, n⟩ := congrArg (·.sink) facing
  have idle : (f.note .loopStarted).control = .idle := congrArg (·.control) facing
  have inside : c.sink = (f.note .loopStarted).sink.inner := by rw [sink]
  have alike : Alike Inside c (f.note .loopStarted) := ⟨essence, inside⟩
  have counts : CountsTo (c.frameCount + n) (f.note .loopStarted) := by
    have more : n ≠ 0 := Nat.pos_iff_ne_zero.mp positive
    refine ⟨?_, ?_⟩
    · rw [← alike.frameCount, sink]
    · rw [idle, sink, decide_eq_false more]
      rfl
  obtain ⟨enough, ended⟩ := Loop.ended_of_runsTo run live alike counts
  refine ⟨enough, fun fuel more => ?_⟩
  obtain ⟨phase, alike⟩ := ended fuel more
  simp only [runFreely, Loop.start, Loop.result, phase]
  exact ⟨trivial, trivial, alike⟩

/-- **The drivers agree.** Whatever was done with a console before, if it runs, then a bounded run,
runs to vertical blank one after the other and a free run that its sink stops with the last frame
have the same end, be it that all frames are finished or a fault on the way; they leave processor,
memory, picture unit and joypad in the same state, and they show the same frames. So a bounded run
is the same in two parts, if the first one ends well. -/
theorem drivers_agree {T : Type} [FrameSink T] [Onlooker T] (c : Console S)
    (reachable : c.Reachable) (running : c.isHalted = false) (n : Nat) (positive : 0 < n)
    (fits : (c.frameCount + n + 1) * dotsPerFrame < UInt64.size) (sink : T) :
    let b : Console (Recorder T) := c.facing ⟨sink, []⟩
    let f : Console (Countdown (Recorder T)) := c.facing ⟨⟨sink, []⟩, n⟩
    b.runBlanks n = b.runFrames n ∧
      ((b.runFrames n).1 = .ok () ∨ ∃ fault, (b.runFrames n).1 = .error (.fault fault)) ∧
      (∃ enough, ∀ fuel, enough ≤ fuel →
        (runFreely f [] fuel).1 = (b.runFrames n).1 ∧
          ((Loop.start f).run [] fuel).phase = .ended (b.runFrames n).1 ∧
          (runFreely f [] fuel).2.essence = (b.runFrames n).2.essence ∧
          (runFreely f [] fuel).2.sink.inner = (b.runFrames n).2.sink) ∧
      ∀ m k, m + k = n → (b.runFrames m).1 = .ok () →
        (b.runFrames m).2.runFrames k = b.runFrames n := by
  intro b f
  have live : b.Live := facing_live ⟨reachable.timed, running⟩ _
  have frames : b.frameCount + n < UInt64.size := by
    have more : c.frameCount + n + 1 ≤ (c.frameCount + n + 1) * dotsPerFrame :=
      Nat.le_mul_of_pos_right _ (by decide)
    exact Nat.lt_of_succ_lt (more.trans_lt fits)
  have run := runsTo_runFrames live frames
  refine ⟨?_, run.result, ?_, ?_⟩
  · exact Prod.ext_iff.mpr ((runsTo_runBlanks live n).unique run)
  · obtain ⟨enough, ended⟩ := runFreely_of_runsTo (f := f) run live positive rfl
    refine ⟨enough, fun fuel more => ?_⟩
    obtain ⟨phase, result, alike⟩ := ended fuel more
    exact ⟨result, phase, alike.essence.symm, alike.sink.symm⟩
  · rintro m k rfl succeeds
    exact runFrames_add live frames succeeds

theorem drivers_agree_on_first_frame :
    let c : Console NoSink := headless jumper .standard
    c.Reachable ∧ c.isHalted = false ∧ (c.frameCount + 1 + 1) * dotsPerFrame < UInt64.size ∧
      (c.facing (⟨⟨⟩, []⟩ : Recorder NoSink)).runBlanks 1 =
        (c.facing (⟨⟨⟩, []⟩ : Recorder NoSink)).runFrames 1 := by
  intro c
  have reachable : c.Reachable := ⟨jumper, .released, ⟨⟩, .standard, default, .quiet, [], rfl⟩
  have running : c.isHalted = false := isHalted_ofCartridge _ _ _ _ _ _
  have first : c.frameCount = 0 :=
    congrArg (·.2.2.frameCount)
      (dials_ofCartridge jumper .released (⟨⟩ : NoSink) .standard default .quiet)
  have fits : (c.frameCount + 1 + 1) * dotsPerFrame < UInt64.size := by
    rw [first]
    decide
  exact ⟨reachable, running, fits,
    (drivers_agree (T := NoSink) c reachable running 1 Nat.one_pos fits ⟨⟩).1⟩

end Famicom.Console

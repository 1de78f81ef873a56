import Famicom.Proofs.Console.Frame
import Mathlib.Data.Nat.Bits

/-!
# Halting and resuming in the loop

The requests to reset and to halt wait in cells of their own, so the loop applies them in its own
order: a reset goes before all halts, unless it came after the loop had looked for it. The outlook of
a loop is whether the processor will be halted once everything asked so far is applied.

* `outlook_step`: no step of the loop changes the outlook.
* `outlook_reset`: after a request to reset, the outlook depends on the pending halts alone.
* `outlook_toggleHalt`: a request to halt turns the outlook over, unless a reset will follow it.
* `outlook_of_isQuiet`: with nothing left to apply, the outlook is the state of the processor.
-/

namespace Famicom.Console.Loop

variable {S : Type}

/-- Whether the pending halts are taken before the next look at the request to reset. -/
def isPastReset (l : Loop S) : Bool :=
  match l.phase with
  | .applyReset | .takeToggles => true
  | _ => false

/-- Whether the processor is halted after what was taken is applied. -/
def prospect (l : Loop S) : Bool :=
  match l.phase with
  | .applyReset => false
  | .applyToggles n => l.console.isHalted ^^ n.toNat.bodd
  | _ => l.console.isHalted

/-- Whether the pending halts turn the state of the processor over. -/
def turns (l : Loop S) : Bool := l.console.control.haltToggles.toNat.bodd

/-- Whether the processor is halted after everything that was asked is applied. -/
def outlook (l : Loop S) : Bool :=
  if l.console.control.reset then !l.isPastReset && l.turns else l.prospect ^^ l.turns

/-- Nothing is pending, and nothing was taken that is not applied. -/
structure IsQuiet (l : Loop S) : Prop where
  reset : l.console.control.reset = false
  toggles : l.console.control.haltToggles = 0
  applied : match l.phase with
    | .applyReset => False
    | .applyToggles n => n = 0
    | _ => True

/-- The loop with a request made to its console. -/
def ask (l : Loop S) (r : Request) : Loop S := { l with console := l.console.request r }

/-! ## Parity of the count -/

/-- The count wraps at an even number, so a request changes its parity even then. -/
theorem bodd_add_one (n : UInt32) : (n + 1).toNat.bodd = !n.toNat.bodd := by
  have wraps : (n + 1).toNat = (n.toNat + 1) % 2 ^ 32 := UInt32.toNat_add n 1
  rw [wraps, ← Nat.bodd_succ]
  simp [Nat.bodd]

theorem bodd_sub_one (n : UInt32) : (n - 1).toNat.bodd = !n.toNat.bodd := by
  have back := bodd_add_one (n - 1)
  rw [UInt32.sub_add_cancel] at back
  rw [back, Bool.not_not]

/-! ## Requests -/

/-- A console of which nothing is asked stays as it is. -/
theorem outlook_start {c : Console S} (idle : c.control = .idle) :
    (start c).outlook = c.isHalted := by
  have asked : (c.note .loopStarted).control = .idle := idle
  have halted : (c.note .loopStarted).isHalted = c.isHalted :=
    congrArg (·.2.1) (dials_note c .loopStarted)
  simp [start, outlook, prospect, turns, asked, halted, Control.idle]

/-- A request to reset leaves of the pending halts those that it does not end. -/
theorem outlook_reset (l : Loop S) :
    (l.ask .reset).outlook = (!l.isPastReset && l.turns) := rfl

/-- A request to halt turns the outlook over, unless it is taken before a pending reset. -/
theorem outlook_toggleHalt (l : Loop S) :
    (l.ask .toggleHalt).outlook =
      (l.outlook ^^ !(l.console.control.reset && l.isPastReset)) := by
  have past : (l.ask .toggleHalt).isPastReset = l.isPastReset := rfl
  have taken : (l.ask .toggleHalt).prospect = l.prospect := rfl
  have counted : (l.ask .toggleHalt).turns = !l.turns :=
    bodd_add_one l.console.control.haltToggles
  have asked : (l.ask .toggleHalt).console.control.reset = l.console.control.reset := rfl
  unfold outlook
  rw [past, taken, counted, asked]
  cases l.console.control.reset <;> cases l.isPastReset <;> cases l.turns <;>
    cases l.prospect <;> rfl

theorem outlook_press (l : Loop S) (button : Button) :
    (l.ask (.press button)).outlook = l.outlook := rfl

theorem outlook_release (l : Loop S) (button : Button) :
    (l.ask (.release button)).outlook = l.outlook := rfl

theorem outlook_of_isQuiet {l : Loop S} (quiet : l.IsQuiet) :
    l.outlook = l.console.isHalted := by
  obtain ⟨noReset, noToggles, applied⟩ := quiet
  have taken : l.prospect = l.console.isHalted := by
    unfold prospect
    split at applied
    · exact applied.elim
    · rename_i n _
      subst applied
      exact Bool.xor_false _
    · rfl
  have even : l.turns = false := by
    unfold turns
    rw [noToggles]
    rfl
  unfold outlook
  rw [noReset, taken, even]
  exact Bool.xor_false _

/-! ## Steps -/

variable [FrameSink S] [SilentSink S]

/-- **No step of the loop changes what the processor will come to.** -/
theorem outlook_step (l : Loop S) : l.step.outlook = l.outlook := by
  obtain ⟨c, phase⟩ := l
  cases phase with
  | takeReset =>
    -- From here on the pending halts no longer wait for the reset, but the reset counts at once.
    cases pending : c.control.reset <;>
      simp [step, outlook, isPastReset, prospect, turns, isHalted, Control.takeReset, pending]
  | applyReset =>
    have ended : c.reset.isHalted = false := congrArg (·.2.1) (dials_reset c)
    simp [step, outlook, isPastReset, prospect, turns, ended, control_reset]
  | takeToggles =>
    simp [step, outlook, isPastReset, prospect, turns, isHalted, Control.takeHaltToggles]
  | applyToggles n =>
    by_cases zero : n = 0
    · subst zero
      simp [step, outlook, isPastReset, prospect, turns]
    · have turned : c.toggleHalt.isHalted = !c.isHalted :=
        congrArg (·.2.1) (dials_toggleHalt c)
      have kept : c.toggleHalt.control = c.control := rfl
      simp [step, zero, outlook, isPastReset, prospect, turns, turned, kept, bodd_sub_one]
  | checkStop =>
    cases stopped : c.control.stop
    · simp [step, stopped, outlook, isPastReset, prospect, turns]
    · have noted : ∀ e, (c.note e).isHalted = c.isHalted :=
        fun e => congrArg (·.2.1) (dials_note c e)
      have kept : ∀ e, (c.note e).control = c.control := fun _ => rfl
      simp [step, stopped, outlook, isPastReset, prospect, turns, noted, kept]
  | proceed =>
    cases halted : c.isHalted
    · have ran : c.step.2.isHalted = false := (isHalted_step c).trans halted
      cases result : c.step.1 <;>
        simp [step, halted, result, outlook, isPastReset, prospect, turns, ran, control_step]
    · have waited : (wait c).isHalted = true :=
        (congrArg (·.2.1) (dials_wait c)).trans halted
      simp [step, halted, outlook, isPastReset, prospect, turns, waited, control_wait]
  | ended result => rfl

/-- A reset and a halt that are pending together are applied within five steps, and the processor
ends halted whichever of the two was asked for first. -/
theorem isHalted_of_both {c : Console S} (reset : c.control.reset = true)
    (one : c.control.haltToggles = 1) :
    (⟨c, .takeReset⟩ : Loop S).step.step.step.step.step.IsQuiet ∧
      (⟨c, .takeReset⟩ : Loop S).step.step.step.step.step.console.isHalted = true := by
  have looked : (⟨c, .takeReset⟩ : Loop S).step =
      ⟨{ c with control := { c.control with reset := false } }, .applyReset⟩ := by
    simp [step, Control.takeReset, reset]
  have toggled (d : Console S) : (⟨d, .applyToggles 1⟩ : Loop S).step.step =
      ⟨d.toggleHalt, .checkStop⟩ := by
    simp [step]
  have quiet : (⟨c, .takeReset⟩ : Loop S).step.step.step.step.step.IsQuiet := by
    generalize restarted :
      ({ c with control := { c.control with reset := false } } : Console S).reset = d
    have control : d.control = { c.control with reset := false } := by
      rw [← restarted, control_reset]
    have taken : (⟨c, .takeReset⟩ : Loop S).step.step.step =
        ⟨{ d with control := { d.control with haltToggles := 0 } }, .applyToggles 1⟩ := by
      rw [looked, ← one]
      simp [step, restarted, Control.takeHaltToggles, control]
    rw [taken, toggled]
    exact ⟨congrArg Control.reset control, rfl, trivial⟩
  have ends : (⟨c, .takeReset⟩ : Loop S).step.step.step.step.step.outlook = true := by
    simp only [outlook_step]
    simp [outlook, reset, isPastReset, turns, one]
  exact ⟨quiet, (outlook_of_isQuiet quiet).symm.trans ends⟩

end Famicom.Console.Loop

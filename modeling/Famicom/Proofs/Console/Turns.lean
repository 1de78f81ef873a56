import Famicom.Proofs.Bus.History
import Famicom.Proofs.Console.Frame
import Famicom.Proofs.Console.Operation

/-!
# The machine inside a console

Whatever is done with a console, its machine takes turns as if it ran alone: instructions, interrupts
and resets of the processor, and acts on the bus in between. What no turn changes is therefore kept by
every operation.

* `Leads`: turns lead from one machine to another.
* `leads_step`, `leads_act`: what a console does are turns of its machine.
* `leads_operateAll`: so are any operations.
-/

namespace Famicom

open Processor

/-- Turns lead from one machine to the other. -/
def Bus.Leads (s t : Machine Bus) : Prop := ∃ ts, turnAll act s ts = t

namespace Bus.Leads

variable {s t u : Machine Bus}

theorem refl : Leads s s := ⟨[], rfl⟩

theorem turn (t : Turn) : Leads s (Bus.turn act s t) := ⟨[t], rfl⟩

theorem trans (first : Leads s t) (second : Leads t u) : Leads s u := by
  obtain ⟨ts, rfl⟩ := first
  obtain ⟨us, rfl⟩ := second
  exact ⟨ts ++ us, List.foldl_append⟩

end Bus.Leads

namespace Console

open Bus (Leads)

variable {S : Type} (c : Console S)

/-! ## Requests, pacing and resets -/

theorem leads_note (e : Event) : Leads c.machine (c.note e).machine := .turn (.act (.note e))

theorem leads_request (r : Request) : Leads c.machine (c.request r).machine := by
  cases r with
  | press button => exact .turn (.act (.touch (.press button)))
  | release button => exact .turn (.act (.touch (.release button)))
  | stop | reset | toggleHalt => exact .refl

theorem leads_requestAll (rs : List Request) : Leads c.machine (c.requestAll rs).machine := by
  induction rs generalizing c with
  | nil => exact .refl
  | cons r rs ih => exact (c.leads_request r).trans (ih (c.request r))

theorem leads_throttle (cycles : Nat) : Leads c.machine (c.throttle cycles).machine := by
  obtain ⟨pacer, clock, same | ⟨lag, noted⟩⟩ := c.throttle_cases cycles
  · rw [same]
    exact .refl
  · rw [noted]
    exact leads_note _ _

theorem leads_reset : Leads c.machine c.reset.machine := by
  obtain ⟨pacer, clock, reset⟩ := c.reset_eq
  rw [reset]
  refine Leads.trans ?_ (leads_note _ _)
  exact .turn .reset

/-! ## Instructions and interrupts -/

variable [FrameSink S]

theorem leads_present (frame : Picture.Frame) :
    Leads c.machine (c.present frame).machine :=
  leads_requestAll { c with sink := (FrameSink.present c.sink frame).1 } _

theorem leads_elapsed (pending : Nat) : Leads c.machine (c.elapsed pending).machine := by
  let r := c.bus.advance (pending * dotsPerCycle)
  let advanced : Console S := { c with machine := { c.machine with memory := r.2 } }
  have advances : Leads c.machine advanced.machine :=
    .turn (.act (.advance (pending * dotsPerCycle)))
  unfold elapsed
  dsimp only
  split
  · exact advances.trans (advanced.leads_present _)
  · exact advances

theorem leads_catchUpRound (pending : Nat) :
    Leads c.machine (c.catchUpRound pending).2.machine := by
  rw [catchUpRound_eq]
  split
  · exact (c.leads_elapsed pending).trans (.turn .nmi)
  · exact c.leads_elapsed pending

theorem leads_catchUpRounds (pending rounds : Nat) :
    Leads c.machine (c.catchUpRounds pending rounds).2.machine := by
  induction rounds generalizing c pending with
  | zero => exact .refl
  | succ rounds ih =>
    unfold catchUpRounds
    split
    · exact .refl
    · exact (c.leads_catchUpRound pending).trans (ih _ _)

theorem leads_catchUp (cycles : Nat) : Leads c.machine (c.catchUp cycles).2.machine :=
  (c.leads_catchUpRounds cycles 2).trans (leads_throttle _ _)

theorem leads_step : Leads c.machine c.step.2.machine := by
  have executed : Leads c.machine c.machine.step.2 := .turn .step
  unfold step
  dsimp only
  split
  · exact executed.trans (leads_catchUp { c with machine := c.machine.step.2 } _)
  · exact executed

/-- **Every act of a console consists of turns of its machine.** -/
theorem leads_act (a : Act) : Leads c.machine (c.act a).machine := by
  cases a with
  | step => exact c.leads_step
  | nmi =>
    exact (Leads.turn .nmi).trans (leads_catchUp { c with machine := c.machine.nmi.2 } _)
  | irq =>
    exact (Leads.turn .irq).trans (leads_catchUp { c with machine := c.machine.irq.2 } _)
  | reset => exact c.leads_reset
  | toggleHalt => exact .turn .toggleHalt
  | read address => exact .turn (.act (.read address))
  | write address v => exact .turn (.act (.write address v))
  | updateRegisters f => exact .turn (.update f)
  | request r => exact c.leads_request r
  | takeReset | takeToggles => exact .refl
  | note e => exact c.leads_note e
  | wait =>
    obtain ⟨pacer, clock, restarted⟩ := c.wait_eq
    have kept : (c.act .wait).machine = c.machine := by
      change (Loop.wait c).machine = c.machine
      rw [restarted]
    rw [kept]
    exact .refl

theorem leads_actAll (as : List Act) : Leads c.machine (c.actAll as).machine := by
  induction as generalizing c with
  | nil => exact .refl
  | cons a rest ih => exact (c.leads_act a).trans (ih (c.act a))

/-- **So do any operations.** -/
theorem leads_operateAll (os : List Operation) : Leads c.machine (c.operateAll os).machine := by
  rw [← actAll_allActs]
  exact c.leads_actAll _

end Console

end Famicom

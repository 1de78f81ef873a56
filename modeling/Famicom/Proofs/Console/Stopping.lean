import Famicom.Proofs.Console.Requests

/-!
# Requests before a stop

The loop looks for a reset, for halts and for a stop one after the other. A request that falls
behind the look for its kind and before the look for a stop waits for another round, and a stop
means that there is none.

* `Honoured`: all requests were applied and none is pending.
* `InTime`: all requests were made before the last look for their kind.
* `honoured_iff_inTime`: a loop that was stopped has honoured its requests exactly if they were in
  time.
* `reset_pending_of_resetThenStop`: a reset and a stop between two looks leave the reset pending.
-/

namespace Famicom.Console

open Processor

variable {S : Type}

/-- Every request has been applied and none is pending. -/
structure Honoured (l : Loop S) (log : List Deed) : Prop where
  halts : log.count .toggled = log.count (.asked .toggleHalt)
  resets : since .reset .reset log = 0
  noReset : l.console.control.reset = false
  noHalts : l.console.control.haltToggles = 0

/-- Every request was made before the loop last looked for its kind, and the count of the halts has
not wrapped in between. -/
structure InTime (log : List Deed) : Prop where
  resets : since .soughtReset .reset log = 0
  halts : (tally log).waiting = 0
  unwrapped : (tally log).lost = 0

/-- **A loop that was stopped has honoured all requests exactly if all were in time**, wherever the
requests fell between its steps. -/
theorem honoured_iff_inTime [FrameSink S] (c : Console S) (ms : List Move)
    (returned : ((Loop.start c).moves ms).phase = .ended (.ok ())) :
    Honoured ((Loop.start c).moves ms) (c.log ms) ↔ InTime (c.log ms) := by
  have accounts : ((Loop.start c).moves ms).Accounts c.isHalted (c.log ms) :=
    Loop.accounts_moves (Loop.accounts_start c) ms
  unfold Loop.Accounts at accounts
  rw [returned] at accounts
  -- At the end nothing is taken any more, so a halt is applied, waiting or lost.
  have halts : (c.log ms).count .toggled + (tally (c.log ms)).waiting + (tally (c.log ms)).lost =
      (c.log ms).count (.asked .toggleHalt) := accounts.halts
  constructor
  · intro honoured
    have applied := honoured.halts
    refine ⟨?_, by omega, by omega⟩
    by_contra late
    have pending := accounts.pendingReset.mpr late
    rw [honoured.noReset] at pending
    cases pending
  · intro inTime
    have settled : ((Loop.start c).moves ms).console.control.reset ≠ true := fun pending =>
      accounts.pendingReset.mp pending inTime.resets
    refine ⟨?_, ?_, Bool.eq_false_iff.mpr settled, ?_⟩
    · rw [inTime.halts, inTime.unwrapped] at halts
      exact halts
    · obtain applied | pending | taken := accounts.resets
      · exact applied
      · exact absurd pending settled
      · cases taken
    · apply UInt32.toNat_inj.mp
      rw [accounts.waiting, inTime.halts]
      rfl

/-- The loop has looked for a reset when a reset and a stop are asked for. It then goes on to its
look for a stop. -/
def resetThenStop : List Move := [.work, .ask .reset, .ask .stop, .work, .work, .work]

/-- The loop ends and leaves the reset to nobody. -/
theorem reset_pending_of_resetThenStop [FrameSink S] (c : Console S) (idle : c.control = .idle) :
    ((Loop.start c).moves resetThenStop).phase = .ended (.ok ()) ∧
      ((Loop.start c).moves resetThenStop).console.control.reset = true := by
  obtain ⟨machine, sink, settings, pacer, clock, control⟩ := c
  subst idle
  exact ⟨rfl, rfl⟩

/-- A cartridge with one instruction, which jumps to itself, and one byte of tiles. -/
def jumper : Cartridge where
  program := ⟨#[0x4C, 0x00, 0x80]⟩
  tiles := ⟨#[0x00]⟩
  mirroring := .horizontal
  trainer := none
  header := none
  program_pos := by decide
  program_le := by decide
  tiles_le := by decide

theorem honoured_iff_inTime_of_resetThenStop :
    ((Loop.start (headless jumper .standard)).moves resetThenStop).phase = .ended (.ok ()) ∧
      (Honoured ((Loop.start (headless jumper .standard)).moves resetThenStop)
          ((headless jumper .standard).log resetThenStop) ↔
        InTime ((headless jumper .standard).log resetThenStop)) := by
  obtain ⟨returned, -⟩ := reset_pending_of_resetThenStop (headless jumper .standard) rfl
  exact ⟨returned, honoured_iff_inTime _ _ returned⟩

theorem not_honoured_of_resetThenStop :
    ((Loop.start (headless jumper .standard)).moves resetThenStop).phase = .ended (.ok ()) ∧
      ¬ Honoured ((Loop.start (headless jumper .standard)).moves resetThenStop)
        ((headless jumper .standard).log resetThenStop) := by
  obtain ⟨returned, pending⟩ := reset_pending_of_resetThenStop (headless jumper .standard) rfl
  refine ⟨returned, fun honoured => ?_⟩
  rw [honoured.noReset] at pending
  cases pending

end Famicom.Console

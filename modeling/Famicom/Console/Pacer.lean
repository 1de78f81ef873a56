/-!
# Pacing

A clock shows nanoseconds and never runs backwards. How much time passes between two readings is not
known in advance, so a clock carries the delays of all its future readings.

A pacer compares the time that the emulated cycles take on the hardware with the time that really
passed. Ahead of schedule it asks for sleep; far behind, it gives the schedule up and starts a new
one instead of catching up.

* `Clock.le_read`: a reading is no earlier than what the clock showed before.
* `Pacer.verdict` is the decision, from the two times alone.
-/

namespace Famicom.Console

/-! ## Clocks -/

/-- A clock shows the time of its last reading, and `delay n` passes before reading `n`. It also
counts its readings and the time that was spent asleep. -/
structure Clock where
  now : Nat
  delay : Nat → Nat
  readings : Nat
  slept : Nat

namespace Clock

/-- A clock that moves by `delay` nanoseconds between readings. -/
def steady (delay : Nat) : Clock := { now := 0, delay := fun _ => delay, readings := 0, slept := 0 }

instance : Inhabited Clock := ⟨steady 0⟩

/-- Reads the clock. -/
def read (c : Clock) : Nat × Clock :=
  let t := c.now + c.delay c.readings
  (t, { c with now := t, readings := c.readings + 1 })

/-- Sleeps for `n` nanoseconds; oversleeping is part of the delay of the next reading. -/
def sleep (c : Clock) (n : Nat) : Clock := { c with now := c.now + n, slept := c.slept + n }

theorem le_read (c : Clock) : c.now ≤ c.read.1 := Nat.le_add_right _ _

end Clock

/-! ## Schedules -/

/-- Nanoseconds in a millisecond. -/
def millisecond : Nat := 1000000

/-- A schedule: its cycles per second, the time at which it started and the cycles since then. -/
structure Pacer where
  rate : Nat
  origin : Nat
  cycles : Nat
  deriving DecidableEq, Repr

namespace Pacer

/-- Falling further behind than this ends the schedule. -/
def maxLag : Nat := 100 * millisecond

/-- Sleeps shorter than this are left out. -/
def minSleep : Nat := millisecond

/-- A schedule that starts at `now`; a rate of zero counts as one. -/
def start (rate now : Nat) : Pacer := { rate := max rate 1, origin := now, cycles := 0 }

/-- The time that the counted cycles take on the hardware, in a word of sixty-four bits. -/
def emulatedTime (p : Pacer) : Nat := (1000000000 * p.cycles / p.rate) % UInt64.size

/-- A new schedule from `now` on. -/
def restart (p : Pacer) (now : Nat) : Pacer := { p with origin := now, cycles := 0 }

/-- What to do about the schedule: nothing, sleep for so many nanoseconds, or start a new one, being
so many nanoseconds behind. -/
inductive Verdict where
  | carryOn
  | sleep (ahead : Nat)
  | giveUp (lag : Nat)
  deriving DecidableEq, Repr

/-- The decision when `target` nanoseconds are due and `elapsed` have passed. -/
def verdict (target elapsed : Nat) : Verdict :=
  if elapsed < target then
    if minSleep ≤ target - elapsed then .sleep (target - elapsed) else .carryOn
  else if maxLag < elapsed - target then .giveUp (elapsed - target)
  else .carryOn

/-- Counts cycles and follows the schedule. -/
def throttle (p : Pacer) (clock : Clock) (cycles : Nat) : Verdict × Pacer × Clock :=
  let counted := { p with cycles := p.cycles + cycles }
  let t := clock.read
  let v := verdict counted.emulatedTime (t.1 - p.origin)
  match v with
  | .carryOn => (v, counted, t.2)
  | .sleep ahead => (v, counted, t.2.sleep ahead)
  | .giveUp _ =>
    let again := t.2.read
    (v, counted.restart again.1, again.2)

/-- The time is due if the verdict is to sleep, and long overdue if it is to give up. -/
theorem verdict_cases (target elapsed : Nat) :
    match verdict target elapsed with
    | .carryOn => elapsed ≤ target + maxLag ∧ target ≤ elapsed + minSleep
    | .sleep ahead => elapsed < target ∧ elapsed + ahead = target
    | .giveUp lag => target + maxLag < elapsed ∧ target + lag = elapsed := by
  unfold verdict
  by_cases early : elapsed < target
  · by_cases worth : minSleep ≤ target - elapsed
    · rw [if_pos early, if_pos worth]
      exact ⟨early, by omega⟩
    · rw [if_pos early, if_neg worth]
      exact ⟨by omega, by omega⟩
  · by_cases late : maxLag < elapsed - target
    · rw [if_neg early, if_pos late]
      exact ⟨by omega, by omega⟩
    · rw [if_neg early, if_neg late]
      exact ⟨by omega, by omega⟩

end Pacer

end Famicom.Console

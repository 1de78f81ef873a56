import Mathlib.Algebra.GroupWithZero.Nat
import Famicom.Proofs.Picture.Timing

/-!
# Splitting a stretch of time

The processor reports its time in pieces as long as its instructions happen to be. What becomes of the
picture unit does not depend on where one piece ends and the next one begins, although scanlines are
completed, frames composed and vertical blanks entered at the ends of some pieces and inside of others.

* `finishScanlines_add`: scanlines may be completed in two rounds.
* `advance_eq_setDots`: the scanlines may be completed before the dots are counted.
* `advance_add`: two stretches of time are one stretch, from any state.
* `advance_by_sum`: of a list of stretches only the sum matters, after any history.
-/

namespace Famicom.Picture

namespace Signals

theorem none_or (a : Signals) : none.or a = a := by
  simp [Signals.or, none]

theorem or_assoc (a b c : Signals) : (a.or b).or c = a.or (b.or c) := by
  simp [Signals.or, Bool.or_assoc]

end Signals

namespace PictureUnit

/-! ## Scanlines and dots -/

/-- Scanlines may be completed in two rounds. -/
theorem finishScanlines_add (m n : Nat) (u : PictureUnit) :
    u.finishScanlines (m + n) =
      let first := u.finishScanlines m
      let rest := first.2.finishScanlines n
      (first.1.or rest.1, rest.2) := by
  induction m generalizing u with
  | zero => simp [finishScanlines, Signals.none_or]
  | succ m ih =>
    rw [Nat.succ_add]
    simp only [finishScanlines]
    rw [ih, Signals.or_assoc]

/-- The scanlines may be completed before the dots are counted. -/
theorem advance_eq_setDots {u : PictureUnit} {dots : Nat} (counts : u.Counts dots) :
    u.advance dots =
      let lines := u.finishScanlines ((u.dot + dots) / 341)
      (lines.1, lines.2.setDots ((u.dot + dots) % 341) (u.totalDots + dots)) := by
  rw [← finishScanlines_setDots]
  simp only [advance, Nat.mod_eq_of_lt counts]
  rfl

/-! ## Two stretches of time -/

/-- **Two stretches of time are one**, and what happens in it is what happens in either of them. -/
theorem advance_add {u : PictureUnit} {a b : Nat} (counts : u.Counts (a + b)) :
    u.advance (a + b) =
      let first := u.advance a
      let rest := first.2.advance b
      (first.1.or rest.1, rest.2) := by
  have all : u.dot + (a + b) < UInt32.size := counts
  have countsFirst : u.Counts a := by
    unfold Counts
    omega
  have dot : (u.advance a).2.dot = (u.dot + a) % 341 := by
    rw [dot_advance, Nat.mod_eq_of_lt countsFirst]
    rfl
  have countsRest : (u.advance a).2.Counts b := by
    unfold Counts
    rw [dot]
    omega
  -- The dots that the first stretch leaves over are completed to scanlines in the second one.
  have lines : (u.dot + a) / 341 + ((u.dot + a) % 341 + b) / 341 = (u.dot + (a + b)) / 341 := by
    omega
  have leftOver : ((u.dot + a) % 341 + b) % 341 = (u.dot + (a + b)) % 341 := by
    omega
  dsimp only
  rw [advance_eq_setDots counts, advance_eq_setDots countsRest, dot, totalDots_advance, leftOver,
    advance_eq_setDots countsFirst, finishScanlines_setDots, ← lines, finishScanlines_add,
    Nat.add_assoc]
  rfl

/-! ## Many stretches of time -/

/-- Lets several stretches of time pass, and tells what happened in any of them. -/
def advanceAll (u : PictureUnit) : List Nat → Signals × PictureUnit
  | [] => (.none, u)
  | dots :: more =>
    let first := u.advance dots
    let rest := first.2.advanceAll more
    (first.1.or rest.1, rest.2)

/-- No dot is left over that would complete a scanline. -/
theorem dot_act_lt {u : PictureUnit} (place : u.dot < 341) (a : Act) : (u.act a).dot < 341 := by
  cases a with
  | read r =>
    have kept : (u.act (.read r)).dot = u.dot := congrArg Beam.dot (beam_readRegister u r)
    omega
  | write r v =>
    have kept : (u.act (.write r v)).dot = u.dot := congrArg Beam.dot (beam_writeRegister u r v)
    omega
  | loadSprites sprites => exact place
  | advance dots =>
    change (u.advance dots).2.dot < 341
    rw [dot_advance]
    exact Nat.mod_lt _ (by decide)

theorem dot_actAll_lt {u : PictureUnit} (place : u.dot < 341) (as : List Act) :
    (u.actAll as).dot < 341 := by
  induction as generalizing u with
  | nil => exact place
  | cons a rest ih => exact ih (dot_act_lt place a)

theorem advance_zero {u : PictureUnit} (place : u.dot < 341) : u.advance 0 = (.none, u) := by
  have counts : u.Counts 0 := by
    unfold Counts UInt32.size
    omega
  rw [advance_eq_setDots counts, Nat.add_zero, Nat.div_eq_of_lt place, Nat.mod_eq_of_lt place]
  rfl

theorem advanceAll_eq {u : PictureUnit} (place : u.dot < 341) {ds : List Nat}
    (counts : u.Counts ds.sum) : u.advanceAll ds = u.advance ds.sum := by
  induction ds generalizing u with
  | nil => exact (advance_zero place).symm
  | cons d rest ih =>
    rw [List.sum_cons] at counts ⊢
    have all : u.dot + (d + rest.sum) < UInt32.size := counts
    have next : (u.advance d).2.dot < 341 := dot_act_lt place (.advance d)
    have fits : u.dot + d < UInt32.size := by
      omega
    have later : (u.advance d).2.Counts rest.sum := by
      unfold Counts
      rw [dot_advance, Nat.mod_eq_of_lt fits]
      unfold dotsPerScanline
      omega
    rw [advance_add counts, advanceAll, ih next later]

/-- **Of a list of stretches only the sum matters.** After any history from power-on, two stretches of
time leave everything in the unit as their sum leaves it, the pixels of the frame included; and the sum
signals what either of them does. The same holds of any list of stretches. -/
theorem advance_by_sum (memory : VideoMemory) (past : List Act) :
    let u := (ofMemory memory).actAll past
    (∀ a b, u.dot + a + b < UInt32.size →
      ((u.advance a).2.advance b).2 = (u.advance (a + b)).2 ∧
      (u.advance (a + b)).1 = (u.advance a).1.or ((u.advance a).2.advance b).1) ∧
    (∀ ds : List Nat, u.dot + ds.sum < UInt32.size → u.advanceAll ds = u.advance ds.sum) := by
  intro u
  constructor
  · intro a b fits
    have counts : u.Counts (a + b) := by
      unfold Counts
      omega
    rw [advance_add counts]
    exact ⟨rfl, rfl⟩
  · intro ds counts
    have place : (ofMemory memory).dot < 341 := Nat.zero_lt_succ 340
    exact advanceAll_eq (dot_actAll_lt place past) counts

/-- A split right before the dot that begins the first vertical blank, and a list that goes on into the
next frame. -/
theorem advance_by_sum_at_first_blank :
    let u := (ofMemory .blank).actAll [.write .control 0x80, .advance 341]
    let ds := [81839, 0, 1, 89342, 7]
    let before := u.advance 81839
    let blank := before.2.advance 1
    (u.dot + 81839 + 1 < UInt32.size ∧ u.dot + ds.sum < UInt32.size) ∧
      (before.1 = .none ∧ before.2.inBlank = false) ∧
      (blank.1 = ⟨true, true⟩ ∧ blank.2.inBlank = true) ∧
      blank.2 = (u.advance 81840).2 ∧
      (u.advance 81840).1 = before.1.or blank.1 ∧
      u.advanceAll ds = u.advance 171189 := by
  intro u ds before blank
  have control : u.control.interrupts = true := by
    simp only [u, actAll, List.foldl_cons, List.foldl_nil, act, control_advance]
    rfl
  have dot : u.dot = 0 := by
    simp only [u, actAll, List.foldl_cons, List.foldl_nil, act, dot_advance]
    rfl
  have fits : u.dot + 81839 + 1 < UInt32.size ∧ u.dot + ds.sum < UInt32.size := by
    rw [dot]
    decide
  -- One scanline has passed, 241 of them all but one dot, and all of them.
  have first : u.beam = .after 341 := beam_advance (beam_ofMemory .blank) (by unfold Counts; decide)
  have counts : u.Counts 81839 := counts_of_after first (by decide)
  have moved : before.2.beam = .after 82180 := beam_advance first counts
  have counts' : before.2.Counts 1 := counts_of_after moved (by decide)
  have began : blank.2.beam = .after 82181 := beam_advance moved counts'
  have quiet : before.1 = .none := by
    rw [signals_advance counts, first]
    decide
  have signalled : blank.1 = ⟨true, true⟩ := by
    rw [signals_advance counts', moved, control_advance, control]
    decide
  obtain ⟨two, many⟩ := advance_by_sum .blank [.write .control 0x80, .advance 341]
  exact ⟨fits, ⟨quiet, inBlank_of_after moved⟩, ⟨signalled, inBlank_of_after began⟩,
    (two 81839 1 fits.1).1, (two 81839 1 fits.1).2, many ds fits.2⟩

end PictureUnit

end Famicom.Picture

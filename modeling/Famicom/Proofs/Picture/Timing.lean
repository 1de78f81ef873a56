import Mathlib.Logic.Function.Iterate
import Famicom.Proofs.Picture.Beam

/-!
# The timetable of the picture unit

The beam moves by a timetable: how many dots have passed since power-on settles where it is, how many
frames are finished and whether it is in vertical blank. Accesses of the processor fall between the
dots and do not disturb it.

* `Beam.nextLine_onLine`: completing a scanline leads from one line of the timetable to the next.
* `PictureUnit.beam_advance`: time moves the beam by the timetable.
* `PictureUnit.signals_advance`: vertical blank is signalled exactly if the scanline it begins with is
  among those entered, and the interrupt if the control register asks for it as well.
* `PictureUnit.counters_of_actAll`: the closed form of all counters, after any history.
-/

namespace Famicom.Picture

namespace Beam

/-! ## The timetable -/

/-- The beam on a scanline that is counted from power-on. The first vertical blank begins after 241
scanlines, and every other one 262 scanlines after the one before it. -/
def onLine (line dot totalDots : Nat) : Beam where
  dot := dot
  scanline := line % 262
  totalDots := totalDots
  frameCount := (line + 21) / 262
  inBlank := decide (241 ≤ line % 262 ∧ line % 262 ≤ 260)

/-- The beam of a unit that was switched on so many dots ago. -/
def after (dots : Nat) : Beam := onLine (dots / 341) (dots % 341) dots

/-- The beam after a scanline was completed. -/
def nextLine (b : Beam) : Beam :=
  let next := (b.scanline + 1) % scanlinesPerFrame
  { b with
    scanline := next
    frameCount := if next = blankScanline then b.frameCount + 1 else b.frameCount
    inBlank :=
      if next = blankScanline then true
      else if next = preRenderScanline then false
      else b.inBlank }

/-- The scanlines that are entered while `n` of them are completed, from `line` on. -/
def linesFrom (line : Nat) : (n : Nat) → List Nat
  | 0 => []
  | n + 1 => (line + 1) % scanlinesPerFrame :: linesFrom ((line + 1) % scanlinesPerFrame) n

/-- The scanlines that the beam enters while so many dots pass. -/
def entered (b : Beam) (dots : Nat) : List Nat :=
  linesFrom b.scanline ((b.dot + dots) / dotsPerScanline)

/-- Completing a scanline leads from one line of the timetable to the next. -/
theorem nextLine_onLine (line dot totalDots : Nat) :
    (onLine line dot totalDots).nextLine = onLine (line + 1) dot totalDots := by
  have step : (line % 262 + 1) % 262 = (line + 1) % 262 := by omega
  simp only [nextLine, onLine, scanlinesPerFrame, blankScanline, preRenderScanline, step, mk.injEq,
    true_and]
  constructor
  · split <;> omega
  · -- Vertical blank only changes with the scanlines 241 and 261.
    split
    · rename_i begins
      simp [begins]
    · split
      · rename_i ends
        simp [ends]
      · rw [decide_eq_decide]
        omega

theorem nextLine_iterate_onLine (n line dot totalDots : Nat) :
    nextLine^[n] (onLine line dot totalDots) = onLine (line + n) dot totalDots := by
  induction n generalizing line with
  | zero => rfl
  | succ n ih =>
    rw [Function.iterate_succ_apply, nextLine_onLine, ih]
    congr 1
    omega

/-- The frames that are finished while scanlines are completed. -/
theorem frameCount_nextLine_iterate (n : Nat) (b : Beam) :
    (nextLine^[n] b).frameCount = b.frameCount + (linesFrom b.scanline n).count blankScanline := by
  induction n generalizing b with
  | zero => rfl
  | succ n ih =>
    rw [Function.iterate_succ_apply, ih, linesFrom, List.count_cons]
    simp only [nextLine, beq_iff_eq]
    split <;> omega

/-- While no more than one scanline is completed, vertical blank begins at most once. -/
theorem count_linesFrom_of_le_one {n : Nat} (few : n ≤ 1) (line : Nat) :
    (linesFrom line n).count blankScanline =
      if blankScanline ∈ linesFrom line n then 1 else 0 := by
  obtain rfl | rfl : n = 0 ∨ n = 1 := by omega
  · rfl
  · simp only [linesFrom, List.count_singleton, List.mem_singleton, beq_iff_eq,
      @eq_comm _ blankScanline]

/-- While no more than one scanline is completed, the scanlines before and after tell whether vertical
blank has begun. -/
theorem blank_mem_linesFrom_iff {n : Nat} (few : n ≤ 1) (b : Beam) :
    blankScanline ∈ linesFrom b.scanline n ↔
      b.scanline ≠ blankScanline ∧ (nextLine^[n] b).scanline = blankScanline := by
  obtain rfl | rfl : n = 0 ∨ n = 1 := by omega
  · simp [linesFrom]
  · simp only [linesFrom, List.mem_singleton, Function.iterate_one, nextLine, scanlinesPerFrame,
      blankScanline]
    omega

end Beam

namespace PictureUnit

/-! ## Completing scanlines -/

theorem control_finishScanline (u : PictureUnit) : u.finishScanline.2.control = u.control :=
  congrArg Ports.control u.ports_finishScanline

theorem beam_finishScanline (u : PictureUnit) : u.finishScanline.2.beam = u.beam.nextLine := by
  unfold finishScanline
  dsimp only
  split
  · -- The picture is drawn on the way to scanline 1, where vertical blank does not change.
    rename_i first
    simp [Beam.nextLine, beam, drawFrame, first, scanlinesPerFrame, blankScanline,
      preRenderScanline]
  · split
    · rename_i begins
      simp [Beam.nextLine, beam, begins]
    · rename_i other
      split
      · rename_i ends
        simp [Beam.nextLine, beam, ends, preRenderScanline, blankScanline]
      · rename_i between
        simp [Beam.nextLine, beam, other, between]

theorem signals_finishScanline (u : PictureUnit) :
    u.finishScanline.1 =
      ⟨decide ((u.scanline + 1) % scanlinesPerFrame = blankScanline) && u.control.interrupts,
        decide ((u.scanline + 1) % scanlinesPerFrame = blankScanline)⟩ := by
  unfold finishScanline
  dsimp only
  split
  · rename_i first
    simp [first, scanlinesPerFrame, blankScanline, Signals.none]
  · split
    · rename_i begins
      simp [begins]
    · rename_i other
      split <;> simp [other, Signals.none]

theorem beam_finishScanlines (n : Nat) (u : PictureUnit) :
    (u.finishScanlines n).2.beam = Beam.nextLine^[n] u.beam := by
  induction n generalizing u with
  | zero => rfl
  | succ n ih =>
    simp only [finishScanlines]
    rw [ih, beam_finishScanline, Function.iterate_succ_apply]

theorem signals_finishScanlines (n : Nat) (u : PictureUnit) :
    (u.finishScanlines n).1 =
      ⟨decide (blankScanline ∈ Beam.linesFrom u.scanline n) && u.control.interrupts,
        decide (blankScanline ∈ Beam.linesFrom u.scanline n)⟩ := by
  induction n generalizing u with
  | zero => simp [finishScanlines, Beam.linesFrom, Signals.none]
  | succ n ih =>
    have line : u.finishScanline.2.scanline = (u.scanline + 1) % scanlinesPerFrame :=
      congrArg Beam.scanline (beam_finishScanline u)
    simp only [finishScanlines]
    rw [ih, signals_finishScanline, control_finishScanline, line]
    simp only [Signals.or, Beam.linesFrom, List.mem_cons, Bool.decide_or, eq_comm,
      Bool.and_or_distrib_right]

/-! ## Letting time pass -/

theorem control_advance (u : PictureUnit) (dots : Nat) :
    (u.advance dots).2.control = u.control :=
  congrArg Ports.control (u.ports_advance dots)

/-- The dots of a scanline and those that are to pass are counted exactly. -/
def Counts (u : PictureUnit) (dots : Nat) : Prop := u.dot + dots < UInt32.size

/-- **Vertical blank is signalled exactly if its scanline is entered**, and the interrupt if the
control register asks for it as well. -/
theorem signals_advance {u : PictureUnit} {dots : Nat} (counts : u.Counts dots) :
    (u.advance dots).1 =
      ⟨decide (blankScanline ∈ u.beam.entered dots) && u.control.interrupts,
        decide (blankScanline ∈ u.beam.entered dots)⟩ := by
  simp only [advance, signals_finishScanlines, Nat.mod_eq_of_lt counts]
  rfl

/-- The beam after time has passed: the dots are counted, and then the scanlines are completed. -/
theorem beam_advance_eq {u : PictureUnit} {dots : Nat} (counts : u.Counts dots) :
    (u.advance dots).2.beam =
      Beam.nextLine^[(u.dot + dots) / dotsPerScanline]
        { u.beam with
          dot := (u.dot + dots) % dotsPerScanline
          totalDots := u.totalDots + dots } := by
  simp only [advance, Nat.mod_eq_of_lt counts, beam_finishScanlines]
  rfl

theorem frameCount_advance {u : PictureUnit} {dots : Nat} (counts : u.Counts dots) :
    (u.advance dots).2.frameCount =
      u.frameCount + (u.beam.entered dots).count blankScanline := by
  have moved := congrArg Beam.frameCount (beam_advance_eq counts)
  rw [Beam.frameCount_nextLine_iterate] at moved
  exact moved

/-- **Time moves the beam by the timetable.** -/
theorem beam_advance {u : PictureUnit} {passed dots : Nat} (timed : u.beam = .after passed)
    (counts : u.Counts dots) : (u.advance dots).2.beam = .after (passed + dots) := by
  have dot : u.dot = passed % 341 := congrArg Beam.dot timed
  have total : u.totalDots = passed := congrArg Beam.totalDots timed
  have lines : passed / 341 + (passed % 341 + dots) / dotsPerScanline = (passed + dots) / 341 := by
    unfold dotsPerScanline
    omega
  have rest : (passed % 341 + dots) % dotsPerScanline = (passed + dots) % 341 := by
    unfold dotsPerScanline
    omega
  rw [beam_advance_eq counts, timed, dot, total, rest]
  change Beam.nextLine^[_] (Beam.onLine (passed / 341) _ _) = _
  rw [Beam.nextLine_iterate_onLine, lines]
  rfl

/-! A unit that follows the timetable tells everything from the dots that have passed. -/

theorem counts_of_after {u : PictureUnit} {passed dots : Nat} (timed : u.beam = .after passed)
    (fits : passed % 341 + dots < UInt32.size) : u.Counts dots := by
  have dot : u.dot = passed % 341 := congrArg Beam.dot timed
  rw [Counts, dot]
  exact fits

theorem inBlank_of_after {u : PictureUnit} {passed : Nat} (timed : u.beam = .after passed) :
    u.inBlank = decide (241 ≤ passed / 341 % 262 ∧ passed / 341 % 262 ≤ 260) :=
  congrArg Beam.inBlank timed

/-! ## Histories -/

/-- What happens to a picture unit. -/
inductive Act where
  | read (register : Register)
  | write (register : Register) (v : UInt8)
  | loadSprites (sprites : Bytes 256)
  | advance (dots : Nat)

def act (u : PictureUnit) : Act → PictureUnit
  | .read r => (u.readRegister r).2
  | .write r v => u.writeRegister r v
  | .loadSprites sprites => u.loadSprites sprites
  | .advance dots => (u.advance dots).2

def actAll (u : PictureUnit) (as : List Act) : PictureUnit := as.foldl act u

/-- Every time that passes is counted exactly. -/
def CountsAll (u : PictureUnit) : List Act → Prop
  | [] => True
  | .advance dots :: rest => u.Counts dots ∧ (u.act (.advance dots)).CountsAll rest
  | a :: rest => (u.act a).CountsAll rest

theorem beam_act {u : PictureUnit} {a : Act} {rest : List Act} (timed : u.beam = .after u.totalDots)
    (counts : u.CountsAll (a :: rest)) :
    (u.act a).beam = .after (u.act a).totalDots ∧ (u.act a).CountsAll rest := by
  -- An access leaves the beam alone, and with it the dots that have passed.
  have kept {v : PictureUnit} (same : v.beam = u.beam) : v.beam = .after v.totalDots := by
    have dots : v.totalDots = u.totalDots := congrArg Beam.totalDots same
    rw [same, timed, dots]
  cases a with
  | read r => exact ⟨kept (beam_readRegister u r), counts⟩
  | write r v => exact ⟨kept (beam_writeRegister u r v), counts⟩
  | loadSprites sprites => exact ⟨kept (beam_loadSprites u sprites), counts⟩
  | advance dots =>
    obtain ⟨exact, later⟩ := counts
    refine ⟨?_, later⟩
    have moved := beam_advance timed exact
    rw [← totalDots_advance] at moved
    exact moved

theorem beam_actAll {u : PictureUnit} {as : List Act} (timed : u.beam = .after u.totalDots)
    (counts : u.CountsAll as) : (u.actAll as).beam = .after (u.actAll as).totalDots := by
  induction as generalizing u with
  | nil => exact timed
  | cons a rest ih =>
    obtain ⟨timed, counts⟩ := beam_act timed counts
    exact ih timed counts

theorem beam_ofMemory (memory : VideoMemory) : (ofMemory memory).beam = .after 0 := rfl

/-- **All counters are a closed form of the dots that have passed**, after any history of accesses and
time, and vertical blank is signalled whenever the count of frames grows. The counters themselves are
unbounded here. -/
theorem counters_of_actAll (memory : VideoMemory) (as : List Act)
    (counts : (ofMemory memory).CountsAll as) :
    let u := (ofMemory memory).actAll as
    let line := u.totalDots / 341
    u.dot = u.totalDots % 341 ∧
      u.scanline = line % 262 ∧
      u.frameCount = (line + 21) / 262 ∧
      (u.inBlank = true ↔ 241 ≤ line % 262 ∧ line % 262 ≤ 260) ∧
      ∀ dots, u.Counts dots →
        ((u.advance dots).1.frameReady = true ↔ u.frameCount < (u.advance dots).2.frameCount) ∧
        ((u.advance dots).1.nmi = true ↔
          u.frameCount < (u.advance dots).2.frameCount ∧ u.control.interrupts = true) := by
  intro u line
  have timed : u.beam = .after u.totalDots := beam_actAll (beam_ofMemory memory) counts
  refine ⟨congrArg Beam.dot timed, congrArg Beam.scanline timed, congrArg Beam.frameCount timed, ?_,
    ?_⟩
  · rw [inBlank_of_after timed, decide_eq_true_iff]
  · intro dots counts
    have grows : blankScanline ∈ u.beam.entered dots ↔
        u.frameCount < (u.advance dots).2.frameCount := by
      rw [frameCount_advance counts, ← List.count_pos_iff]
      omega
    rw [signals_advance counts, ← grows]
    simp only [decide_eq_true_iff, Bool.and_eq_true, and_self]

/-- The first vertical blank begins with the dot that completes 241 scanlines. -/
theorem counters_of_first_blank :
    let as : List Act := [.write .control 0x80, .advance 82180, .advance 1]
    let u := (ofMemory .blank).actAll as
    (ofMemory .blank).CountsAll as ∧
      u.dot = 0 ∧ u.scanline = 241 ∧ u.frameCount = 1 ∧ u.inBlank = true := by
  intro as u
  have counts : (ofMemory .blank).CountsAll as := by
    refine ⟨by unfold Counts; decide, ?_, trivial⟩
    simp only [Counts, act, dot_advance]
    decide
  have dots : u.totalDots = 82181 := by
    simp only [u, as, actAll, List.foldl_cons, List.foldl_nil, act, totalDots_advance]
    rfl
  obtain ⟨dot, scanline, frames, blank, -⟩ := counters_of_actAll .blank as counts
  refine ⟨counts, ?_, ?_, ?_, ?_⟩
  · rw [dot, dots]
  · rw [scanline, dots]
  · rw [frames, dots]
  · rw [blank, dots]
    decide

end PictureUnit

end Famicom.Picture

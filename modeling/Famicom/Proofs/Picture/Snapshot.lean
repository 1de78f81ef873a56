import Famicom.Proofs.Picture.Timing

/-!
# A frame is a snapshot

The picture is composed when scanline 0 is completed and shown when vertical blank begins. In between
the program rewrites the tables, the sprites and both settings, and nothing of that shows.

* `completionsAll` lists the unit at every scanline that a history completes, so that a stretch of time
  of any length is taken apart.
* `outstanding_finishScanline`: a scanline takes a snapshot, shows the one that was taken, or lets it
  stand.
* `shown_are_snapshots`: the frames that are shown are the snapshots in their order, and the frame
  buffer holds the latest one at any time.
-/

namespace Famicom.Picture.PictureUnit

/-! ## The scanlines of a history -/

/-- The unit at each of the scanlines that it completes one after another, right before it does. -/
def completions (u : PictureUnit) : (n : Nat) → List PictureUnit
  | 0 => []
  | n + 1 => u :: u.finishScanline.2.completions n

/-- The unit after so many dots were counted and before any scanline is completed. -/
def counted (u : PictureUnit) (dots : Nat) : PictureUnit :=
  { u with
    dot := (u.dot + dots) % UInt32.size % dotsPerScanline
    totalDots := u.totalDots + dots }

/-- The unit at each scanline that an act completes. -/
def completionsOf (u : PictureUnit) : Act → List PictureUnit
  | .advance dots => (u.counted dots).completions ((u.dot + dots) % UInt32.size / dotsPerScanline)
  | _ => []

/-- The unit at each scanline that a history completes. -/
def completionsAll (u : PictureUnit) : List Act → List PictureUnit
  | [] => []
  | a :: rest => u.completionsOf a ++ (u.act a).completionsAll rest

/-- The picture of what the unit holds now. -/
def snapshot (u : PictureUnit) : Frame :=
  Scene.compose
    { latch := .take u.memory u.control, memory := u.memory, sprites := u.sprites
      control := u.control, mask := u.mask }

/-- The snapshots of those units that complete scanline 0. -/
def snapshots (us : List PictureUnit) : List Frame :=
  (us.filter fun u => u.scanline = 0).map snapshot

/-- The frame buffers of those units that begin vertical blank, when they have. -/
def shown (us : List PictureUnit) : List Frame :=
  (us.filter fun u => u.finishScanline.1.frameReady).map fun u => u.finishScanline.2.frame

theorem snapshots_append (us vs : List PictureUnit) :
    snapshots (us ++ vs) = snapshots us ++ snapshots vs := by
  simp only [snapshots, List.filter_append, List.map_append]

theorem shown_append (us vs : List PictureUnit) : shown (us ++ vs) = shown us ++ shown vs := by
  simp only [shown, List.filter_append, List.map_append]

/-! ## Accesses -/

theorem frame_readRegister (u : PictureUnit) (r : Register) :
    (u.readRegister r).2.frame = u.frame := by
  rw [readRegister_eq]
  rfl

theorem frame_writeRegister (u : PictureUnit) (r : Register) (v : UInt8) :
    (u.writeRegister r v).frame = u.frame := by
  rw [writeRegister_eq]
  rfl

/-! ## A scanline -/

/-- Only the completion of scanline 0 changes the frame. -/
theorem frame_finishScanline (u : PictureUnit) :
    u.finishScanline.2.frame = if u.scanline = 0 then u.snapshot else u.frame := by
  unfold finishScanline
  dsimp only
  split
  · rfl
  · split
    · rfl
    · split <;> rfl

theorem scanline_finishScanline (u : PictureUnit) :
    u.finishScanline.2.scanline = (u.scanline + 1) % scanlinesPerFrame :=
  congrArg Beam.scanline (beam_finishScanline u)

theorem scanline_finishScanline_lt (u : PictureUnit) :
    u.finishScanline.2.scanline < scanlinesPerFrame := by
  rw [scanline_finishScanline]
  exact Nat.mod_lt _ (by decide)

theorem snapshots_singleton (u : PictureUnit) :
    snapshots [u] = if u.scanline = 0 then [u.snapshot] else [] := by
  by_cases first : u.scanline = 0 <;> simp [snapshots, first]

/-- What is shown at vertical blank is the frame as it was before. -/
theorem shown_singleton (u : PictureUnit) :
    shown [u] = if (u.scanline + 1) % scanlinesPerFrame = blankScanline then [u.frame] else [] := by
  have ready : u.finishScanline.1.frameReady = _ :=
    congrArg Signals.frameReady (signals_finishScanline u)
  by_cases begins : (u.scanline + 1) % scanlinesPerFrame = blankScanline
  · have later : u.scanline ≠ 0 := by
      intro first
      rw [first] at begins
      exact absurd begins (by decide)
    simp [shown, ready, begins, frame_finishScanline, later]
  · simp [shown, ready, begins]

/-- The frame that was taken and is still to be shown. -/
def outstanding (u : PictureUnit) : List Frame :=
  if 1 ≤ u.scanline ∧ u.scanline < blankScanline then [u.frame] else []

/-- **A scanline takes a snapshot, shows the one that was taken, or lets it stand.** -/
theorem outstanding_finishScanline {u : PictureUnit} (place : u.scanline < scanlinesPerFrame) :
    u.outstanding ++ snapshots [u] = shown [u] ++ u.finishScanline.2.outstanding := by
  rw [snapshots_singleton, shown_singleton]
  unfold outstanding
  rw [scanline_finishScanline, frame_finishScanline]
  unfold scanlinesPerFrame at place
  unfold scanlinesPerFrame blankScanline
  rcases Nat.lt_trichotomy u.scanline 240 with before | last | after
  · by_cases first : u.scanline = 0
    · simp [first]
    · have next : (u.scanline + 1) % 262 = u.scanline + 1 := Nat.mod_eq_of_lt (by omega)
      have drawn : 1 ≤ u.scanline ∧ u.scanline < 241 := by omega
      have waits : 1 ≤ u.scanline + 1 ∧ u.scanline + 1 < 241 := by omega
      have quiet : u.scanline + 1 ≠ 241 := by omega
      rw [next, if_pos drawn, if_neg first, if_neg quiet, if_pos waits, if_neg first]
      rfl
  · simp [last]
  · have idle : ¬ (1 ≤ u.scanline ∧ u.scanline < 241) := by omega
    have still : ¬ (1 ≤ (u.scanline + 1) % 262 ∧ (u.scanline + 1) % 262 < 241) := by omega
    have quiet : (u.scanline + 1) % 262 ≠ 241 := by omega
    rw [if_neg idle, if_neg (by omega), if_neg quiet, if_neg still]

/-! ## Stretches of time -/

theorem outstanding_finishScanlines (n : Nat) {u : PictureUnit}
    (place : u.scanline < scanlinesPerFrame) :
    u.outstanding ++ snapshots (u.completions n) =
      shown (u.completions n) ++ (u.finishScanlines n).2.outstanding := by
  induction n generalizing u with
  | zero => exact List.append_nil _
  | succ n ih =>
    have first := outstanding_finishScanline place
    have rest := ih (scanline_finishScanline_lt u)
    calc u.outstanding ++ snapshots (u.completions (n + 1))
      _ = (u.outstanding ++ snapshots [u]) ++ snapshots (u.finishScanline.2.completions n) := by
          rw [List.append_assoc, ← snapshots_append]
          rfl
      _ = shown [u] ++ shown (u.finishScanline.2.completions n) ++
            (u.finishScanline.2.finishScanlines n).2.outstanding := by
          rw [first, List.append_assoc, rest, List.append_assoc]
      _ = shown (u.completions (n + 1)) ++ (u.finishScanlines (n + 1)).2.outstanding := by
          rw [← shown_append]
          rfl

theorem scanline_finishScanlines_lt (n : Nat) {u : PictureUnit}
    (place : u.scanline < scanlinesPerFrame) :
    (u.finishScanlines n).2.scanline < scanlinesPerFrame := by
  induction n generalizing u with
  | zero => exact place
  | succ n ih => exact ih (scanline_finishScanline_lt u)

theorem getLastD_append {α : Type} (l l' : List α) (a : α) :
    (l ++ l').getLastD a = l'.getLastD (l.getLastD a) := by
  simp only [List.getLastD_eq_getLast?, List.getLast?_append]
  cases l'.getLast? <;> rfl

theorem frame_finishScanlines (n : Nat) (u : PictureUnit) :
    (u.finishScanlines n).2.frame = (snapshots (u.completions n)).getLastD u.frame := by
  induction n generalizing u with
  | zero => rfl
  | succ n ih =>
    have latest : u.finishScanline.2.frame = (snapshots [u]).getLastD u.frame := by
      rw [frame_finishScanline, snapshots_singleton]
      split <;> rfl
    calc (u.finishScanlines (n + 1)).2.frame
      _ = (snapshots (u.finishScanline.2.completions n)).getLastD u.finishScanline.2.frame :=
          ih u.finishScanline.2
      _ = (snapshots [u] ++ snapshots (u.finishScanline.2.completions n)).getLastD u.frame := by
          rw [latest, getLastD_append]
      _ = (snapshots (u.completions (n + 1))).getLastD u.frame := by
          rw [← snapshots_append]
          rfl

/-! ## Histories -/

theorem scanline_act_lt {u : PictureUnit} (place : u.scanline < scanlinesPerFrame) (a : Act) :
    (u.act a).scanline < scanlinesPerFrame := by
  cases a with
  | read r =>
    have kept : (u.act (.read r)).scanline = u.scanline :=
      congrArg Beam.scanline (beam_readRegister u r)
    exact kept ▸ place
  | write r v =>
    have kept : (u.act (.write r v)).scanline = u.scanline :=
      congrArg Beam.scanline (beam_writeRegister u r v)
    exact kept ▸ place
  | loadSprites sprites => exact place
  | advance dots => exact scanline_finishScanlines_lt (u := u.counted dots) _ place

/-- Units on one scanline with one frame have the same frame still to be shown. -/
theorem outstanding_congr {u v : PictureUnit} (scanline : v.scanline = u.scanline)
    (frame : v.frame = u.frame) : v.outstanding = u.outstanding := by
  unfold outstanding
  rw [scanline, frame]

/-- **No act shows anything but the snapshots in their order.** -/
theorem outstanding_act {u : PictureUnit} (place : u.scanline < scanlinesPerFrame) (a : Act) :
    u.outstanding ++ snapshots (u.completionsOf a) =
      shown (u.completionsOf a) ++ (u.act a).outstanding := by
  -- An access completes no scanline, so that it is enough that it leaves scanline and frame alone.
  have access {v : PictureUnit} (scanline : v.scanline = u.scanline) (frame : v.frame = u.frame) :
      u.outstanding ++ snapshots [] = shown [] ++ v.outstanding :=
    (List.append_nil _).trans (outstanding_congr scanline frame).symm
  cases a with
  | read r => exact access (congrArg Beam.scanline (beam_readRegister u r)) (frame_readRegister u r)
  | write r v =>
    exact access (congrArg Beam.scanline (beam_writeRegister u r v)) (frame_writeRegister u r v)
  | loadSprites sprites => exact access rfl rfl
  | advance dots => exact outstanding_finishScanlines (u := u.counted dots) _ place

theorem outstanding_actAll {u : PictureUnit} (place : u.scanline < scanlinesPerFrame)
    (as : List Act) :
    u.outstanding ++ snapshots (u.completionsAll as) =
      shown (u.completionsAll as) ++ (u.actAll as).outstanding := by
  induction as generalizing u with
  | nil => exact List.append_nil _
  | cons a rest ih =>
    have first := outstanding_act place a
    have later := ih (scanline_act_lt place a)
    simp only [completionsAll, snapshots_append, shown_append]
    rw [← List.append_assoc, first, List.append_assoc, later, List.append_assoc]
    rfl

/-- An act changes the frame by completing scanline 0 only. -/
theorem frame_act (u : PictureUnit) (a : Act) :
    (u.act a).frame = (snapshots (u.completionsOf a)).getLastD u.frame := by
  cases a with
  | read r => exact frame_readRegister u r
  | write r v => exact frame_writeRegister u r v
  | loadSprites sprites => rfl
  | advance dots => exact frame_finishScanlines _ (u.counted dots)

theorem frame_actAll (u : PictureUnit) (as : List Act) :
    (u.actAll as).frame = (snapshots (u.completionsAll as)).getLastD u.frame := by
  induction as generalizing u with
  | nil => rfl
  | cons a rest ih =>
    have later := ih (u.act a)
    rw [frame_act] at later
    rw [completionsAll, snapshots_append, getLastD_append]
    exact later

/-- **A frame is a snapshot.** After any history from power-on, the frames that vertical blanks have
shown are the pictures of what the unit held at the completions of scanline 0, one for each of them in
order, and a snapshot that vertical blank has not reached yet is the last one. From any state on, the
frame buffer changes at the completions of scanline 0 only. -/
theorem shown_are_snapshots (memory : VideoMemory) (as : List Act) :
    let u := ofMemory memory
    snapshots (u.completionsAll as) = shown (u.completionsAll as) ++ (u.actAll as).outstanding ∧
      ∀ (v : PictureUnit) (bs : List Act),
        (v.actAll bs).frame = (snapshots (v.completionsAll bs)).getLastD v.frame := by
  intro u
  have place : u.scanline < scanlinesPerFrame := by
    change 0 < scanlinesPerFrame
    decide
  exact ⟨outstanding_actAll place as, frame_actAll⟩

end Famicom.Picture.PictureUnit

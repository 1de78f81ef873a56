import Famicom.Bus
import Famicom.Proofs.Processor.Frame

/-!
# The beam and the ports

The beam is where the picture unit is in its frame: the dot and the scanline, how many dots have
passed and how many frames were finished, and whether it is in vertical blank. Accesses of the
processor never move the beam; only time does.

The ports are what the processor has set up in the picture unit: the memories, the settings and the
state of the registers that take several accesses. Time leaves all of this alone.

* `PictureUnit.readRegister_eq`, `writeRegister_eq`: an access changes the ports and nothing else.
* `Bus.beam` is sheltered from the processor.
* `PictureUnit.finishScanline_setDots`: a scanline is completed without a look at the count of dots.
* `PictureUnit.totalDots_advance` and `dot_advance` say how time moves the beam.
* `PictureUnit.signals_advance_of_lt`: nothing is signalled while the scanline goes on.
* `PictureUnit.ports_advance`: letting time pass changes nothing in the ports.
-/

namespace Famicom

open Picture Processor

namespace Picture

/-- The place of the picture unit in its frame. -/
structure Beam where
  dot : Nat
  scanline : Nat
  totalDots : Nat
  frameCount : Nat
  inBlank : Bool
  deriving DecidableEq, Repr

/-- What accesses of the processor work on. -/
structure Ports where
  memory : VideoMemory
  sprites : Bytes 256
  control : Control
  mask : Mask
  spriteAddress : UInt8
  scrollX : UInt8
  scrollY : UInt8
  address : Nat
  second : Bool
  buffer : UInt8

namespace PictureUnit

def beam (u : PictureUnit) : Beam where
  dot := u.dot
  scanline := u.scanline
  totalDots := u.totalDots
  frameCount := u.frameCount
  inBlank := u.inBlank

def ports (u : PictureUnit) : Ports where
  memory := u.memory
  sprites := u.sprites
  control := u.control
  mask := u.mask
  spriteAddress := u.spriteAddress
  scrollX := u.scrollX
  scrollY := u.scrollY
  address := u.address
  second := u.second
  buffer := u.buffer

/-- The unit with other ports. -/
def withPorts (u : PictureUnit) (p : Ports) : PictureUnit :=
  { u with
    memory := p.memory
    sprites := p.sprites
    control := p.control
    mask := p.mask
    spriteAddress := p.spriteAddress
    scrollX := p.scrollX
    scrollY := p.scrollY
    address := p.address
    second := p.second
    buffer := p.buffer }

theorem beam_withPorts (u : PictureUnit) (p : Ports) : (u.withPorts p).beam = u.beam := rfl

/-! ## Accesses -/

/-- A read changes the ports and nothing else. -/
theorem readRegister_eq (u : PictureUnit) (r : Register) :
    (u.readRegister r).2 = u.withPorts (u.readRegister r).2.ports := by
  cases r <;> rfl

/-- A write changes the ports and nothing else. -/
theorem writeRegister_eq (u : PictureUnit) (r : Register) (v : UInt8) :
    u.writeRegister r v = u.withPorts (u.writeRegister r v).ports := by
  cases r
  -- Two registers take two writes in turn.
  case scroll =>
    unfold writeRegister
    dsimp only
    split <;> rfl
  case address =>
    unfold writeRegister
    dsimp only
    split <;> rfl
  all_goals rfl

theorem beam_readRegister (u : PictureUnit) (r : Register) :
    (u.readRegister r).2.beam = u.beam := by
  rw [readRegister_eq, beam_withPorts]

theorem beam_writeRegister (u : PictureUnit) (r : Register) (v : UInt8) :
    (u.writeRegister r v).beam = u.beam := by
  rw [writeRegister_eq, beam_withPorts]

theorem beam_loadSprites (u : PictureUnit) (sprites : Bytes 256) :
    (u.loadSprites sprites).beam = u.beam := rfl

/-! ## Time -/

/-- The unit with another count of dots. -/
def setDots (u : PictureUnit) (dot total : Nat) : PictureUnit :=
  { u with dot := dot, totalDots := total }

/-- Completing a scanline neither looks at the count of dots nor changes it. -/
theorem finishScanline_setDots (u : PictureUnit) (dot total : Nat) :
    (u.setDots dot total).finishScanline =
      (u.finishScanline.1, u.finishScanline.2.setDots dot total) := by
  have scanline : (u.setDots dot total).scanline = u.scanline := rfl
  unfold finishScanline
  dsimp only
  rw [scanline]
  by_cases first : u.scanline = 0
  · simp only [if_pos first]
    rfl
  · simp only [if_neg first]
    by_cases begins : (u.scanline + 1) % scanlinesPerFrame = blankScanline
    · simp only [if_pos begins]
      rfl
    · simp only [if_neg begins]
      by_cases ends : (u.scanline + 1) % scanlinesPerFrame = preRenderScanline
      · simp only [if_pos ends]
        rfl
      · simp only [if_neg ends]
        rfl

theorem finishScanlines_setDots (n : Nat) (u : PictureUnit) (dot total : Nat) :
    (u.setDots dot total).finishScanlines n =
      ((u.finishScanlines n).1, (u.finishScanlines n).2.setDots dot total) := by
  induction n generalizing u with
  | zero => rfl
  | succ n ih =>
    simp only [finishScanlines]
    rw [finishScanline_setDots, ih]

theorem dot_finishScanlines (n : Nat) (u : PictureUnit) :
    (u.finishScanlines n).2.dot = u.dot :=
  congrArg (·.2.dot) (u.finishScanlines_setDots n u.dot u.totalDots)

theorem totalDots_finishScanlines (n : Nat) (u : PictureUnit) :
    (u.finishScanlines n).2.totalDots = u.totalDots :=
  congrArg (·.2.totalDots) (u.finishScanlines_setDots n u.dot u.totalDots)

theorem totalDots_advance (u : PictureUnit) (dots : Nat) :
    (u.advance dots).2.totalDots = u.totalDots + dots := by
  simp only [advance, totalDots_finishScanlines]

theorem dot_advance (u : PictureUnit) (dots : Nat) :
    (u.advance dots).2.dot = (u.dot + dots) % UInt32.size % dotsPerScanline := by
  simp only [advance, dot_finishScanlines]

/-- **Nothing is signalled while the scanline goes on.** -/
theorem signals_advance_of_lt {u : PictureUnit} {dots : Nat}
    (within : u.dot + dots < dotsPerScanline) : (u.advance dots).1 = .none := by
  have fits : u.dot + dots < UInt32.size := Nat.lt_trans within (by decide)
  simp only [advance, Nat.mod_eq_of_lt fits, Nat.div_eq_of_lt within, finishScanlines]

theorem ports_finishScanline (u : PictureUnit) : u.finishScanline.2.ports = u.ports := by
  unfold finishScanline
  dsimp only
  split
  · rfl
  · split
    · rfl
    · split <;> rfl

theorem ports_finishScanlines (n : Nat) (u : PictureUnit) :
    (u.finishScanlines n).2.ports = u.ports := by
  induction n generalizing u with
  | zero => rfl
  | succ n ih =>
    simp only [finishScanlines]
    rw [ih, ports_finishScanline]

/-- **Time leaves the ports alone.** -/
theorem ports_advance (u : PictureUnit) (dots : Nat) : (u.advance dots).2.ports = u.ports := by
  simp only [advance, ports_finishScanlines]
  rfl

end PictureUnit

end Picture

namespace Bus

def beam (b : Bus) : Beam := b.picture.beam

theorem beam_read (b : Bus) (address : UInt16) : (b.read address).2.beam = b.beam := by
  unfold read
  dsimp only
  split
  · exact PictureUnit.beam_readRegister _ _
  · split <;> rfl

theorem beam_write (b : Bus) (address : UInt16) (v : UInt8) :
    (b.write address v).beam = b.beam := by
  unfold write
  dsimp only
  split
  · exact PictureUnit.beam_writeRegister _ _ _
  · split
    · exact PictureUnit.beam_loadSprites _ _
    · split
      · rfl
      · split <;> rfl

instance : Sheltered beam := ⟨beam_read, beam_write, fun _ _ => rfl⟩

end Bus

end Famicom

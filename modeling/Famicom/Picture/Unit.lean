import Famicom.Journal
import Famicom.Picture.Composition

/-!
# The picture unit

The unit counts dots: 341 of them make a scanline and 262 scanlines a frame. Completing scanline 0
latches the tables of the frame and composes it; entering scanline 241 begins vertical blank and
entering scanline 261 ends it. The processor meanwhile works on eight registers.

* `readRegister` and `writeRegister` are the accesses of the processor.
* `advance` lets time pass and tells whether vertical blank began.
-/

namespace Famicom.Picture

def dotsPerScanline : Nat := 341

def scanlinesPerFrame : Nat := 262

/-- The scanline with which vertical blank begins. -/
def blankScanline : Nat := 241

/-- The scanline with which vertical blank is over. -/
def preRenderScanline : Nat := 261

/-- What happened while time passed: whether vertical blank began, with which a frame is ready, and
whether it interrupts the processor. -/
structure Signals where
  nmi : Bool
  frameReady : Bool
  deriving DecidableEq, Repr

namespace Signals

def none : Signals := ⟨false, false⟩

/-- What happened in either of two stretches of time. -/
def or (a b : Signals) : Signals := ⟨a.nmi || b.nmi, a.frameReady || b.frameReady⟩

end Signals

/-- The state of the unit. The data register works on `address` and answers a read with `buffer`;
the scroll and the address register are written in two halves, and `second` says which one is next.
-/
structure PictureUnit where
  memory : VideoMemory
  sprites : Bytes 256
  control : Control
  mask : Mask
  inBlank : Bool
  spriteAddress : UInt8
  scrollX : UInt8
  scrollY : UInt8
  address : Nat
  second : Bool
  buffer : UInt8
  dot : Nat
  scanline : Nat
  totalDots : Nat
  frameCount : Nat
  latch : Latch
  frame : Frame

namespace PictureUnit

/-- The unit at power-on. -/
def ofMemory (memory : VideoMemory) : PictureUnit where
  memory
  sprites := .fill 0
  control := ⟨0⟩
  mask := ⟨0⟩
  inBlank := false
  spriteAddress := 0
  scrollX := 0
  scrollY := 0
  address := 0
  second := false
  buffer := 0
  dot := 0
  scanline := 0
  totalDots := 0
  frameCount := 0
  latch := .blank
  frame := .blank

instance : Inhabited PictureUnit := ⟨ofMemory .blank⟩

/-- The video address after an access to the data register. -/
def nextAddress (u : PictureUnit) : Nat := u.memory.fold (u.address + u.control.increment)

/-- A read by the processor. Reading the status only forgets a half-finished write; the data
register lags one read behind, except in the palettes. -/
def readRegister (u : PictureUnit) (r : Register) : UInt8 × PictureUnit :=
  match r with
  | .status => (if u.inBlank then 0x80 else 0, { u with second := false })
  | .spriteData => (u.sprites.get ⟨u.spriteAddress.toNat, u.spriteAddress.toNat_lt⟩, u)
  | .data =>
    let v := u.memory.read u.address
    let shown := if paletteBase ≤ u.memory.fold u.address then v else u.buffer
    (shown, { u with buffer := v, address := u.nextAddress })
  | _ => (0, u)

/-- A write by the processor. Scroll and address take two writes each and share the memory of which
of them comes next; the second write to the address adds to what the first has set. -/
def writeRegister (u : PictureUnit) (r : Register) (v : UInt8) : PictureUnit :=
  match r with
  | .control => { u with control := ⟨v⟩ }
  | .mask => { u with mask := ⟨v⟩ }
  | .status => u
  | .spriteAddress => { u with spriteAddress := v }
  | .spriteData =>
    let cell := u.spriteAddress
    { u with sprites := u.sprites.set ⟨cell.toNat, cell.toNat_lt⟩ v, spriteAddress := cell + 1 }
  | .scroll =>
    if u.second then { u with scrollY := v, second := false }
    else { u with scrollX := v, second := true }
  | .address =>
    if u.second then { u with address := u.memory.fold (u.address + v.toNat), second := false }
    else { u with address := (v.toNat % 64) * 256, second := true }
  | .data =>
    let next := u.nextAddress
    { u with memory := u.memory.write u.address v, address := next }

/-- Replaces all of sprite memory. -/
def loadSprites (u : PictureUnit) (sprites : Bytes 256) : PictureUnit := { u with sprites }

/-- What the next frame would be composed from. -/
def scene (u : PictureUnit) : Scene :=
  { latch := u.latch, memory := u.memory, sprites := u.sprites, control := u.control
    mask := u.mask }

/-- Latches the tables of the frame and composes it. -/
def drawFrame (u : PictureUnit) : PictureUnit :=
  let latched := { u with latch := .take u.memory u.control }
  { latched with frame := latched.scene.compose }

/-- Completes a scanline and enters the next one. -/
def finishScanline (u : PictureUnit) : Signals × PictureUnit :=
  let next := (u.scanline + 1) % scanlinesPerFrame
  let moved := { u with scanline := next }
  if u.scanline = 0 then (.none, moved.drawFrame)
  else if next = blankScanline then
    (⟨u.control.interrupts, true⟩, { moved with inBlank := true, frameCount := u.frameCount + 1 })
  else if next = preRenderScanline then (.none, { moved with inBlank := false })
  else (.none, moved)

/-- Completes the given number of scanlines. -/
def finishScanlines (u : PictureUnit) : Nat → Signals × PictureUnit
  | 0 => (.none, u)
  | n + 1 =>
    let first := u.finishScanline
    let rest := first.2.finishScanlines n
    (first.1.or rest.1, rest.2)

/-- Lets a number of dots pass. The dots since the last scanline are counted in a word of thirty-two
bits. -/
def advance (u : PictureUnit) (dots : Nat) : Signals × PictureUnit :=
  let reached := (u.dot + dots) % UInt32.size
  let counted :=
    { u with dot := reached % dotsPerScanline, totalDots := u.totalDots + dots }
  counted.finishScanlines (reached / dotsPerScanline)

/-- The events of the frame count having gone from `before` to `after`. -/
def blankEvents (before after : Nat) : List Event :=
  (List.range' (before + 1) (after - before)).map .verticalBlank

end PictureUnit

end Famicom.Picture

import Famicom.Cartridge.Image
import Famicom.Joypad
import Famicom.Picture.Unit
import Famicom.Processor.AddressSpace

/-!
# The bus of the console

What the processor sees: two kilobytes of work memory that repeat up to `$1FFF`, the eight picture
registers repeating up to `$3FFF`, the sprite transfer at `$4014`, the joypad at `$4016` and
the program of the cartridge from `$8000` on, twice if it is no larger than one bank. An address is
folded onto the canonical one first. Everything that is no device lies in one block of storage.

* `peek` reads storage without touching a device.
-/

namespace Famicom

open Picture Processor

/-- The address that starts a sprite transfer. -/
def spriteTransferAddress : UInt16 := 0x4014

/-- The address of the joypad's connector. -/
def joypadAddress : UInt16 := 0x4016

/-- What the processor works on. The storage has a byte for every address, but shows only at those
of no device. A program of one bank shows twice. -/
structure Bus where
  storage : Bytes 65536
  picture : PictureUnit
  connector : Connector
  repeatsProgram : Bool
  journal : Journal

namespace Bus

/-- A bus with a cartridge and a joypad. -/
def ofCartridge (c : Cartridge) (joypad : Joypad) (journal : Journal) : Bus where
  storage := (Bytes.fill 0).overwrite 0x8000 c.program
  picture := .ofMemory (.ofTiles c.tiles c.mirroring)
  connector := .ofJoypad joypad
  repeatsProgram := c.program.size ≤ Cartridge.programBank
  journal

/-- The canonical address of the place that `address` names. -/
def canonical (repeatsProgram : Bool) (address : UInt16) : UInt16 :=
  if address < 0x2000 then address % 0x0800
  else if address < 0x4000 then 0x2000 + address % 8
  else if 0x8000 ≤ address ∧ repeatsProgram then 0x8000 + (address - 0x8000) % 0x4000
  else address

def fold (b : Bus) (address : UInt16) : UInt16 := canonical b.repeatsProgram address

/-- What storage holds at the place that `address` names. -/
def peek (b : Bus) (address : UInt16) : UInt8 := b.storage.get (cell (b.fold address))

/-- The page of storage that a sprite transfer copies. -/
def page (b : Bus) (number : UInt8) : Bytes 256 :=
  .tabulate fun i => b.peek (number.toUInt16 <<< 8 ||| UInt16.ofNat i.val)

/-- Copies a page of storage into sprite memory. -/
def transferSprites (b : Bus) (number : UInt8) : Bus :=
  let data := b.page number
  { b with
    picture := b.picture.loadSprites data
    journal := b.journal.note (.spriteTransfer (number.toUInt16 <<< 8)) }

/-- A read by the processor. -/
def read (b : Bus) (address : UInt16) : UInt8 × Bus :=
  let a := b.fold address
  if 0x2000 ≤ a ∧ a < 0x4000 then
    let r := b.picture.readRegister (.ofAddress a)
    (r.1, { b with picture := r.2 })
  else if a = joypadAddress then
    let r := b.connector.read
    (r.1, { b with connector := r.2 })
  else (b.storage.get (cell a), b)

/-- A write by the processor. The program cannot be overwritten. -/
def write (b : Bus) (address : UInt16) (v : UInt8) : Bus :=
  let a := b.fold address
  if 0x2000 ≤ a ∧ a < 0x4000 then
    { b with picture := b.picture.writeRegister (.ofAddress a) v }
  else if a = spriteTransferAddress then b.transferSprites v
  else if a = joypadAddress then { b with connector := b.connector.write v }
  else if 0x8000 ≤ a then { b with journal := b.journal.note (.romWriteIgnored a v) }
  else { b with storage := b.storage.set (cell a) v }

def note (b : Bus) (e : Event) : Bus := { b with journal := b.journal.note e }

instance : AddressSpace Bus where
  read := read
  write := write
  note := note

/-- Lets the picture unit advance. -/
def advance (b : Bus) (dots : Nat) : Signals × Bus :=
  let before := b.picture.frameCount
  let r := b.picture.advance dots
  (r.1, { b with
    picture := r.2
    journal := b.journal.noteAll (PictureUnit.blankEvents before r.2.frameCount) })

/-- The joypad in the connector. -/
def joypad (b : Bus) : Joypad := b.connector.joypad

/-- Presses and releases on the joypad. -/
def mapJoypad (b : Bus) (f : Joypad → Joypad) : Bus :=
  { b with connector := { b.connector with joypad := f b.connector.joypad } }

end Bus

end Famicom

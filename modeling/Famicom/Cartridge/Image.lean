import Famicom.Cartridge.Header
import Famicom.Journal

/-!
# Cartridge images and cartridges

An image file is a header, an optional trainer, the program and the tiles, one after the other.
Bytes after the tiles are ignored. A cartridge is what the console can hold: a program that is
neither empty nor larger than the board, and tiles that fit.
-/

namespace Famicom

open Cartridge

/-- A cartridge for the one supported board. It has a header if it comes from an image. -/
structure Cartridge where
  program : ByteArray
  tiles : ByteArray
  mirroring : Mirroring
  trainer : Option ByteArray
  header : Option Header
  program_pos : 0 < program.size
  program_le : program.size ≤ maxProgram
  tiles_le : tiles.size ≤ maxTiles

namespace Cartridge

/-- The segments of an image file. -/
structure Image where
  header : Header
  trainer : Option ByteArray
  program : ByteArray
  tiles : ByteArray

namespace Image

/-- `length` bytes from `offset` on. -/
def segment (data : ByteArray) (offset length : Nat) : Except Defect ByteArray :=
  if offset + length ≤ data.size then .ok (data.extract offset (offset + length))
  else .error (.truncated (offset + length) data.size)

/-- Splits an image for the one supported board into its segments. -/
def read (data : ByteArray) : Except Defect Image := do
  let header ← Header.read data
  if header.mapper ≠ 0 then
    throw (.unsupportedMapper header.mapper)
  let trainer ←
    if header.hasTrainer then some <$> segment data headerSize trainerSize else pure none
  let start := headerSize + if header.hasTrainer then trainerSize else 0
  let program ← segment data start header.programSize
  let tiles ← segment data (start + header.programSize) header.tileSize
  return { header, trainer, program, tiles }

/-- The event of having read the image. -/
def event (i : Image) : Event :=
  .imageRead i.program.size i.tiles.size i.header.mirroring i.trainer.isSome

end Image

/-- A cartridge from its parts. -/
def ofParts (program tiles : ByteArray) (mirroring : Mirroring)
    (trainer : Option ByteArray) (header : Option Header) : Except Defect Cartridge :=
  if program_pos : 0 < program.size then
    if program_le : program.size ≤ maxProgram then
      if tiles_le : tiles.size ≤ maxTiles then
        .ok { program, tiles, mirroring, trainer, header, program_pos, program_le, tiles_le }
      else .error (.tilesTooLarge tiles.size)
    else .error (.programTooLarge program.size)
  else .error .emptyProgram

/-- The cartridge that an image describes. -/
def ofImage (i : Image) : Except Defect Cartridge :=
  ofParts i.program i.tiles i.header.mirroring i.trainer (some i.header)

/-- The cartridge in an image file. -/
def load (data : ByteArray) : Except Defect Cartridge := do
  ofImage (← Image.read data)

/-- The events of loading an image file, whether or not its parts fit the board. -/
def loadEvents (data : ByteArray) : List Event :=
  match Image.read data with
  | .ok i => [i.event]
  | .error _ => []

end Cartridge

end Famicom

/-!
# The header of a cartridge image

Sixteen bytes: a magic number, the sizes of the program and the tiles in banks, and two bytes of
flags, which also say how the board wires the four nametables. `Header.read` accepts the first
version of the format only.
-/

namespace Famicom

/-! ## Nametables -/

/-- Which nametables are one: the two upper and the two lower ones, the two left and the two right
ones, or none. -/
inductive Mirroring where
  | horizontal
  | vertical
  | fourScreen
  deriving DecidableEq, Repr

def Mirroring.name : Mirroring → String
  | .horizontal => "Horizontal"
  | .vertical => "Vertical"
  | .fourScreen => "FourScreen"

end Famicom

namespace Famicom.Cartridge

/-! ## Headers -/

/-- What can be wrong with a cartridge or its image. An image may be in the second version of the
format, and a truncated one has `actual` bytes where it should have `expected`. -/
inductive Defect where
  | headerTooShort
  | badMagic
  | secondFormat
  | unsupportedMapper (number : UInt8)
  | truncated (expected actual : Nat)
  | emptyProgram
  | programTooLarge (size : Nat)
  | tilesTooLarge (size : Nat)
  deriving DecidableEq, Repr

/-- Bytes in a bank of program. -/
def programBank : Nat := 16384

/-- Bytes in a bank of tiles. -/
def tileBank : Nat := 8192

/-- Bytes of program that the board can map. -/
def maxProgram : Nat := 2 * programBank

/-- Bytes of tiles that the board can map. -/
def maxTiles : Nat := tileBank

/-- Bytes in the header. -/
def headerSize : Nat := 16

/-- Bytes in the trainer, which may stand between header and program. -/
def trainerSize : Nat := 512

def Defect.message : Defect → String
  | .headerTooShort => "Invalid iNES header: Too short"
  | .badMagic => "Invalid iNES header: Invalid magic"
  | .secondFormat => "NES 2.0 images are not supported"
  | .unsupportedMapper n =>
    "Unsupported mapper " ++ toString n.toNat ++ " (only NROM is supported)"
  | .truncated expected actual =>
    "ROM truncated: expected " ++ toString expected ++ " bytes, found " ++ toString actual
  | .emptyProgram => "Program ROM is empty"
  | .programTooLarge size =>
    "Program ROM of " ++ toString size ++ " bytes exceeds " ++ toString maxProgram ++ " bytes"
  | .tilesTooLarge size =>
    "CHR ROM of " ++ toString size ++ " bytes exceeds " ++ toString maxTiles ++ " bytes"

structure Header where
  programBanks : UInt8
  tileBanks : UInt8
  flags6 : UInt8
  flags7 : UInt8
  ramBanks : UInt8
  deriving DecidableEq, Repr

namespace Header

/-- The mapper number, from the upper halves of both flag bytes. -/
def mapper (h : Header) : UInt8 := (h.flags6 >>> 4) ||| (h.flags7 &&& 0xF0)

def hasTrainer (h : Header) : Bool := h.flags6 &&& 0x04 != 0

/-- Whether the board keeps its work memory when switched off. -/
def hasBattery (h : Header) : Bool := h.flags6 &&& 0x02 != 0

def isSecondFormat (h : Header) : Bool := (h.flags7 >>> 2) &&& 3 == 2

def mirroring (h : Header) : Mirroring :=
  if h.flags6 &&& 0x08 != 0 then .fourScreen
  else if h.flags6 &&& 0x01 != 0 then .vertical
  else .horizontal

def programSize (h : Header) : Nat := h.programBanks.toNat * programBank

def tileSize (h : Header) : Nat := h.tileBanks.toNat * tileBank

/-- The magic number and the header fields, in the order in which they are checked. -/
def ofBytes : List UInt8 → Except Defect Header
  | 0x4E :: 0x45 :: 0x53 :: 0x1A :: programBanks :: tileBanks :: flags6 :: flags7 :: ramBanks ::
      _ =>
    let h : Header := { programBanks, tileBanks, flags6, flags7, ramBanks }
    if h.isSecondFormat then .error .secondFormat else .ok h
  | _ => .error .badMagic

/-- The header at the start of an image. -/
def read (data : ByteArray) : Except Defect Header :=
  if data.size < headerSize then .error .headerTooShort
  else ofBytes (data.extract 0 headerSize).data.toList

end Header

end Famicom.Cartridge

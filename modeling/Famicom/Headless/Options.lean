import Famicom.CommandLine

/-!
# Options of the headless runner

* `Options.ofSettings` turns the settings of a command line into options; the grammar has refused
  the values that cannot be read.
-/

namespace Famicom.Headless

open CommandLine Text

/-- The path of the image, how long and how fast to run it, where to start if not at the reset
vector, what to print afterwards, and a path for the last frame. -/
structure Options where
  image : String
  frames : Nat
  paced : Bool
  start : Option UInt16
  showsProcessor : Bool
  showsPicture : Bool
  screenshot : Option String
  deriving DecidableEq, Repr

namespace Options

inductive Key where
  | image
  | frames
  | pace
  | start
  | processor
  | picture
  | screenshot
  deriving DecidableEq, Repr

def maxFrames : Nat := UInt64.size - 1

def parseFrames (text : String) : Except Numeral.Defect Nat :=
  Numeral.read 10 maxFrames text.toList

def refuse (key : Key) (value : String) : Option Objection :=
  match key with
  | .image | .screenshot => if value = "" then some .missing else none
  | .frames =>
    match parseFrames value with
    | .ok _ => none
    | .error d => some (.reason d.message)
  | .start =>
    match Address.parse value with
    | .ok _ => none
    | .error d => some (.reason (Address.objection value d))
  | .pace | .processor | .picture => none

def grammar : Grammar Key where
  switches :=
    [⟨.image, "rom", some 'r', some "ROM"⟩,
      ⟨.frames, "frames", some 'f', some "FRAMES"⟩,
      ⟨.pace, "pace", none, none⟩,
      ⟨.start, "start-pc", none, some "START_PC"⟩,
      ⟨.processor, "dump-cpu", some 'c', none⟩,
      ⟨.picture, "dump-ppu", some 'p', none⟩,
      ⟨.screenshot, "screenshot", some 's', some "SCREENSHOT"⟩]
  operands := []
  required := [.image]
  refuse := refuse

/-- Frames to run where the command line does not say. -/
def defaultFrames : Nat := 60

def ofSettings (s : Settings Key) : Options where
  image := (s.get? .image).getD ""
  frames := ((s.get? .frames).bind fun v => (parseFrames v).toOption).getD defaultFrames
  paced := s.has .pace
  start := (s.get? .start).bind fun v => (Address.parse v).toOption
  showsProcessor := s.has .processor
  showsPicture := s.has .picture
  screenshot := s.get? .screenshot

/-- The help text. -/
def help : String :=
  "Run an iNES cartridge without a display\n\n" ++
  "Usage: nes-cli [OPTIONS] --rom <ROM>\n\n" ++
  "Options:\n" ++
  "  -r, --rom <ROM>                Path to the iNES ROM file\n" ++
  "  -f, --frames <FRAMES>          Number of frames to run [default: 60]\n" ++
  "      --pace                     Run at NTSC speed instead of as fast as possible\n" ++
  "      --start-pc <START_PC>      Start executing here instead of at the reset vector " ++
  "(hex, e.g. C000)\n" ++
  "  -c, --dump-cpu                 Dump CPU state after execution\n" ++
  "  -p, --dump-ppu                 Dump PPU state after execution\n" ++
  "  -s, --screenshot <SCREENSHOT>  Write the last frame as a binary PPM image\n" ++
  "  -h, --help                     Print help\n"

end Options

end Famicom.Headless

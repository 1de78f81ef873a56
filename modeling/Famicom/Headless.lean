import Famicom.CommandLine
import Famicom.Console
import Famicom.Headless.Options
import Famicom.Storage.Disk

/-!
# The headless runner

Runs a cartridge for some frames without showing them and reports what became of it.

* `plan` reads the command line, `play` runs the cartridge and `finish` closes the report; what is
  read and written in between is left to the caller.
* `run` does all of it on a disk.
-/

namespace Famicom.Headless

open Text CommandLine Storage

/-- The options on a command line, or the outcome if there is nothing to run. -/
def plan (words : List String) : Except Outcome Options :=
  match Options.grammar.parse words with
  | .ok (.settings s) => .ok (.ofSettings s)
  | .ok .help => .error (.ofHelp Options.help)
  | .error f => .error (.ofFault f)

/-- The lines of a text. -/
def lines (l : List String) : String := String.join (l.map (· ++ "\n"))

def truth (b : Bool) : String := if b then "true" else "false"

def cartridgeReport (c : Cartridge) : String :=
  lines ["Loaded cartridge:",
    "  PRG ROM: " ++ toString c.program.size ++ " bytes",
    "  CHR ROM: " ++ toString c.tiles.size ++ " bytes",
    "  Mirroring: " ++ c.mirroring.name] ++
  match c.header with
  | none => ""
  | some h =>
    lines ["  Mapper: " ++ toString h.mapper.toNat, "  Battery RAM: " ++ truth h.hasBattery]

variable {S : Type}

def processorReport (c : Console S) : String :=
  let core := c.machine.core
  let r := core.registers
  lines ["", "CPU State:",
    "  A:    $" ++ Hexadecimal.byte r.a,
    "  X:    $" ++ Hexadecimal.byte r.x,
    "  Y:    $" ++ Hexadecimal.byte r.y,
    "  PC:   $" ++ Hexadecimal.word r.pc,
    "  SP:   $" ++ Hexadecimal.byte r.sp,
    "  P:    $" ++ Hexadecimal.byte r.status.toByte ++ " (" ++ r.status.describe ++ ")",
    "  Cycles: " ++ toString core.totalCycles,
    "  Halted: " ++ truth core.halted]

def pictureReport (c : Console S) : String :=
  let u := c.picture
  lines ["", "PPU State:",
    "  Scanline: " ++ toString u.scanline,
    "  Dot: " ++ toString u.dot,
    "  VBLANK: " ++ truth u.inBlank,
    "  PPUCTRL: $" ++ Hexadecimal.byte u.control.bits,
    "  PPUMASK: $" ++ Hexadecimal.byte u.mask.bits,
    "  VRAM address: $" ++ Hexadecimal.word u.address.toUInt16,
    "  Scroll: (" ++ toString u.scrollX.toNat ++ ", " ++ toString u.scrollY.toNat ++ ")"]

/-- A frame as the content of a portable pixmap file. -/
def pixmap (f : Picture.Frame) : ByteArray :=
  (lines ["P6", toString Picture.screenWidth ++ " " ++ toString Picture.screenHeight, "255"]).toUTF8
    ++ f.toRgb

/-- What running the cartridge gave: the output, the reason if the run ended early, the last frame
with the path of the screenshot, and the nanoseconds by which a paced run has to be slowed down. -/
structure Play where
  output : String
  failure : Option String
  screenshot : Option (String × ByteArray)
  delay : Nat

/-- Runs the cartridge in an image file, given its content or why it cannot be read. -/
def play (o : Options) (content : Except String ByteArray) : Play :=
  let nothing (reason : String) : Play :=
    { output := "", failure := some reason, screenshot := none, delay := 0 }
  match content with
  | .error reason => nothing ("Failed to read " ++ o.image ++ ": " ++ reason)
  | .ok data =>
    match Cartridge.load data with
    | .error d => nothing d.message
    | .ok cartridge =>
      let fresh := Console.headless cartridge { Console.Settings.standard with paced := o.paced }
      let started := match o.start with
        | none => fresh
        | some pc => fresh.updateRegisters fun r => { r with pc }
      let r := started.runFrames o.frames
      let output := cartridgeReport cartridge ++
        lines ["", "Running " ++ toString o.frames ++ " frames...",
          "Completed " ++ toString r.2.frameCount ++ " frames."] ++
        (if o.showsProcessor then processorReport r.2 else "") ++
        (if o.showsPicture then pictureReport r.2 else "")
      match r.1 with
      | .error f =>
        { output, failure := some f.message, screenshot := none, delay := r.2.clock.slept }
      | .ok _ =>
        { output
          failure := none
          screenshot := o.screenshot.map fun path => (path, pixmap r.2.picture.frame)
          delay := r.2.clock.slept }

/-- The outcome of a run, given whether the screenshot was written or why it could not be. -/
def finish (p : Play) (written : Except String Unit) : Outcome :=
  match p.failure, p.screenshot, written with
  | some reason, _, _ | none, some _, .error reason => .failed p.output ("Error: " ++ reason)
  | none, some (path, _), .ok _ =>
    { code := 0, output := p.output ++ lines ["Wrote " ++ path], complaint := none }
  | none, none, _ => { code := 0, output := p.output, complaint := none }

/-- Runs a command line on a disk. -/
def run (d : Disk) (words : List String) : Outcome × Disk :=
  match plan words with
  | .error outcome => (outcome, d)
  | .ok o =>
    let p := play o ((d.read o.image).mapError Refusal.message)
    match p.screenshot with
    | none => (finish p (.ok ()), d)
    | some (path, content) =>
      match d.write path content with
      | .ok d => (finish p (.ok ()), d)
      | .error r => (finish p (.error r.message), d)

end Famicom.Headless

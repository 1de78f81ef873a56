import Famicom.Cartridge.Header
import Famicom.Text.Numeral

/-!
# The journal

Parts of the console report what happens to them as events. A journal keeps the events up to a
level of detail, in order; without a limit it keeps none.
-/

namespace Famicom

open Text

/-- How important an event is. -/
inductive Level where
  | error
  | warn
  | info
  | debug
  | trace
  deriving DecidableEq, Repr

/-- Position of the level, from the gravest on. -/
def Level.rank : Level → Nat
  | .error => 0
  | .warn => 1
  | .info => 2
  | .debug => 3
  | .trace => 4

def Level.name : Level → String
  | .error => "ERROR"
  | .warn => "WARN"
  | .info => "INFO"
  | .debug => "DEBUG"
  | .trace => "TRACE"

/-- What can happen. A sprite transfer copies a page that begins at its source, vertical blank
begins for the `frame`-th time, a schedule is given up when it is `lag` nanoseconds behind, and the
sizes of an image are in bytes. -/
inductive Event where
  | processorReset (pc : UInt16)
  | processorHalted (pc : UInt16)
  | processorResumed (pc : UInt16)
  | nonMaskableInterrupt (pc : UInt16)
  | interruptRequest (pc : UInt16)
  | spriteTransfer (source : UInt16)
  | romWriteIgnored (address : UInt16) (value : UInt8)
  | verticalBlank (frame : Nat)
  | consoleReset (pc : UInt16)
  | loopStarted
  | loopStopped (pc : UInt16)
  | scheduleRestarted (lag : Nat)
  | imageRead (program tiles : Nat) (mirroring : Mirroring) (trainer : Bool)
  | shelfOpened (directory : String) (entries : Nat)
  | entryStored (name : String) (id : Nat)
  | entryRemoved (id : Nat) (name : String)
  deriving DecidableEq, Repr

namespace Event

def level : Event → Level
  | .romWriteIgnored .. => .warn
  | .consoleReset .. | .loopStarted | .loopStopped .. | .shelfOpened .. => .info
  | .spriteTransfer .. | .verticalBlank .. => .trace
  | _ => .debug

def text : Event → String
  | .processorReset pc => "CPU reset, PC=$" ++ Hexadecimal.word pc
  | .processorHalted pc => "CPU halted at PC=$" ++ Hexadecimal.word pc
  | .processorResumed pc => "CPU resumed at PC=$" ++ Hexadecimal.word pc
  | .nonMaskableInterrupt pc => "NMI at PC=$" ++ Hexadecimal.word pc
  | .interruptRequest pc => "IRQ at PC=$" ++ Hexadecimal.word pc
  | .spriteTransfer source => "OAM DMA from $" ++ Hexadecimal.word source
  | .romWriteIgnored address value =>
    "Ignoring write of 0x" ++ Hexadecimal.byte value ++ " to PRG ROM at $" ++
      Hexadecimal.word address
  | .verticalBlank frame => "VBlank start, frame " ++ toString frame
  | .consoleReset pc => "System reset, PC=$" ++ Hexadecimal.word pc
  | .loopStarted => "Run loop started"
  | .loopStopped pc => "Run loop stopped at PC=$" ++ Hexadecimal.word pc
  | .scheduleRestarted lag =>
    "Pacer fell " ++ Duration.ofNanoseconds lag ++ " behind, restarting schedule"
  | .imageRead program tiles mirroring trainer =>
    "Loaded iNES image: " ++ toString (program / 1024) ++ "KB PRG, " ++
      toString (tiles / 1024) ++ "KB CHR, " ++ mirroring.name ++ " mirroring, trainer: " ++
      (if trainer then "true" else "false")
  | .shelfOpened directory entries =>
    "Opened ROM library at " ++ directory ++ " (" ++ toString entries ++ " entries)"
  | .entryStored name id => "Stored '" ++ name ++ "' as library entry " ++ toString id
  | .entryRemoved id name => "Removed library entry " ++ toString id ++ " ('" ++ name ++ "')"

end Event

/-- The events noted so far, oldest first, up to the most detailed level that is kept. Without a
limit nothing is kept. -/
structure Journal where
  limit : Option Level
  events : Array Event
  deriving Repr

namespace Journal

/-- A journal that keeps nothing. -/
def quiet : Journal := ⟨none, #[]⟩

instance : Inhabited Journal := ⟨quiet⟩

/-- An empty journal with the given limit. -/
def upTo (limit : Option Level) : Journal := ⟨limit, #[]⟩

def keeps (j : Journal) (e : Event) : Bool :=
  match j.limit with
  | none => false
  | some l => e.level.rank ≤ l.rank

def note (j : Journal) (e : Event) : Journal :=
  if j.keeps e then { j with events := j.events.push e } else j

def noteAll (j : Journal) (es : List Event) : Journal := es.foldl note j

end Journal

end Famicom

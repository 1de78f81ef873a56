import Famicom.Bus
import Famicom.Console.Pacer
import Famicom.Processor.Execution

/-!
# The console

Processor, bus and picture unit in step: every cycle of the processor is three dots of the picture
unit, and an interrupt raised by the picture unit is taken before the next instruction. A finished
frame goes to a sink.

Whoever steers a running console does so through requests: to stop, to reset, and to halt or resume.
Each kind has a cell of its own. The order between different kinds is not kept, and the count of
halt requests wraps after thirty-two bits.

* `step` executes one instruction, `runFrames` and `runToBlank` many.
-/

namespace Famicom

open Picture Processor

namespace Console

/-! ## The run control -/

/-- What can be asked of a running console. A toggle halts a running processor and resumes a halted
one. -/
inductive Request where
  | stop
  | reset
  | toggleHalt
  | press (button : Button)
  | release (button : Button)
  deriving DecidableEq, Repr

/-- The pending requests. -/
structure Control where
  stop : Bool
  reset : Bool
  haltToggles : UInt32
  deriving DecidableEq, Repr

namespace Control

/-- Nothing is asked. -/
def idle : Control := { stop := false, reset := false, haltToggles := 0 }

instance : Inhabited Control := ⟨idle⟩

def requestStop (c : Control) : Control := { c with stop := true }

def requestReset (c : Control) : Control := { c with reset := true }

def requestHaltToggle (c : Control) : Control := { c with haltToggles := c.haltToggles + 1 }

/-- Takes the request to reset, if there is one. -/
def takeReset (c : Control) : Bool × Control := (c.reset, { c with reset := false })

/-- Takes all requests to halt or resume. -/
def takeHaltToggles (c : Control) : UInt32 × Control :=
  (c.haltToggles, { c with haltToggles := 0 })

end Control

/-! ## Sinks, settings and failures -/

/-- Where finished frames go. A sink may answer a frame with requests. -/
class FrameSink (S : Type) where
  present : S → Frame → S × List Request

/-- A sink that forgets every frame. -/
structure NoSink where
  deriving DecidableEq, Repr

instance : Inhabited NoSink := ⟨⟨⟩⟩

instance : FrameSink NoSink where
  present s _ := (s, [])

/-- Whether emulated time follows the clock, at how many cycles per second it then should run, and
how many milliseconds lie between two looks at the run control while the processor is halted. -/
structure Settings where
  paced : Bool
  rate : Nat
  pollInterval : Nat
  deriving DecidableEq, Repr

/-- Cycles per second of the hardware. -/
def hardwareRate : Nat := 1789773

/-- Cycles in a frame, rounded up. -/
def cyclesPerFrame : Nat := 29781

/-- Dots of the picture unit per cycle of the processor. -/
def dotsPerCycle : Nat := 3

def Settings.standard : Settings := { paced := false, rate := hardwareRate, pollInterval := 16 }

instance : Inhabited Settings := ⟨.standard⟩

/-- Why a console could not be built or a run did not end as planned. A run of a halted processor
would never end; and vertical blank may not begin within so many cycles. -/
inductive Failure where
  | fault (fault : Fault)
  | cartridge (defect : Cartridge.Defect)
  | halted
  | blankTimeout (cycles : Nat)
  deriving DecidableEq, Repr

def Failure.message : Failure → String
  | .fault f => "CPU error: " ++ f.message
  | .cartridge d => "Cartridge error: " ++ d.message
  | .halted => "CPU is halted"
  | .blankTimeout cycles =>
    "Timeout waiting for VBLANK after " ++ toString cycles ++ " cycles"

/-- The message of the failure behind this one. -/
def Failure.cause : Failure → Option String
  | .fault f => some f.message
  | .cartridge d => some d.message
  | .halted | .blankTimeout _ => none

end Console

open Console

/-! ## Consoles -/

structure Console (S : Type) where
  machine : Machine Bus
  sink : S
  settings : Settings
  pacer : Option Pacer
  clock : Clock
  control : Console.Control

namespace Console

variable {S : Type}

def bus (c : Console S) : Bus := c.machine.memory

def picture (c : Console S) : PictureUnit := c.machine.memory.picture

def isHalted (c : Console S) : Bool := c.machine.core.halted

def frameCount (c : Console S) : Nat := c.picture.frameCount

def note (c : Console S) (e : Event) : Console S := { c with machine := c.machine.note e }

/-- Makes a request. -/
def request (c : Console S) : Request → Console S
  | .stop => { c with control := c.control.requestStop }
  | .reset => { c with control := c.control.requestReset }
  | .toggleHalt => { c with control := c.control.requestHaltToggle }
  | .press button =>
    { c with machine := { c.machine with memory := c.machine.memory.mapJoypad (·.press button) } }
  | .release button =>
    { c with machine := { c.machine with memory := c.machine.memory.mapJoypad (·.release button) } }

def requestAll (c : Console S) (rs : List Request) : Console S := rs.foldl request c

/-- Starts a new schedule, if the console is paced. -/
def restartPacer (c : Console S) : Console S :=
  match c.pacer with
  | none => c
  | some p =>
    let t := c.clock.read
    { c with pacer := some (p.restart t.1), clock := t.2 }

/-- Follows the schedule, if the console is paced. -/
def throttle (c : Console S) (cycles : Nat) : Console S :=
  match c.pacer with
  | none => c
  | some p =>
    let r := p.throttle c.clock cycles
    let paced := { c with pacer := some r.2.1, clock := r.2.2 }
    match r.1 with
    | .giveUp lag => paced.note (.scheduleRestarted lag)
    | _ => paced

/-- Resets the processor; memory and picture unit stay as they are. -/
def reset (c : Console S) : Console S :=
  let restarted := { c with machine := c.machine.reset }.restartPacer
  restarted.note (.consoleReset restarted.machine.registers.pc)

/-- A console with a cartridge in it, reset. -/
def ofCartridge (cartridge : Cartridge) (joypad : Joypad) (sink : S) (settings : Settings)
    (clock : Clock) (journal : Journal) : Console S :=
  let started := clock.read
  let fresh : Console S :=
    { machine := { core := .initial, memory := .ofCartridge cartridge joypad journal }
      sink
      settings
      pacer := if settings.paced then some (.start settings.rate started.1) else none
      clock := if settings.paced then started.2 else clock
      control := .idle }
  fresh.reset

/-- A console with the cartridge of an image file in it. -/
def ofImage (data : ByteArray) (joypad : Joypad) (sink : S) (settings : Settings)
    (clock : Clock) (journal : Journal) : Except Failure (Console S) :=
  match Cartridge.load data with
  | .ok cartridge =>
    .ok (ofCartridge cartridge joypad sink settings clock
      (journal.noteAll (Cartridge.loadEvents data)))
  | .error d => .error (.cartridge d)

/-- A console that shows its frames to nobody. -/
def headless (cartridge : Cartridge) (settings : Settings) : Console NoSink :=
  ofCartridge cartridge .released ⟨⟩ settings default .quiet

variable [FrameSink S]

/-- Hands a frame to the sink and passes its requests on. -/
def present (c : Console S) (frame : Frame) : Console S :=
  let r := FrameSink.present c.sink frame
  { c with sink := r.1 }.requestAll r.2

/-- One round of catching up: the picture unit advances by the pending cycles, a finished frame is
presented and an interrupt is taken. Returns the cycles that are pending now. -/
def catchUpRound (c : Console S) (pending : Nat) : Nat × Console S :=
  let r := c.machine.memory.advance (pending * dotsPerCycle)
  let advanced := { c with machine := { c.machine with memory := r.2 } }
  let shown := if r.1.frameReady then advanced.present advanced.picture.frame else advanced
  if r.1.nmi then
    let i := shown.machine.nmi
    (i.1, { shown with machine := i.2 })
  else (0, shown)

/-- At most `rounds` rounds of catching up. Returns the cycles caught up with. -/
def catchUpRounds (c : Console S) (pending : Nat) : (rounds : Nat) → Nat × Console S
  | 0 => (0, c)
  | rounds + 1 =>
    if pending = 0 then (0, c)
    else
      let r := c.catchUpRound pending
      let rest := r.2.catchUpRounds r.1 rounds
      (pending + rest.1, rest.2)

/-- Lets the picture unit catch up with the processor and returns the cycles that took. The second
round is the entry of an interrupt raised in the first; it is far too short to reach the next
vertical blank, so there is no third. -/
def catchUp (c : Console S) (cycles : Nat) : Nat × Console S :=
  let r := c.catchUpRounds cycles 2
  (r.1, r.2.throttle r.1)

/-- Executes one instruction and returns the cycles spent, an interrupt that it led to included. A
fault stops the console before the picture unit advances. -/
def step (c : Console S) : Except Fault Nat × Console S :=
  let r := c.machine.step
  let executed := { c with machine := r.2 }
  match r.1 with
  | .ok cycles =>
    let t := executed.catchUp cycles
    (.ok t.1, t.2)
  | .error e => (.error e, executed)

/-- Raises a non-maskable interrupt. -/
def nmi (c : Console S) : Nat × Console S :=
  let r := c.machine.nmi
  { c with machine := r.2 }.catchUp r.1

/-- Raises an interrupt request; it costs nothing if interrupts are disabled. -/
def irq (c : Console S) : Nat × Console S :=
  let r := c.machine.irq
  { c with machine := r.2 }.catchUp r.1

omit [FrameSink S] in
def toggleHalt (c : Console S) : Console S := { c with machine := c.machine.toggleHalt }

omit [FrameSink S] in
/-- A read as the processor does it. -/
def read (c : Console S) (address : UInt16) : UInt8 × Console S :=
  let r := c.machine.read address
  (r.1, { c with machine := r.2 })

omit [FrameSink S] in
/-- A write as the processor does it. -/
def write (c : Console S) (address : UInt16) (v : UInt8) : Console S :=
  { c with machine := c.machine.write address v }

omit [FrameSink S] in
/-- Changes the registers of the processor from outside. -/
def updateRegisters (c : Console S) (f : Registers → Registers) : Console S :=
  { c with machine := c.machine.update f }

/-- At most `fuel` steps, until the frame count reaches `target`. -/
def runToFrame (c : Console S) (target : Nat) : (fuel : Nat) → Except Failure Unit × Console S
  | 0 => (.ok (), c)
  | fuel + 1 =>
    if target ≤ c.frameCount then (.ok (), c)
    else if c.isHalted then (.error .halted, c)
    else
      let r := c.step
      match r.1 with
      | .ok _ => r.2.runToFrame target fuel
      | .error e => (.error (.fault e), r.2)

/-- Dots in a frame. -/
def dotsPerFrame : Nat := dotsPerScanline * scanlinesPerFrame

/-- Runs until `n` more frames were finished; the frame to stop at is a number of sixty-four bits.
Every step takes a dot at least, so there are no more steps than dots in one frame more than
that. -/
def runFrames (c : Console S) (n : Nat) : Except Failure Unit × Console S :=
  c.runToFrame ((c.frameCount + n) % UInt64.size) ((n + 1) * dotsPerFrame)

/-- At most `fuel` steps, until a frame is finished or `limit` cycles were spent. -/
def runForBlank (c : Console S) (start spent limit : Nat) :
    (fuel : Nat) → Except Failure Unit × Console S
  | 0 => (.error (.blankTimeout spent), c)
  | fuel + 1 =>
    if limit ≤ spent then (.error (.blankTimeout spent), c)
    else if c.isHalted then (.error .halted, c)
    else
      let r := c.step
      match r.1 with
      | .ok cycles =>
        if start < r.2.frameCount then (.ok (), r.2)
        else r.2.runForBlank start (spent + cycles) limit fuel
      | .error e => (.error (.fault e), r.2)

/-- Runs until vertical blank begins, for two frames at most. -/
def runToBlank (c : Console S) : Except Failure Unit × Console S :=
  c.runForBlank c.frameCount 0 (2 * cyclesPerFrame) (2 * cyclesPerFrame)

end Console

end Famicom

import Famicom.Bus
import Famicom.Proofs.Processor.Mapping

/-!
# Histories of the bus

All that ever happens on the bus is a sequence of acts: accesses, sprite transfers, the advance of the
picture unit and what is done to the joypad. A processor contributes the accesses that it makes, so that
the state of the bus is a function of its history whatever program runs.

* `Annals`: the bus, known by its history alone. The processor cannot tell it from the bus.
* `turnAll_along`: a run on the bus is the run on its annals, which say what the run did to the bus.
-/

namespace Famicom

open Processor

/-- What is done to the joypad from outside. -/
inductive Touch where
  | press (button : Button)
  | release (button : Button)
  | set (button : Button) (down : Bool)
  deriving DecidableEq, Repr

namespace Touch

def button : Touch → Button
  | .press button | .release button | .set button _ => button

/-- Whether the button is down after it. -/
def down : Touch → Bool
  | .press _ => true
  | .release _ => false
  | .set _ down => down

end Touch

def Joypad.touch (j : Joypad) : Touch → Joypad
  | .press button => j.press button
  | .release button => j.release button
  | .set button down => j.set button down

namespace Bus

/-- One thing that happens on the bus. Dots pass in the picture unit when it advances. -/
inductive Act where
  | read (address : UInt16)
  | write (address : UInt16) (v : UInt8)
  | transferSprites (number : UInt8)
  | advance (dots : Nat)
  | touch (t : Touch)
  | note (e : Event)

def act (b : Bus) : Act → Bus
  | .read address => (b.read address).2
  | .write address v => b.write address v
  | .transferSprites number => b.transferSprites number
  | .advance dots => (b.advance dots).2
  | .touch t => b.mapJoypad (·.touch t)
  | .note e => b.note e

def actAll (b : Bus) (as : List Act) : Bus := as.foldl act b

theorem actAll_cons (b : Bus) (x : Act) (as : List Act) :
    b.actAll (x :: as) = (b.act x).actAll as := rfl

theorem actAll_append (b : Bus) (as bs : List Act) :
    b.actAll (as ++ bs) = (b.actAll as).actAll bs := List.foldl_append

/-- What the latest act of a kind has set is set after any history. -/
theorem latest_actAll {α : Type} (value : Bus → α) (sets : Act → Option α)
    (step : ∀ b x, value (b.act x) = (sets x).getD (value b)) (b : Bus) (past : List Act) :
    value (b.actAll past) = (past.filterMap sets).getLastD (value b) := by
  induction past generalizing b with
  | nil => rfl
  | cons x rest ih =>
    rw [actAll_cons, ih, step, List.filterMap_cons]
    cases sets x with
    | none => rfl
    | some v => rw [List.getLastD_cons, Option.getD_some]

/-! ## Annals -/

/-- What has happened on the bus `b` since. -/
structure Annals (b : Bus) where
  past : List Act

namespace Annals

variable {b : Bus}

def bus (annals : Annals b) : Bus := b.actAll annals.past

def act (annals : Annals b) (x : Act) : Annals b := ⟨annals.past ++ [x]⟩

theorem bus_act (annals : Annals b) (x : Act) : (annals.act x).bus = annals.bus.act x :=
  b.actAll_append annals.past [x]

instance : AddressSpace (Annals b) where
  read h address := ((h.bus.read address).1, h.act (.read address))
  write h address v := h.act (.write address v)
  note h e := h.act (.note e)

instance : Transparent (bus (b := b)) where
  read h address := Prod.ext rfl (h.bus_act (.read address)).symm
  write h address v := (h.bus_act (.write address v)).symm
  note h e := (h.bus_act (.note e)).symm

end Annals

/-! ## Runs of a processor -/

/-- What can happen while a processor runs: a step, which may fail, an interrupt or a reset, a
change of the registers from outside, or an act on the bus that is not due to the processor. -/
inductive Turn where
  | step
  | nmi
  | irq
  | reset
  | toggleHalt
  | update (f : Registers → Registers)
  | act (x : Act)

section Turns

variable {M N : Type} [AddressSpace M] [AddressSpace N]

def turn (act : M → Act → M) (s : Machine M) : Turn → Machine M
  | .step => s.step.2
  | .nmi => s.nmi.2
  | .irq => s.irq.2
  | .reset => s.reset
  | .toggleHalt => s.toggleHalt
  | .update f => s.update f
  | .act x => { s with memory := act s.memory x }

def turnAll (act : M → Act → M) (s : Machine M) (ts : List Turn) : Machine M := ts.foldl (turn act) s

variable {f : M → N} [Transparent f] {actM : M → Act → M} {actN : N → Act → N}

theorem turn_along (acts : ∀ m x, actN (f m) x = f (actM m x)) (s : Machine M) (t : Turn) :
    turn actN (s.along f) t = (turn actM s t).along f := by
  cases t with
  | step => exact congrArg Prod.snd (s.step_along f)
  | nmi => exact congrArg Prod.snd (s.nmi_along f)
  | irq => exact congrArg Prod.snd (s.irq_along f)
  | reset => exact s.reset_along f
  | toggleHalt => exact s.toggleHalt_along f
  | update g => rfl
  | act x => exact congrArg (Machine.mk s.core) (acts s.memory x)

theorem turnAll_along (acts : ∀ m x, actN (f m) x = f (actM m x)) (s : Machine M)
    (ts : List Turn) : turnAll actN (s.along f) ts = (turnAll actM s ts).along f := by
  induction ts generalizing s with
  | nil => rfl
  | cons t rest ih =>
    change turnAll actN (turn actN (s.along f) t) rest = _
    rw [turn_along acts]
    exact ih (turn actM s t)

end Turns

/-- The history of the bus in a run of a processor. -/
def history (b : Bus) (core : Core) (ts : List Turn) : List Act :=
  (turnAll Annals.act (⟨core, ⟨[]⟩⟩ : Machine (Annals b)) ts).memory.past

/-- **What a run makes of the bus is what its history makes of it.** -/
theorem memory_turnAll (b : Bus) (core : Core) (ts : List Turn) :
    (turnAll act ⟨core, b⟩ ts).memory = b.actAll (b.history core ts) := by
  have run := turnAll_along (f := Annals.bus (b := b)) (fun h x => (h.bus_act x).symm)
    ⟨core, ⟨[]⟩⟩ ts
  exact congrArg Machine.memory run

end Bus

end Famicom

import Famicom.Proofs.Bus.Storage
import Famicom.Proofs.Console.Turns

/-!
# A reset forgets

The processor starts over from the vector in the program, and nothing can write to the program. So
whatever was done with a console, a reset leaves its processor as it is in a new console; everything
else it leaves alone.

* `Bus.reset_eq`: reading the vector does nothing else to the bus.
* `machine_reset`: while the bus holds the program of a cartridge, a reset starts that cartridge.
* `startsOver_reset`: a reset after any operations.
-/

namespace Famicom

open Processor

/-- The registers with which a cartridge starts. -/
def Cartridge.entry (cartridge : Cartridge) : Registers :=
  { Registers.initial with
    pc := word (cartridge.shownAt resetVector) (cartridge.shownAt (resetVector + 1)) }

namespace Bus

/-- The bus shows the program of the cartridge. -/
def HoldsProgram (b : Bus) (cartridge : Cartridge) : Prop :=
  ∀ a, Region.of a = .program → b.peek a = cartridge.shownAt a

variable {b : Bus} {cartridge : Cartridge}

theorem holdsProgram_ofCartridge (cartridge : Cartridge) (joypad : Joypad) (journal : Journal) :
    (ofCartridge cartridge joypad journal).HoldsProgram cartridge := by
  intro a program
  rw [peek_ofCartridge, if_pos program]

/-- No turns of a machine change the program. -/
theorem HoldsProgram.leads {s t : Machine Bus} (held : s.memory.HoldsProgram cartridge)
    (leads : Leads s t) : t.memory.HoldsProgram cartridge := by
  obtain ⟨ts, rfl⟩ := leads
  intro a program
  have history : (turnAll act s ts).memory = s.memory.actAll _ := memory_turnAll s.memory s.core ts
  rw [history, peek_actAll_of_not_memory _ (by simp [program])]
  exact held a program

/-- No device answers in the vector of the reset. -/
theorem readWord_resetVector (s : Machine Bus) :
    s.readWord resetVector =
      (word (s.memory.peek resetVector) (s.memory.peek (resetVector + 1)), s) := by
  have low : s.memory.read resetVector = (s.memory.peek resetVector, s.memory) :=
    s.memory.read_of_storage (by decide)
  have high : s.memory.read (resetVector + 1) = (s.memory.peek (resetVector + 1), s.memory) :=
    s.memory.read_of_storage (by decide)
  have first : s.read resetVector = (s.memory.peek resetVector, s) :=
    congrArg (fun r : UInt8 × Bus => (r.1, ({ s with memory := r.2 } : Machine Bus))) low
  have second : s.read (resetVector + 1) = (s.memory.peek (resetVector + 1), s) :=
    congrArg (fun r : UInt8 × Bus => (r.1, ({ s with memory := r.2 } : Machine Bus))) high
  simp only [Machine.readWord, Machine.readPair, first, second]

/-- A reset starts the cartridge and leaves the bus as it was, but for the journal. -/
theorem reset_eq {s : Machine Bus} (held : s.memory.HoldsProgram cartridge) :
    s.reset =
      { core := { s.core with registers := cartridge.entry, totalCycles := 0, halted := false }
        memory := s.memory.note (.processorReset cartridge.entry.pc) } := by
  have vector : word (s.memory.peek resetVector) (s.memory.peek (resetVector + 1)) =
      cartridge.entry.pc := by
    rw [held resetVector (by decide), held (resetVector + 1) (by decide)]
    rfl
  unfold Machine.reset
  rw [readWord_resetVector]
  dsimp only [Machine.update, Machine.setPC, Machine.note]
  rw [vector]
  rfl

end Bus

namespace Console

variable {S : Type}

/-- While the bus holds the program of a cartridge, a reset starts the cartridge and changes nothing
else of the machine but the journal. -/
theorem machine_reset {c : Console S} {cartridge : Cartridge}
    (held : c.bus.HoldsProgram cartridge) :
    ∃ journal, c.reset.machine =
      { core :=
          { c.machine.core with registers := cartridge.entry, totalCycles := 0, halted := false }
        memory := { c.bus with journal } } := by
  obtain ⟨pacer, clock, reset⟩ := c.reset_eq
  rw [reset, note, Bus.reset_eq (s := c.machine) held]
  exact ⟨_, rfl⟩

/-- A new console is one that was built and reset. -/
theorem exists_ofCartridge_eq_reset (cartridge : Cartridge) (joypad : Joypad) (sink : S)
    (settings : Settings) (clock : Clock) (journal : Journal) :
    ∃ built : Console S, built.bus.HoldsProgram cartridge ∧
      ofCartridge cartridge joypad sink settings clock journal = built.reset := by
  refine ⟨_, ?_, rfl⟩
  exact Bus.holdsProgram_ofCartridge cartridge joypad journal

/-- The console `after` is the console `before` with its processor started over as in `fresh`. -/
structure StartsOver {T : Type} (before after : Console S) (fresh : Console T) : Prop where
  registers : after.machine.registers = fresh.machine.registers
  totalCycles : after.machine.core.totalCycles = fresh.machine.core.totalCycles
  halted : after.isHalted = fresh.isHalted
  storage : after.bus.storage = before.bus.storage
  picture : after.picture = before.picture
  connector : after.bus.connector = before.bus.connector

/-- **A reset does not depend on the past.** Whatever was done with a console, a reset leaves its
processor as in any new console with the same cartridge, and changes nothing in memory, in the picture
unit or at the connector. -/
theorem startsOver_reset {T : Type} [FrameSink S] (cartridge : Cartridge)
    (joypad joypad' : Joypad) (sink : S) (sink' : T) (settings settings' : Settings)
    (clock clock' : Clock) (journal journal' : Journal) (os : List Operation) :
    let c : Console S :=
      (ofCartridge cartridge joypad sink settings clock journal).operateAll os
    let fresh : Console T := ofCartridge cartridge joypad' sink' settings' clock' journal'
    StartsOver c c.reset fresh := by
  intro c fresh
  obtain ⟨first, held, start⟩ :=
    exists_ofCartridge_eq_reset cartridge joypad sink settings clock journal
  obtain ⟨second, held', start'⟩ :=
    exists_ofCartridge_eq_reset cartridge joypad' sink' settings' clock' journal'
  have run : Bus.Leads first.machine c.machine := by
    refine first.leads_reset.trans ?_
    rw [← start]
    exact leads_operateAll _ os
  obtain ⟨journal₁, reset⟩ := machine_reset (c := c) (held.leads run)
  obtain ⟨journal₂, reset'⟩ := machine_reset held'
  have machine : fresh.machine = _ := (congrArg Console.machine start').trans reset'
  constructor
  case registers => rw [reset, machine]; rfl
  case totalCycles => rw [reset, machine]
  case halted => rw [isHalted, isHalted, reset, machine]
  case storage | connector => rw [bus, reset]
  case picture => rw [picture, reset]; rfl

end Console

end Famicom

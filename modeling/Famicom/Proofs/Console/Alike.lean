import Famicom.Proofs.Console.Blank
import Famicom.Proofs.Processor.Mapping

/-!
# Consoles that are alike

Two consoles are alike if their processors, memories, picture units and joypads are the same and
their sinks are related. Their journals, clocks and pending requests may differ: nothing that an
instruction does depends on them.

* `Bus.silenced`: a bus without what its journal keeps, which no access depends on.
* `Follows`: sinks that stay related and treat the joypad alike.
* `Alike.step`: consoles that are alike take the same step and are alike after it.
-/

namespace Famicom

open Picture Processor

theorem Journal.noteAll_quiet (es : List Event) : Journal.quiet.noteAll es = .quiet := by
  induction es with
  | nil => rfl
  | cons e es ih => exact ih

namespace Bus

/-! ## A bus without its journal -/

/-- The bus with a journal that keeps nothing. -/
def silenced (b : Bus) : Bus := { b with journal := .quiet }

theorem read_silenced (b : Bus) (address : UInt16) :
    b.silenced.read address = ((b.read address).1, (b.read address).2.silenced) := by
  have folded : b.silenced.fold address = b.fold address := rfl
  unfold read
  rw [folded]
  dsimp only
  split
  · rfl
  · split <;> rfl

theorem write_silenced (b : Bus) (address : UInt16) (v : UInt8) :
    b.silenced.write address v = (b.write address v).silenced := by
  have folded : b.silenced.fold address = b.fold address := rfl
  unfold write
  rw [folded]
  dsimp only
  split
  · rfl
  · split
    · rfl
    · split
      · rfl
      · split <;> rfl

instance : Transparent silenced := ⟨read_silenced, write_silenced, fun _ _ => rfl⟩

theorem advance_silenced (b : Bus) (dots : Nat) :
    b.silenced.advance dots = ((b.advance dots).1, (b.advance dots).2.silenced) := by
  unfold advance silenced
  simp only [Journal.noteAll_quiet]

end Bus

namespace Console

theorem handleAll_append (rs rs' : List Request) (j : Joypad) :
    handleAll (rs ++ rs') j = handleAll rs' (handleAll rs j) := List.foldl_append

section

variable {S : Type}

/-! ## Alike -/

/-- The processor and all that it is wired to, but for the journal. -/
def essence (c : Console S) : Machine Bus := c.machine.along Bus.silenced

theorem essence_note (c : Console S) (e : Event) : (c.note e).essence = c.essence := rfl

theorem essence_throttle (c : Console S) (cycles : Nat) :
    (c.throttle cycles).essence = c.essence := by
  obtain ⟨pacer, clock, same | ⟨lag, noted⟩⟩ := c.throttle_cases cycles
  · rw [same]
    rfl
  · rw [noted]
    rfl

theorem essence_present [FrameSink S] (c : Console S) (frame : Frame) :
    (c.present frame).essence =
      c.essence.along (·.mapJoypad (handleAll (FrameSink.present c.sink frame).2)) := by
  rw [present_eq]
  rfl

end

/-- Sinks that stay related when they are shown the same frame, and do the same to the joypad then.
-/
class Follows {S T : Type} [FrameSink S] [FrameSink T] (ρ : S → T → Prop) : Prop where
  sink : ∀ s t frame, ρ s t → ρ (FrameSink.present s frame).1 (FrameSink.present t frame).1
  joypad : ∀ s t frame, ρ s t →
    handleAll (FrameSink.present s frame).2 = handleAll (FrameSink.present t frame).2

/-- Two consoles are the same but for their journals, settings, pacers, clocks and pending requests,
and their sinks are related. -/
structure Alike {S T : Type} (ρ : S → T → Prop) (c : Console S) (d : Console T) : Prop where
  essence : c.essence = d.essence
  sink : ρ c.sink d.sink

namespace Alike

variable {S T : Type} {ρ : S → T → Prop} {c : Console S} {d : Console T}

/-- What is seen of a console without its journal is the same. -/
theorem picture (alike : Alike ρ c d) : c.picture = d.picture :=
  congrArg (·.memory.picture) alike.essence

theorem isHalted (alike : Alike ρ c d) : c.isHalted = d.isHalted :=
  congrArg (·.core.halted) alike.essence

theorem frameCount (alike : Alike ρ c d) : c.frameCount = d.frameCount :=
  congrArg PictureUnit.frameCount alike.picture

/-- Letting time pass signals the same on both sides. -/
theorem advance (alike : Alike ρ c d) (dots : Nat) :
    (c.bus.advance dots).1 = (d.bus.advance dots).1 ∧
      (c.bus.advance dots).2.silenced = (d.bus.advance dots).2.silenced := by
  have bus : c.bus.silenced = d.bus.silenced := congrArg Machine.memory alike.essence
  have advanced : c.bus.silenced.advance dots = d.bus.silenced.advance dots := by rw [bus]
  rw [Bus.advance_silenced, Bus.advance_silenced] at advanced
  exact Prod.mk.inj advanced

theorem pass (alike : Alike ρ c d) (cycles : Nat) : Alike ρ (c.pass cycles) (d.pass cycles) := by
  have core : c.essence.core = d.essence.core := congrArg Machine.core alike.essence
  have memory := (alike.advance (cycles * dotsPerCycle)).2
  exact ⟨congrArg₂ Machine.mk core memory, alike.sink⟩

/-- What does not depend on the journal does the same to both machines. -/
theorem machine (alike : Alike ρ c d) (f : Machine Bus → Machine Bus)
    (blind : ∀ s, f (s.along Bus.silenced) = (f s).along Bus.silenced) :
    Alike ρ { c with machine := f c.machine } { d with machine := f d.machine } := by
  have same := congrArg f alike.essence
  unfold Console.essence at same
  rw [blind, blind] at same
  exact ⟨same, alike.sink⟩

theorem nmi (alike : Alike ρ c d) : Alike ρ c.enterNmi d.enterNmi :=
  alike.machine (·.nmi.2) fun s => by simp only [Machine.nmi_along]

/-- The processors execute the same instruction, fault or not. -/
theorem executed (alike : Alike ρ c d) :
    c.machine.step.1 = d.machine.step.1 ∧ Alike ρ c.executed d.executed := by
  have stepped := congrArg (·.step.1) alike.essence
  unfold Console.essence at stepped
  simp only [Machine.step_along] at stepped
  exact ⟨stepped, alike.machine (·.step.2) fun s => congrArg Prod.snd (s.step_along Bus.silenced)⟩

theorem throttle (alike : Alike ρ c d) (cycles : Nat) :
    Alike ρ (c.throttle cycles) (d.throttle cycles) := by
  refine ⟨?_, ?_⟩
  · rw [essence_throttle, essence_throttle]
    exact alike.essence
  · rw [sink_throttle, sink_throttle]
    exact alike.sink

variable [FrameSink S] [FrameSink T] [Follows ρ]

theorem present (alike : Alike ρ c d) (frame : Frame) :
    Alike ρ (c.present frame) (d.present frame) := by
  refine ⟨?_, ?_⟩
  · rw [essence_present, essence_present, alike.essence, Follows.joypad _ _ frame alike.sink]
  · rw [sink_present, sink_present]
    exact Follows.sink _ _ frame alike.sink

theorem elapsed (alike : Alike ρ c d) (pending : Nat) :
    Alike ρ (c.elapsed pending) (d.elapsed pending) := by
  have passed := alike.pass pending
  rw [elapsed_eq, elapsed_eq, alike.picture]
  split
  · rw [passed.picture]
    exact passed.present _
  · exact passed

theorem catchUpRound (alike : Alike ρ c d) (pending : Nat) :
    (c.catchUpRound pending).1 = (d.catchUpRound pending).1 ∧
      Alike ρ (c.catchUpRound pending).2 (d.catchUpRound pending).2 := by
  have elapsed := alike.elapsed pending
  rw [catchUpRound_eq, catchUpRound_eq, (alike.advance _).1]
  split
  · exact ⟨rfl, elapsed.nmi⟩
  · exact ⟨rfl, elapsed⟩

theorem catchUpRounds (alike : Alike ρ c d) (pending rounds : Nat) :
    (c.catchUpRounds pending rounds).1 = (d.catchUpRounds pending rounds).1 ∧
      Alike ρ (c.catchUpRounds pending rounds).2 (d.catchUpRounds pending rounds).2 := by
  induction rounds generalizing c d pending with
  | zero => exact ⟨rfl, alike⟩
  | succ rounds ih =>
    unfold Console.catchUpRounds
    split
    · exact ⟨rfl, alike⟩
    · obtain ⟨next, round⟩ := alike.catchUpRound pending
      obtain ⟨spent, rest⟩ := ih round (c.catchUpRound pending).1
      dsimp only
      rw [← next, spent]
      exact ⟨rfl, rest⟩

theorem catchUp (alike : Alike ρ c d) (cycles : Nat) :
    (c.catchUp cycles).1 = (d.catchUp cycles).1 ∧
      Alike ρ (c.catchUp cycles).2 (d.catchUp cycles).2 := by
  obtain ⟨spent, rounds⟩ := alike.catchUpRounds cycles 2
  unfold Console.catchUp
  dsimp only
  rw [spent]
  exact ⟨rfl, rounds.throttle _⟩

/-- **Consoles that are alike take the same step**, fault or not, and are alike after it. -/
theorem step (alike : Alike ρ c d) : c.step.1 = d.step.1 ∧ Alike ρ c.step.2 d.step.2 := by
  obtain ⟨result, executed⟩ := alike.executed
  unfold Console.step
  dsimp only
  rw [result]
  split
  · rename_i cycles _
    obtain ⟨spent, after⟩ := executed.catchUp cycles
    exact ⟨congrArg Except.ok spent, after⟩
  · exact ⟨rfl, executed⟩

end Alike

end Console

end Famicom

import Famicom.Proofs.Processor.Mapping

/-!
# Recording the accesses of the processor

The accesses of a step are read off a machine whose address space records them. Recording changes
nothing else: what the recorded machine does is what the machine itself does.

* `Machine.stepAccesses` is the list of accesses of a step.
* `Machine.forget_step`: a step of a recorded machine is a step of the machine.
* `Machine.replays_step`: the accesses of a step account for all that it does to the address space.
-/

namespace Famicom.Processor.Machine

variable {M : Type}

/-- The machine with its accesses recorded from now on. -/
def recorded (s : Machine M) : Machine (Recorded M) := ⟨s.core, ⟨s.memory, #[]⟩⟩

/-- The machine without the record of its accesses. -/
def forget (s : Machine (Recorded M)) : Machine M := ⟨s.core, s.memory.inner⟩

/-- The accesses that were recorded. -/
def log (s : Machine (Recorded M)) : List Access := s.memory.accesses.toList

@[simp] theorem log_update (s : Machine (Recorded M)) (f : Registers → Registers) :
    (s.update f).log = s.log := rfl

variable [AddressSpace M]

@[simp] theorem log_read (s : Machine (Recorded M)) (address : UInt16) :
    (s.read address).2.log = s.log ++ [.read address (s.read address).1] := Array.toList_push

@[simp] theorem log_write (s : Machine (Recorded M)) (address : UInt16) (v : UInt8) :
    (s.write address v).log = s.log ++ [.write address v] := Array.toList_push

/-- The accesses that a step makes, in order. -/
def stepAccesses (s : Machine M) : List Access := s.recorded.step.2.log

/-! ## Recording is invisible -/

instance : Transparent (Recorded.inner (M := M)) where
  read _ _ := rfl
  write _ _ _ := rfl
  note _ _ := rfl

/-- **A step of a recorded machine is a step of the machine.** -/
theorem forget_step (s : Machine (Recorded M)) : s.forget.step = (s.step.1, s.step.2.forget) :=
  s.step_along Recorded.inner

/-! ## The record is complete -/

/-- Making the accesses in order leads from `m` to `m'`, and every read answers with the value in the
list. -/
def Replays (m : M) (t : List Access) (m' : M) : Prop :=
  match t with
  | [] => m' = m
  | .read address v :: rest =>
    (AddressSpace.read m address).1 = v ∧ Replays (AddressSpace.read m address).2 rest m'
  | .write address v :: rest => Replays (AddressSpace.write m address v) rest m'

theorem replays_append {m m'' : M} {t u : List Access} :
    Replays m (t ++ u) m'' ↔ ∃ m', Replays m t m' ∧ Replays m' u m'' := by
  induction t generalizing m with
  | nil => simp [Replays]
  | cons access rest ih => cases access <;> simp [Replays, ih, and_assoc]

/-- The record of the machine accounts for its address space since it was `m`. -/
def Kept (m : M) (s : Machine (Recorded M)) : Prop := Replays m s.log s.memory.inner

namespace Kept

variable {m : M} {s : Machine (Recorded M)}

theorem update (kept : Kept m s) (f : Registers → Registers) : Kept m (s.update f) := kept

theorem read (kept : Kept m s) (address : UInt16) : Kept m (s.read address).2 := by
  unfold Kept
  rw [log_read]
  exact replays_append.mpr ⟨_, kept, rfl, rfl⟩

theorem write (kept : Kept m s) (address : UInt16) (v : UInt8) : Kept m (s.write address v) := by
  unfold Kept
  rw [log_write]
  exact replays_append.mpr ⟨_, kept, rfl⟩

theorem fetch (kept : Kept m s) : Kept m s.fetch.2 := kept.read _

theorem readPair (kept : Kept m s) (low high : UInt16) : Kept m (s.readPair low high).2 :=
  (kept.read low).read high

theorem push (kept : Kept m s) (v : UInt8) : Kept m (s.push v) := kept.write _ v

theorem pull (kept : Kept m s) : Kept m s.pull.2 := (kept.update _).read _

theorem resolve (kept : Kept m s) (mode : Mode) : Kept m (s.resolve mode).2 := by
  cases mode with
  | implied | accumulator | indirect | relative => exact kept
  | immediate | zeroPage | zeroPageX | zeroPageY => exact kept.fetch
  | absolute | absoluteX | absoluteY => exact kept.fetch.fetch
  | indirectX | indirectY => exact kept.fetch.readPair _ _

theorem load (kept : Kept m s) (mode : Mode) : Kept m (s.load mode).2 := by
  unfold Machine.load
  dsimp only
  split
  case h_3 => exact (kept.resolve mode).read _
  all_goals exact kept.resolve mode

theorem store (kept : Kept m s) (mode : Mode) (v : UInt8) : Kept m (s.store mode v).2 := by
  unfold Machine.store
  dsimp only
  split
  case h_1 => exact (kept.resolve mode).write _ _
  all_goals exact kept.resolve mode

theorem modify (kept : Kept m s) (mode : Mode) (effect : Status → UInt8 → UInt8 × Status) :
    Kept m (s.modify mode effect).2 := by
  unfold Machine.modify
  dsimp only
  split
  case h_1 => exact (kept.resolve mode).update _
  case h_2 => exact (((kept.resolve mode).read _).update _).write _ _
  all_goals exact kept.resolve mode

theorem branch (kept : Kept m s) : Kept m s.branch := by
  unfold Machine.branch
  dsimp only
  split
  · exact kept.fetch.update _
  · exact kept.fetch

theorem jump (kept : Kept m s) (mode : Mode) : Kept m (s.jump mode) := by
  unfold Machine.jump
  dsimp only
  split
  · exact (kept.fetch.fetch.readPair _ _).update _
  · exact kept.fetch.fetch.update _

theorem call (kept : Kept m s) : Kept m s.call :=
  (((kept.fetch.push _).push _).read _).update _

theorem enterInterrupt (kept : Kept m s) (vector : UInt16) (fromInstruction : Bool) :
    Kept m (s.enterInterrupt vector fromInstruction) :=
  (((((kept.push _).push _).push _).update _).readPair _ _).update _

theorem execute (kept : Kept m s) (i : Instruction) : Kept m (s.execute i).2 := by
  unfold Machine.execute
  split
  case h_1 =>
    dsimp only
    split
    · exact (kept.load i.mode).update _
    · exact kept.load i.mode
  case h_2 => exact kept.store i.mode _
  case h_3 => exact kept.modify i.mode _
  case h_4 => exact kept.update _
  case h_5 => exact kept.push _
  case h_6 => exact kept.pull.update _
  case h_7 => exact kept.branch
  case h_8 => exact kept.jump i.mode
  case h_9 => exact kept.call
  case h_10 => exact kept.pull.pull.update _
  case h_11 => exact ((kept.pull.update _).pull.pull).update _
  case h_12 => exact (kept.update _).enterInterrupt _ _

theorem step (kept : Kept m s) : Kept m s.step.2 := by
  have opened : Kept m s.opened := kept.fetch
  cases halted : s.core.halted with
  | true =>
    rw [step_of_halted halted]
    exact kept
  | false =>
    rw [step_of_running halted]
    split
    · exact opened
    · rename_i i _
      split
      · exact opened.execute i
      · exact opened.execute i

end Kept

/-- **The accesses of a step account for all that it does to the address space.** -/
theorem replays_step (s : Machine M) : Replays s.memory s.stepAccesses s.step.2.memory := by
  have kept : Kept s.memory s.recorded.step.2 := Kept.step rfl
  have same : s.step = (s.recorded.step.1, s.recorded.step.2.forget) := s.recorded.forget_step
  rw [same]
  exact kept

end Famicom.Processor.Machine

import Famicom.Proofs.Processor.Recording

/-!
# Another address space that answers the same

The processor knows its address space by the answers it gets. If the accesses of a step lead through
another address space with the same answers, then a processor wired to that one takes the same step.

* `Machine.Retraces`: the computations of which this is true.
* `Machine.step_of_replays`: a step is one of them.
* `Machine.steps_of_replays`: so is any number of steps, whether they fail or not.
-/

namespace Famicom.Processor.Machine

variable {M N α : Type} [AddressSpace M]

/-- The processor of `s` wired to `n`. -/
abbrev rewired (s : Machine M) (n : N) : Machine N := s.along fun _ => n

variable [AddressSpace N]

/-- The recorded computation has led from `s` to `r`. Wherever `n` answers the whole record in the
same way, `g` does the same from the place where the record had been when the computation began. -/
def Retraces (n : N) (s : Machine (Recorded M)) (r : α × Machine (Recorded M))
    (g : Machine N → α × Machine N) : Prop :=
  ∀ n', Replays n r.2.log n' →
    ∃ n₁, Replays n s.log n₁ ∧ g (s.rewired n₁) = (r.1, r.2.rewired n')

namespace Retraces

variable {n : N} {s : Machine (Recorded M)}

/-! ## Elementary moves -/

theorem read (address : UInt16) : Retraces n s (s.read address) (·.read address) := by
  intro n' replays
  rw [log_read, replays_append] at replays
  obtain ⟨n₁, before, answer, rfl⟩ := replays
  exact ⟨n₁, before, Prod.ext answer rfl⟩

theorem write (a : α) (address : UInt16) (v : UInt8) :
    Retraces n s (a, s.write address v) fun u => (a, u.write address v) := by
  intro n' replays
  rw [log_write, replays_append] at replays
  obtain ⟨n₁, before, rfl⟩ := replays
  exact ⟨n₁, before, rfl⟩

theorem fetch : Retraces n s s.fetch (·.fetch) := by
  intro n' replays
  obtain ⟨n₁, before, byte⟩ := read s.registers.pc n' replays
  exact ⟨n₁, before, by simp [Machine.fetch, byte]⟩

theorem fetchWord : Retraces n s s.fetchWord (·.fetchWord) := by
  intro n' replays
  obtain ⟨n₂, middle, high⟩ := fetch n' replays
  obtain ⟨n₁, before, low⟩ := fetch n₂ middle
  exact ⟨n₁, before, by simp [Machine.fetchWord, low, high]⟩

theorem readPair (low high : UInt16) :
    Retraces n s (s.readPair low high) (·.readPair low high) := by
  intro n' replays
  obtain ⟨n₂, middle, second⟩ := read high n' replays
  obtain ⟨n₁, before, first⟩ := read low n₂ middle
  exact ⟨n₁, before, by simp [Machine.readPair, first, second]⟩

theorem readZeroPageWord (pointer : UInt8) :
    Retraces n s (s.readZeroPageWord pointer) (·.readZeroPageWord pointer) :=
  readPair _ _

theorem push (a : α) (v : UInt8) : Retraces n s (a, s.push v) fun u => (a, u.push v) := by
  intro n' replays
  obtain ⟨n₁, before, written⟩ := write a (stackAddress s.registers.sp) v n' replays
  simp only [Prod.mk.injEq, true_and] at written
  exact ⟨n₁, before, by simp [Machine.push, written]⟩

theorem pushWord (a : α) (w : UInt16) :
    Retraces n s (a, s.pushWord w) fun u => (a, u.pushWord w) := by
  intro n' replays
  obtain ⟨n₂, middle, low⟩ := push a (lowByte w) n' replays
  obtain ⟨n₁, before, high⟩ := push a (highByte w) n₂ middle
  simp only [Prod.mk.injEq, true_and] at low high
  exact ⟨n₁, before, by simp [Machine.pushWord, low, high]⟩

theorem pull : Retraces n s s.pull (·.pull) := by
  intro n' replays
  obtain ⟨n₁, before, byte⟩ := read (s := s.update _) _ n' replays
  exact ⟨n₁, before, byte⟩

theorem pullWord : Retraces n s s.pullWord (·.pullWord) := by
  intro n' replays
  obtain ⟨n₂, middle, high⟩ := pull n' replays
  obtain ⟨n₁, before, low⟩ := pull n₂ middle
  exact ⟨n₁, before, by simp [Machine.pullWord, low, high]⟩

/-! ## Operands -/

theorem resolve (mode : Mode) : Retraces n s (s.resolve mode) (·.resolve mode) := by
  intro n' replays
  cases mode with
  | implied | accumulator | indirect | relative => exact ⟨n', replays, rfl⟩
  | immediate | zeroPage | zeroPageX | zeroPageY =>
    obtain ⟨n₁, before, operand⟩ := fetch n' replays
    exact ⟨n₁, before, by simp [Machine.resolve, operand]⟩
  | absolute | absoluteX | absoluteY =>
    obtain ⟨n₁, before, operand⟩ := fetchWord n' replays
    exact ⟨n₁, before, by simp [Machine.resolve, operand]⟩
  | indirectX | indirectY =>
    obtain ⟨n₂, middle, target⟩ := readZeroPageWord _ n' replays
    obtain ⟨n₁, before, pointer⟩ := fetch n₂ middle
    simp only [registers_fetch] at target
    exact ⟨n₁, before, by simp [Machine.resolve, pointer, target]⟩

theorem load (mode : Mode) : Retraces n s (s.load mode) (·.load mode) := by
  intro n' replays
  unfold Machine.load at replays ⊢
  rcases found : (s.resolve mode).1 with e | v | v | a <;> simp only [found] at replays ⊢
  case ok.address =>
    obtain ⟨n₂, middle, byte⟩ := read a n' replays
    obtain ⟨n₁, before, operand⟩ := resolve mode n₂ middle
    exact ⟨n₁, before, by simp [operand, found, byte]⟩
  all_goals
    obtain ⟨n₁, before, operand⟩ := resolve mode n' replays
    exact ⟨n₁, before, by simp [operand, found]⟩

theorem store (mode : Mode) (v : UInt8) : Retraces n s (s.store mode v) (·.store mode v) := by
  intro n' replays
  unfold Machine.store at replays ⊢
  rcases found : (s.resolve mode).1 with e | v | v | a <;> simp only [found] at replays ⊢
  case ok.address =>
    obtain ⟨n₂, middle, written⟩ := write () a _ n' replays
    obtain ⟨n₁, before, operand⟩ := resolve mode n₂ middle
    exact ⟨n₁, before, by simpa [operand, found] using written⟩
  all_goals
    obtain ⟨n₁, before, operand⟩ := resolve mode n' replays
    exact ⟨n₁, before, by simp [operand, found, missingAddress]⟩

theorem modify (mode : Mode) (effect : Status → UInt8 → UInt8 × Status) :
    Retraces n s (s.modify mode effect) (·.modify mode effect) := by
  intro n' replays
  unfold Machine.modify at replays ⊢
  rcases found : (s.resolve mode).1 with e | v | v | a <;> simp only [found] at replays ⊢
  case ok.address =>
    obtain ⟨n₃, written, last⟩ := write () a _ n' replays
    obtain ⟨n₂, middle, byte⟩ := read a n₃ written
    obtain ⟨n₁, before, operand⟩ := resolve mode n₂ middle
    exact ⟨n₁, before, by simpa [operand, found, byte] using last⟩
  all_goals
    obtain ⟨n₁, before, operand⟩ := resolve mode n' replays
    exact ⟨n₁, before, by simp [operand, found, missingAddress]⟩

/-! ## Jumps and interrupts -/

theorem branch (a : α) : Retraces n s (a, s.branch) fun u => (a, u.branch) := by
  intro n' replays
  have fetched : Replays n s.fetch.2.log n' := by
    unfold Machine.branch at replays
    dsimp only at replays
    split at replays <;> exact replays
  obtain ⟨n₁, before, distance⟩ := fetch n' fetched
  refine ⟨n₁, before, ?_⟩
  simp only [Machine.branch, distance, core_along, registers_along, update_along,
    apply_ite (rewired · n')]

theorem jump (a : α) (mode : Mode) : Retraces n s (a, s.jump mode) fun u => (a, u.jump mode) := by
  intro n' replays
  unfold Machine.jump at replays ⊢
  by_cases indirect : mode = .indirect
  · simp only [if_pos indirect] at replays ⊢
    obtain ⟨n₂, middle, target⟩ := readPair _ _ n' replays
    obtain ⟨n₁, before, pointer⟩ := fetchWord n₂ middle
    exact ⟨n₁, before, by simp [pointer, target]⟩
  · simp only [if_neg indirect] at replays ⊢
    obtain ⟨n₁, before, target⟩ := fetchWord n' replays
    exact ⟨n₁, before, by simp [target]⟩

theorem call (a : α) : Retraces n s (a, s.call) fun u => (a, u.call) := by
  intro n' replays
  obtain ⟨n₃, pushed, high⟩ := read _ n' replays
  obtain ⟨n₂, middle, saved⟩ := pushWord a _ n₃ pushed
  obtain ⟨n₁, before, low⟩ := fetch n₂ middle
  simp only [Prod.mk.injEq, true_and] at saved
  refine ⟨n₁, before, ?_⟩
  simp only [Machine.call, registers_along, low, saved, high, setPC_along]

theorem enterInterrupt (a : α) (vector : UInt16) (fromInstruction : Bool) :
    Retraces n s (a, s.enterInterrupt vector fromInstruction)
      fun u => (a, u.enterInterrupt vector fromInstruction) := by
  intro n' replays
  obtain ⟨n₃, pushed, target⟩ := readPair _ _ n' replays
  obtain ⟨n₂, middle, status⟩ := push a _ n₃ pushed
  obtain ⟨n₁, before, saved⟩ := pushWord a _ n₂ middle
  simp only [Prod.mk.injEq, true_and] at saved status
  exact ⟨n₁, before, by simp [Machine.enterInterrupt, Machine.readWord, saved, status, target]⟩

/-! ## Instructions and steps -/

theorem execute (i : Instruction) : Retraces n s (s.execute i) (·.execute i) := by
  unfold Machine.execute
  cases i.mnemonic.action with
  | operate effect =>
    intro n' replays
    dsimp only at replays ⊢
    cases value : (s.load i.mode).1 with
    | ok _ | error _ =>
      simp only [value] at replays ⊢
      obtain ⟨n₁, before, loaded⟩ := load i.mode n' replays
      exact ⟨n₁, before, by simp [loaded, value]⟩
  | store value => exact store i.mode _
  | modify effect => exact modify i.mode effect
  | adjust effect => exact fun n' replays => ⟨n', replays, rfl⟩
  | push value => exact push (Except.ok ()) _
  | pull effect =>
    intro n' replays
    obtain ⟨n₁, before, pulled⟩ := pull n' replays
    exact ⟨n₁, before, by simp [pulled]⟩
  | branch => exact branch (Except.ok ())
  | jump => exact jump (Except.ok ()) i.mode
  | call => exact call (Except.ok ())
  | subroutineReturn =>
    intro n' replays
    obtain ⟨n₁, before, target⟩ := pullWord n' replays
    exact ⟨n₁, before, by simp [target]⟩
  | interruptReturn =>
    intro n' replays
    obtain ⟨n₂, middle, target⟩ := pullWord n' replays
    obtain ⟨n₁, before, status⟩ := pull n₂ middle
    exact ⟨n₁, before, by simp [status, target]⟩
  | softwareInterrupt =>
    intro n' replays
    obtain ⟨n₁, before, entered⟩ := enterInterrupt () _ _ n' replays
    exact ⟨n₁, before, by simpa using entered⟩

theorem opened : Retraces n s (s.nextOpcode, s.opened) fun u => (u.nextOpcode, u.opened) := by
  intro n' replays
  let ready : Machine (Recorded M) :=
    { s with core := { s.core with fetched := s.core.registers } }
  obtain ⟨n₁, before, byte⟩ := fetch (s := ready) n' replays
  exact ⟨n₁, before, congrArg (fun b : UInt8 × Machine N =>
    (b.1, ({ b.2 with core := { b.2.core with opcode := b.1 } } : Machine N))) byte⟩

theorem step : Retraces n s s.step (·.step) := by
  intro n' replays
  cases halted : s.core.halted with
  | true =>
    rw [step_of_halted halted] at replays ⊢
    exact ⟨n', replays, step_of_halted halted⟩
  | false =>
    have running (m : N) : (s.rewired m).core.halted = false := halted
    rw [step_of_running halted] at replays ⊢
    simp only [step_of_running (running _)]
    cases decoded : decode s.nextOpcode with
    | none =>
      simp only [decoded] at replays ⊢
      obtain ⟨n₁, before, opcode⟩ := opened n' replays
      simp only [Prod.mk.injEq] at opcode
      exact ⟨n₁, before, by simp [opcode, decoded]⟩
    | some i =>
      simp only [decoded] at replays ⊢
      cases result : (s.opened.execute i).1 with
      | ok _ | error _ =>
        simp only [result] at replays ⊢
        obtain ⟨n₂, middle, done⟩ := execute i n' replays
        obtain ⟨n₁, before, opcode⟩ := opened n₂ middle
        simp only [Prod.mk.injEq] at opcode
        exact ⟨n₁, before, by simp [opcode, decoded, done, result]⟩

end Retraces

/-- **A step depends on the answers only**: where the accesses of a step get the same answers from
another address space, the processor wired to that one does the same. -/
theorem step_of_replays {s : Machine M} {n n' : N} (same : Replays n s.stepAccesses n') :
    (s.rewired n).step = (s.step.1, s.step.2.rewired n') := by
  obtain ⟨n₁, start, step⟩ := Retraces.step (s := s.recorded) n' same
  obtain rfl : n₁ = n := start
  have recorded : s.step = (s.recorded.step.1, s.recorded.step.2.forget) := s.recorded.forget_step
  rw [recorded]
  exact step

/-! ## Runs -/

/-- The results of a number of steps, first to last, and the machine after them. A failing step is
followed by the next one all the same. -/
def steps (s : Machine M) : Nat → List (Except Fault Nat) × Machine M
  | 0 => ([], s)
  | k + 1 => (s.step.1 :: (s.step.2.steps k).1, (s.step.2.steps k).2)

/-- The accesses that these steps make, in order. -/
def runAccesses (s : Machine M) : Nat → List Access
  | 0 => []
  | k + 1 => s.stepAccesses ++ s.step.2.runAccesses k

/-- The accesses of a run account for all that it does to the address space. -/
theorem replays_steps (s : Machine M) (k : Nat) :
    Replays s.memory (s.runAccesses k) (s.steps k).2.memory := by
  induction k generalizing s with
  | zero => rfl
  | succ k ih => exact replays_append.mpr ⟨_, s.replays_step, ih s.step.2⟩

/-- **A run depends on the answers only.** -/
theorem steps_of_replays {s : Machine M} {n n' : N} (k : Nat)
    (same : Replays n (s.runAccesses k) n') :
    (s.rewired n).steps k = ((s.steps k).1, (s.steps k).2.rewired n') := by
  induction k generalizing s n with
  | zero =>
    obtain rfl : n' = n := same
    rfl
  | succ k ih =>
    obtain ⟨n₁, first, rest⟩ := replays_append.mp same
    simp only [steps, step_of_replays first, ih rest]

end Famicom.Processor.Machine

import Famicom.Proofs.Processor.Encoding
import Famicom.Proofs.Processor.Recording

/-!
# The conduct of an instruction

What an instruction can do, whatever the address space answers: the accesses it makes, in order, and
the registers it ends with. Everything that is said about single instructions is read off these rules.

* `Mode.Finds` and `Mode.Obtains`: how an addressing mode finds its place and its value.
* `Action.Does`: one rule for each way in which an instruction can go.
* `Machine.does_step`: a running processor carries out every official opcode by these rules.
-/

namespace Famicom.Processor

/-! ## The rules -/

/-- How many bytes of the instruction stream the operand takes. -/
def Mode.operandLength : Mode → UInt16
  | .implied | .accumulator => 0
  | .absolute | .absoluteX | .absoluteY | .indirect => 2
  | _ => 1

/-- The registers when the operand was taken from the instruction stream. -/
def Registers.past (r : Registers) (mode : Mode) : Registers :=
  { r with pc := r.pc + mode.operandLength }

/-- The place that an addressing mode finds, and the accesses by which it does; `x` and `y` are the
index registers and `start` is the address of the operand. Indexing in page zero and following a
pointer there stay in page zero. -/
inductive Mode.Finds (x y : UInt8) (start : UInt16) : Mode → List Access → UInt16 → Prop
  | zeroPage (n : UInt8) : Finds x y start .zeroPage [.read start n] n.toUInt16
  | zeroPageX (n : UInt8) : Finds x y start .zeroPageX [.read start n] (n + x).toUInt16
  | zeroPageY (n : UInt8) : Finds x y start .zeroPageY [.read start n] (n + y).toUInt16
  | absolute (low high : UInt8) :
    Finds x y start .absolute [.read start low, .read (start + 1) high] (word low high)
  | absoluteX (low high : UInt8) :
    Finds x y start .absoluteX [.read start low, .read (start + 1) high]
      (word low high + x.toUInt16)
  | absoluteY (low high : UInt8) :
    Finds x y start .absoluteY [.read start low, .read (start + 1) high]
      (word low high + y.toUInt16)
  | indirectX (n low high : UInt8) :
    Finds x y start .indirectX
      [.read start n, .read (n + x).toUInt16 low, .read (n + x + 1).toUInt16 high] (word low high)
  | indirectY (n low high : UInt8) :
    Finds x y start .indirectY
      [.read start n, .read n.toUInt16 low, .read (n + 1).toUInt16 high]
      (word low high + y.toUInt16)

/-- The value of an operand, and the accesses by which it is obtained. -/
inductive Mode.Obtains (x y : UInt8) (start : UInt16) : Mode → List Access → UInt8 → Prop
  | immediate (v : UInt8) : Obtains x y start .immediate [.read start v] v
  | memory {mode : Mode} {t : List Access} {a : UInt16} (place : mode.Finds x y start t a)
      (v : UInt8) : Obtains x y start mode (t ++ [.read a v]) v

/-- One rule for each way in which an instruction can go: from the registers behind its opcode it makes
the accesses and ends with the registers given. -/
inductive Action.Does (opcode : UInt8) (mode : Mode) (r : Registers) :
    Action → List Access → Registers → Prop
  | operate {effect : UInt8 → Registers → Registers} {t : List Access} {v : UInt8}
      (operand : mode.Obtains r.x r.y r.pc t v) :
    Does opcode mode r (.operate effect) t (effect v (r.past mode))
  | store {value : Registers → UInt8} {t : List Access} {a : UInt16}
      (place : mode.Finds r.x r.y r.pc t a) :
    Does opcode mode r (.store value) (t ++ [.write a (value r)]) (r.past mode)
  | modifyA {effect : Status → UInt8 → UInt8 × Status} (register : mode = .accumulator) :
    Does opcode mode r (.modify effect) [] (r.accumulate (effect r.status r.a))
  | modify {effect : Status → UInt8 → UInt8 × Status} {t : List Access} {a : UInt16}
      (place : mode.Finds r.x r.y r.pc t a) (v : UInt8) :
    Does opcode mode r (.modify effect) (t ++ [.read a v, .write a (effect r.status v).1])
      { r.past mode with status := (effect r.status v).2 }
  | adjust {effect : Registers → Registers} : Does opcode mode r (.adjust effect) [] (effect r)
  | push {value : Registers → UInt8} :
    Does opcode mode r (.push value) [.write (stackAddress r.sp) (value r)]
      { r with sp := r.sp - 1 }
  | pull {effect : UInt8 → Registers → Registers} (v : UInt8) :
    Does opcode mode r (.pull effect) [.read (stackAddress (r.sp + 1)) v]
      (effect v { r with sp := r.sp + 1 })
  | branch (distance : UInt8)
      (taken : r.status.branchTaken (opcode >>> 6) ((opcode >>> 5) &&& 1 == 1) = true) :
    Does opcode mode r .branch [.read r.pc distance]
      { r with pc := r.pc + 1 + Machine.displacement distance }
  | fallThrough (distance : UInt8)
      (other : ¬ r.status.branchTaken (opcode >>> 6) ((opcode >>> 5) &&& 1 == 1) = true) :
    Does opcode mode r .branch [.read r.pc distance] { r with pc := r.pc + 1 }
  | jump (low high : UInt8) (direct : mode ≠ .indirect) :
    Does opcode mode r .jump [.read r.pc low, .read (r.pc + 1) high]
      { r with pc := word low high }
  | jumpIndirect (low high targetLow targetHigh : UInt8) (indirect : mode = .indirect) :
    Does opcode mode r .jump
      [.read r.pc low, .read (r.pc + 1) high, .read (word low high) targetLow,
        .read (word (low + 1) high) targetHigh]
      { r with pc := word targetLow targetHigh }
  | call (low high : UInt8) :
    Does opcode mode r .call
      [.read r.pc low, .write (stackAddress r.sp) (highByte (r.pc + 1)),
        .write (stackAddress (r.sp - 1)) (lowByte (r.pc + 1)), .read (r.pc + 1) high]
      { r with sp := r.sp - 2, pc := word low high }
  | subroutineReturn (low high : UInt8) :
    Does opcode mode r .subroutineReturn
      [.read (stackAddress (r.sp + 1)) low, .read (stackAddress (r.sp + 2)) high]
      { r with sp := r.sp + 2, pc := word low high + 1 }
  | interruptReturn (status low high : UInt8) :
    Does opcode mode r .interruptReturn
      [.read (stackAddress (r.sp + 1)) status, .read (stackAddress (r.sp + 2)) low,
        .read (stackAddress (r.sp + 3)) high]
      { r with sp := r.sp + 3, pc := word low high, status := r.status.restore status }
  | softwareInterrupt (low high : UInt8) :
    Does opcode mode r .softwareInterrupt
      [.write (stackAddress r.sp) (highByte (r.pc + 1)),
        .write (stackAddress (r.sp - 1)) (lowByte (r.pc + 1)),
        .write (stackAddress (r.sp - 2)) (r.status.pushed true),
        .read irqVector low, .read (irqVector + 1) high]
      { r with
        sp := r.sp - 3, pc := word low high, status := r.status.set .interruptDisable true }

/-! ## The machine follows the rules -/

namespace Machine

variable {M : Type} [AddressSpace M] (s : Machine (Recorded M))

@[simp] theorem log_fetch :
    s.fetch.2.log = s.log ++ [.read s.registers.pc s.fetch.1] := s.log_read _

@[simp] theorem log_push (v : UInt8) :
    (s.push v).log = s.log ++ [.write (stackAddress s.registers.sp) v] := s.log_write _ _

@[simp] theorem log_pull :
    s.pull.2.log = s.log ++ [.read (stackAddress (s.registers.sp + 1)) s.pull.1] :=
  Array.toList_push

theorem log_readPair (low high : UInt16) :
    (s.readPair low high).2.log =
      s.log ++ [.read low (s.read low).1, .read high ((s.read low).2.read high).1] := by
  simp [readPair]

theorem log_fetchWord :
    s.fetchWord.2.log =
      s.log ++ [.read s.registers.pc s.fetch.1, .read (s.registers.pc + 1) s.fetch.2.fetch.1] := by
  simp [fetchWord]

theorem log_pushWord (w : UInt16) :
    (s.pushWord w).log =
      s.log ++ [.write (stackAddress s.registers.sp) (highByte w),
        .write (stackAddress (s.registers.sp - 1)) (lowByte w)] := by
  simp [pushWord]

theorem log_pullWord :
    s.pullWord.2.log =
      s.log ++ [.read (stackAddress (s.registers.sp + 1)) s.pull.1,
        .read (stackAddress (s.registers.sp + 2)) s.pull.2.pull.1] := by
  simp [pullWord, byte_succ_succ]

/-- A pointer in page zero is followed after a byte was fetched. -/
theorem log_pointer (p : UInt8) :
    (s.fetch.2.readZeroPageWord p).2.log =
      s.log ++ [.read s.registers.pc s.fetch.1, .read p.toUInt16 (s.fetch.2.read p.toUInt16).1,
        .read (p + 1).toUInt16 ((s.fetch.2.read p.toUInt16).2.read (p + 1).toUInt16).1] := by
  simp [readZeroPageWord, log_readPair]

/-- An operand in memory is found as its addressing mode says. -/
theorem finds_resolve {mode : Mode} (memory : mode.inMemory = true) :
    ∃ t a, (s.resolve mode).1 = .ok (.address a) ∧
      (s.resolve mode).2.log = s.log ++ t ∧
      (s.resolve mode).2.registers = s.registers.past mode ∧
      mode.Finds s.registers.x s.registers.y s.registers.pc t a := by
  have words := s.registers_fetchWord
  cases mode with
  | zeroPage => exact ⟨_, _, rfl, s.log_fetch, rfl, .zeroPage _⟩
  | zeroPageX => exact ⟨_, _, rfl, s.log_fetch, rfl, .zeroPageX _⟩
  | zeroPageY => exact ⟨_, _, rfl, s.log_fetch, rfl, .zeroPageY _⟩
  | absolute => exact ⟨_, _, rfl, s.log_fetchWord, words, .absolute _ _⟩
  | absoluteX => exact ⟨_, _, rfl, s.log_fetchWord, words, .absoluteX _ _⟩
  | absoluteY => exact ⟨_, _, rfl, s.log_fetchWord, words, .absoluteY _ _⟩
  | indirectX => exact ⟨_, _, rfl, s.log_pointer _, rfl, .indirectX _ _ _⟩
  | indirectY => exact ⟨_, _, rfl, s.log_pointer _, rfl, .indirectY _ _ _⟩
  | implied | accumulator | immediate | indirect | relative => exact absurd memory (by decide)

theorem obtains_load {mode : Mode} (usable : mode = .immediate ∨ mode.inMemory = true) :
    ∃ t v, (s.load mode).1 = .ok v ∧
      (s.load mode).2.log = s.log ++ t ∧
      (s.load mode).2.registers = s.registers.past mode ∧
      mode.Obtains s.registers.x s.registers.y s.registers.pc t v := by
  rcases usable with rfl | memory
  · exact ⟨_, _, rfl, s.log_fetch, rfl, .immediate _⟩
  · obtain ⟨t, a, found, log, registers, finds⟩ := s.finds_resolve memory
    rw [load_of_address found]
    refine ⟨_, _, rfl, ?_, ?_, .memory finds _⟩
    · rw [log_read, log, List.append_assoc]
    · rw [registers_read, registers]

/-- From `s` an action has led to `s'` by the rules. -/
def Conducts (s : Machine (Recorded M)) (mode : Mode) (a : Action) (s' : Machine (Recorded M)) :
    Prop :=
  ∃ t r, s'.log = s.log ++ t ∧ s'.registers = r ∧ a.Does s.core.opcode mode s.registers t r

theorem conducts_operate {mode : Mode} (effect : UInt8 → Registers → Registers)
    (usable : mode = .immediate ∨ mode.inMemory = true) :
    ∃ v, (s.load mode).1 = .ok v ∧
      s.Conducts mode (.operate effect) ((s.load mode).2.update (effect v)) := by
  obtain ⟨t, v, value, log, registers, obtains⟩ := s.obtains_load usable
  refine ⟨v, value, _, _, log, ?_, .operate obtains⟩
  rw [registers_update, registers]

theorem conducts_store {mode : Mode} (value : Registers → UInt8) (memory : mode.inMemory = true) :
    (s.store mode (value s.registers)).1 = .ok () ∧
      s.Conducts mode (.store value) (s.store mode (value s.registers)).2 := by
  obtain ⟨t, a, found, log, registers, finds⟩ := s.finds_resolve memory
  rw [store_of_address found]
  refine ⟨rfl, _, _, ?_, registers, .store finds⟩
  rw [log_write, log, List.append_assoc]

theorem conducts_modify {mode : Mode} (effect : Status → UInt8 → UInt8 × Status)
    (usable : mode = .accumulator ∨ mode.inMemory = true) :
    (s.modify mode effect).1 = .ok () ∧
      s.Conducts mode (.modify effect) (s.modify mode effect).2 := by
  rcases usable with rfl | memory
  · exact ⟨rfl, [], _, (List.append_nil _).symm, rfl, .modifyA rfl⟩
  · obtain ⟨t, a, found, log, registers, finds⟩ := s.finds_resolve memory
    have status : ((s.resolve mode).2.read a).2.registers.status = s.registers.status := by
      rw [registers_read, registers]
      rfl
    rw [modify_of_address found]
    dsimp only
    rw [status]
    refine ⟨rfl, _, _, ?_, ?_, .modify finds ((s.resolve mode).2.read a).1⟩
    · rw [log_write, log_update, log_read, log, List.append_assoc, List.append_assoc]
      rfl
    · rw [registers_write, registers_update, registers_read, registers]

theorem conducts_branch (mode : Mode) : s.Conducts mode .branch s.branch := by
  unfold Machine.branch
  dsimp only
  split
  · rename_i taken
    exact ⟨_, _, s.log_fetch, rfl, .branch _ taken⟩
  · rename_i other
    exact ⟨_, _, s.log_fetch, rfl, .fallThrough _ other⟩

theorem conducts_jump (mode : Mode) : s.Conducts mode .jump (s.jump mode) := by
  unfold Machine.jump
  dsimp only
  split
  · rename_i indirect
    let low := s.fetch.1
    let high := s.fetch.2.fetch.1
    have samePage : (s.fetchWord.1 &&& 0xFF00) ||| ((s.fetchWord.1 + 1) &&& 0x00FF) =
        word (low + 1) high := page_or_word_succ low high
    rw [samePage]
    refine ⟨_, _, ?_, rfl, .jumpIndirect low high _ _ indirect⟩
    rw [setPC, log_update, log_readPair, log_fetchWord, List.append_assoc]
    rfl
  · rename_i direct
    exact ⟨_, _, s.log_fetchWord, rfl, .jump _ _ direct⟩

theorem conducts_call (mode : Mode) : s.Conducts mode .call s.call := by
  let pushed := s.fetch.2.pushWord (s.registers.pc + 1)
  refine ⟨_, _, ?_, ?_, .call s.fetch.1 (pushed.read (s.registers.pc + 1)).1⟩
  · change (pushed.read (s.registers.pc + 1)).2.log = _
    rw [log_read, log_pushWord, log_fetch, List.append_assoc, List.append_assoc]
    rfl
  · change ((pushed.read (s.registers.pc + 1)).2.setPC _).registers = _
    rw [registers_setPC, registers_read, registers_pushWord]
    rfl

theorem conducts_subroutineReturn (mode : Mode) :
    s.Conducts mode .subroutineReturn (s.pullWord.2.setPC (s.pullWord.1 + 1)) := by
  refine ⟨_, _, s.log_pullWord, ?_, .subroutineReturn _ _⟩
  rw [registers_setPC, registers_pullWord]
  rfl

theorem conducts_interruptReturn (mode : Mode) :
    let pulled := s.pull.2.update fun r => { r with status := r.status.restore s.pull.1 }
    s.Conducts mode .interruptReturn (pulled.pullWord.2.setPC pulled.pullWord.1) := by
  intro pulled
  refine ⟨_, _, ?_, ?_, .interruptReturn s.pull.1 pulled.pull.1 pulled.pull.2.pull.1⟩
  · change pulled.pullWord.2.log = _
    rw [log_pullWord, log_update, log_pull, List.append_assoc, ← byte_succ_succ s.registers.sp,
      ← byte_succ_add_two]
    rfl
  · rw [registers_setPC, registers_pullWord, ← byte_succ_add_two]
    rfl

theorem conducts_softwareInterrupt (mode : Mode) :
    s.Conducts mode .softwareInterrupt
      ((s.update fun r => { r with pc := r.pc + 1 }).enterInterrupt irqVector true) := by
  let saved := (s.update fun r => { r with pc := r.pc + 1 }).pushWord (s.registers.pc + 1)
  let pushed := saved.push (s.registers.status.pushed true)
  let ready := pushed.update fun r => r.setFlag .interruptDisable true
  have three : s.registers.sp - 2 - 1 = s.registers.sp - 3 := by grind
  refine ⟨_, _, ?_, ?_, .softwareInterrupt (ready.read irqVector).1
    ((ready.read irqVector).2.read (irqVector + 1)).1⟩
  · change (ready.readPair irqVector (irqVector + 1)).2.log = _
    rw [log_readPair, log_update, log_push, log_pushWord, registers_pushWord, log_update,
      List.append_assoc, List.append_assoc]
    rfl
  · change ((ready.readWord irqVector).2.setPC _).registers = _
    rw [registers_setPC, readWord, registers_readPair, registers_update, registers_push,
      registers_pushWord, ← three]
    rfl

/-- **An instruction with an operand that it can use follows the rules.** -/
theorem conducts_execute {i : Instruction} (usable : i.mnemonic.action.takes i.mode = true) :
    (s.execute i).1 = .ok () ∧ s.Conducts i.mode i.mnemonic.action (s.execute i).2 := by
  obtain ⟨mnemonic, mode⟩ := i
  unfold execute
  dsimp only at usable ⊢
  generalize mnemonic.action = action at usable
  cases action with
  | operate effect =>
    have operand : mode = .immediate ∨ mode.inMemory = true := by
      simpa [Action.takes] using usable
    obtain ⟨v, value, conducts⟩ := s.conducts_operate effect operand
    dsimp only
    rw [value]
    exact ⟨rfl, conducts⟩
  | store value => exact s.conducts_store value usable
  | modify effect =>
    have operand : mode = .accumulator ∨ mode.inMemory = true := by
      simpa [Action.takes] using usable
    exact s.conducts_modify effect operand
  | adjust effect => exact ⟨rfl, [], _, (List.append_nil _).symm, rfl, .adjust⟩
  | push value => exact ⟨rfl, _, _, s.log_push _, rfl, .push⟩
  | pull effect => exact ⟨rfl, _, _, s.log_pull, rfl, .pull _⟩
  | branch => exact ⟨rfl, s.conducts_branch mode⟩
  | jump => exact ⟨rfl, s.conducts_jump mode⟩
  | call => exact ⟨rfl, s.conducts_call mode⟩
  | subroutineReturn => exact ⟨rfl, s.conducts_subroutineReturn mode⟩
  | interruptReturn => exact ⟨rfl, s.conducts_interruptReturn mode⟩
  | softwareInterrupt => exact ⟨rfl, s.conducts_softwareInterrupt mode⟩

/-- **A running processor carries out every official opcode by the rules**, whatever it is wired
to. -/
theorem does_step {s : Machine M} (running : s.core.halted = false) {m : Mnemonic} {mode : Mode}
    (official : (mode, s.nextOpcode) ∈ m.encodings) :
    s.step.1 = .ok (cycles m mode) ∧
      ∃ t, s.stepAccesses = .read s.registers.pc s.nextOpcode :: t ∧
        m.action.Does s.nextOpcode mode { s.registers with pc := s.registers.pc + 1 } t
          s.step.2.registers := by
  let i : Instruction := ⟨m, mode⟩
  have decoded : decode s.recorded.nextOpcode = some i := decode_of_mem_encodings official
  obtain ⟨succeeds, t, r, log, rfl, does⟩ := s.recorded.opened.conducts_execute (i := i)
    (takes_of_mem_modes (mode_mem_modes official))
  have recorded : s.recorded.step =
      (.ok i.cycles, (s.recorded.opened.execute i).2.spend i.cycles) := by
    rw [step_of_running (s := s.recorded) running, decoded]
    dsimp only
    rw [succeeds]
  have step : s.step = (s.recorded.step.1, s.recorded.step.2.forget) := s.recorded.forget_step
  rw [step, recorded]
  refine ⟨rfl, t, ?_, does⟩
  change s.recorded.step.2.log = _
  rw [recorded]
  change (s.recorded.opened.execute i).2.log = _
  rw [log]
  rfl

end Machine

end Famicom.Processor

import Famicom.Proofs.Processor.Conduct

/-!
# The bus traffic of an instruction

Reading a device changes it, so a program can tell how often and in which order an instruction touches
the bus. `Traffic` lists the accesses of every official instruction behind its opcode; nothing else is
touched.

* `traffic_of_does`: the rules of conduct make these accesses.
* `Machine.traffic_step`: a step makes the access for its opcode and then these, and no others.
-/

namespace Famicom.Processor

/-- Loads, arithmetic, logic, comparisons and the bit test. -/
def readers : List Mnemonic :=
  [.lda, .ldx, .ldy, .adc, .sbc, .and, .ora, .eor, .cmp, .cpx, .cpy, .bit]

/-- Transfers, steps of the index registers, changes of a flag, and no operation at all. -/
def insiders : List Mnemonic :=
  [.tax, .tay, .tsx, .txa, .txs, .tya, .inx, .iny, .dex, .dey, .clc, .sec, .cli, .sei, .cld, .sed,
    .clv, .nop]

def branches : List Mnemonic := [.bpl, .bmi, .bvc, .bvs, .bcc, .bcs, .bne, .beq]

/-- What each store writes. -/
def stored (r : Registers) : List (Mnemonic × UInt8) := [(.sta, r.a), (.stx, r.x), (.sty, r.y)]

/-- What each of the instructions that replace a byte makes of it. -/
def replaced (r : Registers) (v : UInt8) : List (Mnemonic × UInt8) :=
  [(.inc, v + 1), (.dec, v - 1), (.asl, v <<< 1), (.lsr, v >>> 1),
    (.rol, v <<< 1 ||| if r.status.get .carry then 0x01 else 0),
    (.ror, v >>> 1 ||| if r.status.get .carry then 0x80 else 0)]

/-- What each of the instructions that push a byte pushes. -/
def pushed (r : Registers) : List (Mnemonic × UInt8) :=
  [(.pha, r.a), (.php, r.status.pushed true)]

/-- The place in page one for a stack pointer. -/
def stackPlace (sp : UInt8) : UInt16 := 0x0100 + sp.toUInt16

/-- The accesses of an instruction behind its opcode, which stands at the program counter. An
immediate operand is a byte of the instruction; otherwise the effective address is read once,
written once without being read, or read and then written. An indirect jump finds the second byte of
its target in the page of the first, a call pushes the return address between the two bytes of its
target, and a software interrupt skips the byte behind its opcode unread. -/
inductive Traffic (r : Registers) : Mnemonic → Mode → List Access → Prop
  | readImmediate {m : Mnemonic} (kind : m ∈ readers) (v : UInt8) :
    Traffic r m .immediate [.read (r.pc + 1) v]
  | readMemory {m : Mnemonic} {mode : Mode} {t : List Access} {a : UInt16} (kind : m ∈ readers)
      (place : mode.Finds r.x r.y (r.pc + 1) t a) (v : UInt8) :
    Traffic r m mode (t ++ [.read a v])
  | store {m : Mnemonic} {mode : Mode} {t : List Access} {a : UInt16} {v : UInt8}
      (kind : (m, v) ∈ stored r) (place : mode.Finds r.x r.y (r.pc + 1) t a) :
    Traffic r m mode (t ++ [.write a v])
  | replaceMemory {m : Mnemonic} {mode : Mode} {t : List Access} {a : UInt16} {v w : UInt8}
      (place : mode.Finds r.x r.y (r.pc + 1) t a) (kind : (m, w) ∈ replaced r v) :
    Traffic r m mode (t ++ [.read a v, .write a w])
  | replaceAccumulator {m : Mnemonic} (kind : m ∈ [.asl, .lsr, .rol, .ror]) :
    Traffic r m .accumulator []
  | inside {m : Mnemonic} (kind : m ∈ insiders) : Traffic r m .implied []
  | branch {m : Mnemonic} (kind : m ∈ branches) (distance : UInt8) :
    Traffic r m .relative [.read (r.pc + 1) distance]
  | jump (low high : UInt8) :
    Traffic r .jmp .absolute [.read (r.pc + 1) low, .read (r.pc + 2) high]
  | jumpIndirect (low high targetLow targetHigh : UInt8) :
    Traffic r .jmp .indirect
      [.read (r.pc + 1) low, .read (r.pc + 2) high, .read (word low high) targetLow,
        .read (word (low + 1) high) targetHigh]
  | call (low high : UInt8) :
    Traffic r .jsr .absolute
      [.read (r.pc + 1) low, .write (stackPlace r.sp) (highByte (r.pc + 2)),
        .write (stackPlace (r.sp - 1)) (lowByte (r.pc + 2)), .read (r.pc + 2) high]
  | subroutineReturn (low high : UInt8) :
    Traffic r .rts .implied
      [.read (stackPlace (r.sp + 1)) low, .read (stackPlace (r.sp + 2)) high]
  | interruptReturn (status low high : UInt8) :
    Traffic r .rti .implied
      [.read (stackPlace (r.sp + 1)) status, .read (stackPlace (r.sp + 2)) low,
        .read (stackPlace (r.sp + 3)) high]
  | softwareInterrupt (low high : UInt8) :
    Traffic r .brk .implied
      [.write (stackPlace r.sp) (highByte (r.pc + 2)),
        .write (stackPlace (r.sp - 1)) (lowByte (r.pc + 2)),
        .write (stackPlace (r.sp - 2)) (r.status.pushed true),
        .read 0xFFFE low, .read 0xFFFF high]
  | push {m : Mnemonic} {v : UInt8} (kind : (m, v) ∈ pushed r) :
    Traffic r m .implied [.write (stackPlace r.sp) v]
  | pull {m : Mnemonic} (kind : m ∈ [.pla, .plp]) (v : UInt8) :
    Traffic r m .implied [.read (stackPlace (r.sp + 1)) v]

/-! ## The rules make this traffic -/

section

variable {opcode : UInt8} {mode : Mode} {m : Mnemonic} {r r' : Registers} {t : List Access}

theorem traffic_of_operate {effect : UInt8 → Registers → Registers} (kind : m ∈ readers)
    (does : (Action.operate effect).Does opcode mode { r with pc := r.pc + 1 } t r') :
    Traffic r m mode t := by
  cases does with
  | operate operand =>
    cases operand with
    | immediate => exact Traffic.readImmediate (r := r) kind _
    | memory place => exact Traffic.readMemory (r := r) kind place _

theorem traffic_of_store {value : Registers → UInt8}
    (kind : (m, value { r with pc := r.pc + 1 }) ∈ stored r)
    (does : (Action.store value).Does opcode mode { r with pc := r.pc + 1 } t r') :
    Traffic r m mode t := by
  cases does with
  | store place => exact .store kind place

theorem traffic_of_modify {effect : Status → UInt8 → UInt8 × Status}
    (kind : ∀ v, (m, (effect r.status v).1) ∈ replaced r v)
    (register : mode = .accumulator → m ∈ [.asl, .lsr, .rol, .ror])
    (does : (Action.modify effect).Does opcode mode { r with pc := r.pc + 1 } t r') :
    Traffic r m mode t := by
  cases does with
  | modifyA accumulator =>
    subst accumulator
    exact .replaceAccumulator (register rfl)
  | modify place v => exact .replaceMemory place (kind v)

theorem traffic_of_adjust {effect : Registers → Registers} (kind : m ∈ insiders)
    (does : (Action.adjust effect).Does opcode .implied { r with pc := r.pc + 1 } t r') :
    Traffic r m .implied t := by
  cases does with
  | adjust => exact .inside kind

theorem traffic_of_branch (kind : m ∈ branches)
    (does : Action.branch.Does opcode .relative { r with pc := r.pc + 1 } t r') :
    Traffic r m .relative t := by
  cases does with
  | branch distance => exact .branch kind distance
  | fallThrough distance => exact .branch kind distance

theorem traffic_of_push {value : Registers → UInt8}
    (kind : (m, value { r with pc := r.pc + 1 }) ∈ pushed r)
    (does : (Action.push value).Does opcode .implied { r with pc := r.pc + 1 } t r') :
    Traffic r m .implied t := by
  cases does with
  | push =>
    rw [stackAddress_eq]
    exact .push kind

theorem traffic_of_pull {effect : UInt8 → Registers → Registers} (kind : m ∈ [.pla, .plp])
    (does : (Action.pull effect).Does opcode .implied { r with pc := r.pc + 1 } t r') :
    Traffic r m .implied t := by
  cases does with
  | pull v =>
    rw [stackAddress_eq]
    exact .pull kind v

theorem traffic_of_jump (official : mode ∈ Mnemonic.jmp.modes)
    (does : Action.jump.Does opcode mode { r with pc := r.pc + 1 } t r') :
    Traffic r .jmp mode t := by
  cases does with
  | jump low high direct =>
    obtain rfl : mode = .absolute := by
      simpa [Mnemonic.modes, Mnemonic.encodings, direct] using official
    rw [word_succ_succ]
    exact .jump low high
  | jumpIndirect low high targetLow targetHigh indirect =>
    subst indirect
    rw [word_succ_succ]
    exact .jumpIndirect low high targetLow targetHigh

theorem traffic_of_call
    (does : Action.call.Does opcode .absolute { r with pc := r.pc + 1 } t r') :
    Traffic r .jsr .absolute t := by
  cases does with
  | call low high =>
    rw [word_succ_succ, stackAddress_eq, stackAddress_eq]
    exact .call low high

theorem traffic_of_subroutineReturn
    (does : Action.subroutineReturn.Does opcode .implied { r with pc := r.pc + 1 } t r') :
    Traffic r .rts .implied t := by
  cases does with
  | subroutineReturn low high =>
    rw [stackAddress_eq, stackAddress_eq]
    exact .subroutineReturn low high

theorem traffic_of_interruptReturn
    (does : Action.interruptReturn.Does opcode .implied { r with pc := r.pc + 1 } t r') :
    Traffic r .rti .implied t := by
  cases does with
  | interruptReturn status low high =>
    rw [stackAddress_eq, stackAddress_eq, stackAddress_eq]
    exact .interruptReturn status low high

theorem traffic_of_softwareInterrupt
    (does : Action.softwareInterrupt.Does opcode .implied { r with pc := r.pc + 1 } t r') :
    Traffic r .brk .implied t := by
  cases does with
  | softwareInterrupt low high =>
    rw [word_succ_succ, stackAddress_eq, stackAddress_eq, stackAddress_eq]
    exact .softwareInterrupt low high

/-- **The rules of conduct make the documented accesses.** -/
theorem traffic_of_does (official : mode ∈ m.modes)
    (does : m.action.Does opcode mode { r with pc := r.pc + 1 } t r') : Traffic r m mode t := by
  have implied (only : m.modes = [.implied]) : mode = .implied := by
    simpa [only] using official
  cases m
  case lda | ldx | ldy | adc | sbc | and | ora | eor | cmp | cpx | cpy | bit =>
    exact traffic_of_operate (by decide) does
  case sta | stx | sty => exact traffic_of_store (by simp [stored]) does
  case inc | dec =>
    refine traffic_of_modify (fun v => ?_) ?_ does
    · simp [replaced, Arithmetic.increment, Arithmetic.decrement]
    · rintro rfl
      exact absurd official (by decide)
  case asl | lsr | rol | ror =>
    refine traffic_of_modify (fun v => ?_) (fun _ => by decide) does
    simp [replaced, Arithmetic.shiftLeft, Arithmetic.shiftRight, Arithmetic.rotateLeft,
      Arithmetic.rotateRight, Arithmetic.carryIn, Arithmetic.carryTop]
  case jmp => exact traffic_of_jump official does
  case jsr =>
    obtain rfl : mode = .absolute := by simpa [Mnemonic.modes, Mnemonic.encodings] using official
    exact traffic_of_call does
  case bpl | bmi | bvc | bvs | bcc | bcs | bne | beq =>
    obtain rfl : mode = .relative := by simpa [Mnemonic.modes, Mnemonic.encodings] using official
    exact traffic_of_branch (by decide) does
  all_goals obtain rfl := implied rfl
  case rts => exact traffic_of_subroutineReturn does
  case rti => exact traffic_of_interruptReturn does
  case brk => exact traffic_of_softwareInterrupt does
  case pha | php => exact traffic_of_push (by simp [pushed]) does
  case pla | plp => exact traffic_of_pull (by decide) does
  all_goals exact traffic_of_adjust (by decide) does

end

/-! ## The traffic of a step -/

namespace Machine

/-- A halted processor leaves the bus alone. -/
theorem stepAccesses_of_halted {M : Type} [AddressSpace M] {s : Machine M}
    (halted : s.core.halted = true) : s.stepAccesses = [] := by
  have still : s.recorded.step = (.ok 0, s.recorded) := step_of_halted (s := s.recorded) halted
  unfold stepAccesses
  rw [still]
  rfl

/-- **A running processor that meets an official opcode succeeds and makes the documented accesses**,
and they account for all that the step does to the address space. A halted one makes none. -/
theorem traffic_step {M : Type} [AddressSpace M] {s : Machine M} {m : Mnemonic} {mode : Mode}
    (official : (mode, s.nextOpcode) ∈ m.encodings) :
    (s.core.halted = true → s.stepAccesses = []) ∧
      (s.core.halted = false →
        s.step.1 = .ok (cycles m mode) ∧ Replays s.memory s.stepAccesses s.step.2.memory ∧
          ∃ t, s.stepAccesses = .read s.registers.pc s.nextOpcode :: t ∧
            Traffic s.registers m mode t) := by
  refine ⟨stepAccesses_of_halted, fun running => ?_⟩
  obtain ⟨succeeds, t, accesses, does⟩ := does_step running official
  exact ⟨succeeds, s.replays_step, t, accesses, traffic_of_does (mode_mem_modes official) does⟩

/-- Where every byte is `$A1`, the load at `$FFFF` wraps twice: its operand is the byte at `$0000`, and
with X the pointer lies at `$00FF` and `$0000`. -/
theorem traffic_of_wrapping_load :
    let s : Machine FlatMemory :=
      ⟨{ Core.initial with registers := { Registers.initial with x := 0x5E, pc := 0xFFFF } },
        ⟨Bytes.fill 0xA1⟩⟩
    s.step.1 = .ok 6 ∧ s.stepAccesses =
      [.read 0xFFFF 0xA1, .read 0x0000 0xA1, .read 0x00FF 0xA1, .read 0x0000 0xA1,
        .read 0xA1A1 0xA1] := by
  intro s
  have memory : s.memory = ⟨Bytes.fill 0xA1⟩ := rfl
  have running : s.core.halted = false := rfl
  have pc : s.registers.pc = 0xFFFF := rfl
  have x : s.registers.x = 0x5E := rfl
  clear_value s
  have opcode : s.nextOpcode = 0xA1 := by
    rw [nextOpcode_flat, memory, FlatMemory.peek_fill]
  have official : (Mode.indirectX, s.nextOpcode) ∈ Mnemonic.lda.encodings := by
    rw [opcode]
    decide
  obtain ⟨succeeds, replays, t, accesses, traffic⟩ := (traffic_step official).2 running
  refine ⟨succeeds, ?_⟩
  rw [accesses, opcode, memory] at replays
  rw [accesses, opcode, pc]
  cases traffic with
  | readMemory kind place v =>
    cases place with
    | indirectX n low high =>
      simp only [List.cons_append, List.nil_append, Replays, FlatMemory.read_eq,
        FlatMemory.peek_fill] at replays
      obtain ⟨-, rfl, rfl, rfl, rfl, -⟩ := replays
      rw [pc, x]
      decide
  | store kind => simp [stored] at kind
  | replaceMemory place kind => simp [replaced] at kind

end Machine

end Famicom.Processor

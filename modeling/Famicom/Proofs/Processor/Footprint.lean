import Famicom.Proofs.Processor.Conduct
import Famicom.Proofs.Processor.Flags

/-!
# The footprint of an instruction

Besides the program counter an instruction changes the registers and flags of its documentation and no
others. The break and unused bits belong to no instruction: what happens between resets leaves them as
they were.

* `Mnemonic.footprint`: what an instruction may change.
* `covers_of_does`: the rules of conduct change nothing else.
* `Machine.covers_step`: neither does a step, and the live break and unused bits outlast every run.
-/

namespace Famicom.Processor

/-- A register other than the program counter and the status. -/
inductive Register where
  | a
  | x
  | y
  | sp
  deriving DecidableEq, Repr

def Registers.get (r : Registers) : Register → UInt8
  | .a => r.a
  | .x => r.x
  | .y => r.y
  | .sp => r.sp

def Registers.set (r : Registers) (v : UInt8) : Register → Registers
  | .a => { r with a := v }
  | .x => { r with x := v }
  | .y => { r with y := v }
  | .sp => { r with sp := v }

/-- Registers and flags. -/
structure Footprint where
  registers : List Register
  flags : List Flag

/-- What an instruction may change besides the program counter. -/
def Mnemonic.footprint (m : Mnemonic) (mode : Mode) : Footprint :=
  match m with
  | .sta | .stx | .sty | .bpl | .bmi | .bvc | .bvs | .bcc | .bcs | .bne | .beq | .jmp | .nop =>
    ⟨[], []⟩
  | .lda | .txa | .tya | .and | .ora | .eor => ⟨[.a], [.negative, .zero]⟩
  | .ldx | .tax | .tsx | .inx | .dex => ⟨[.x], [.negative, .zero]⟩
  | .ldy | .tay | .iny | .dey => ⟨[.y], [.negative, .zero]⟩
  | .pla => ⟨[.a, .sp], [.negative, .zero]⟩
  | .inc | .dec => ⟨[], [.negative, .zero]⟩
  | .asl | .lsr | .rol | .ror =>
    ⟨if mode = .accumulator then [.a] else [], [.negative, .zero, .carry]⟩
  | .cmp | .cpx | .cpy => ⟨[], [.negative, .zero, .carry]⟩
  | .bit => ⟨[], [.negative, .overflow, .zero]⟩
  | .adc | .sbc => ⟨[.a], [.negative, .zero, .carry, .overflow]⟩
  | .txs | .pha | .php | .jsr | .rts => ⟨[.sp], []⟩
  | .clc | .sec => ⟨[], [.carry]⟩
  | .cli | .sei => ⟨[], [.interruptDisable]⟩
  | .cld | .sed => ⟨[], [.decimal]⟩
  | .clv => ⟨[], [.overflow]⟩
  | .plp | .rti =>
    ⟨[.sp], [.negative, .overflow, .decimal, .interruptDisable, .zero, .carry]⟩
  | .brk => ⟨[.sp], [.interruptDisable]⟩

namespace Footprint

/-- Nothing outside the footprint has changed, apart from the program counter. -/
def Covers (p : Footprint) (before after : Registers) : Prop :=
  (∀ g ∉ p.registers, after.get g = before.get g) ∧ before.status.DiffersIn p.flags after.status

variable {p : Footprint} {r r' r'' : Registers}

/-! ## Single changes -/

theorem Covers.refl (p : Footprint) (r : Registers) : p.Covers r r :=
  ⟨fun _ _ => rfl, Status.differsIn_self _ _⟩

theorem Covers.trans (covers : p.Covers r r') (covers' : p.Covers r' r'') : p.Covers r r'' :=
  ⟨fun g other => (covers'.1 g other).trans (covers.1 g other),
    fun f other => (covers'.2 f other).trans (covers.2 f other)⟩

theorem covers_pc (pc : UInt16) : p.Covers r { r with pc := pc } :=
  ⟨fun g _ => by cases g <;> rfl, Status.differsIn_self _ _⟩

theorem covers_status {s : Status} (flags : r.status.DiffersIn p.flags s) :
    p.Covers r { r with status := s } :=
  ⟨fun g _ => by cases g <;> rfl, flags⟩

/-- A register in the footprint may take any value. -/
theorem covers_set {g : Register} (inside : g ∈ p.registers) (v : UInt8) :
    p.Covers r (r.set v g) := by
  refine ⟨fun other outside => ?_, ?_⟩
  · cases g <;> cases other <;> first | rfl | exact absurd inside outside
  · cases g <;> exact Status.differsIn_self _ _

/-- A register in the footprint may take a value that comes with flags in the footprint. -/
theorem covers_set_status {g : Register} (inside : g ∈ p.registers) (v : UInt8) {s : Status}
    (flags : r.status.DiffersIn p.flags s) : p.Covers r { r.set v g with status := s } := by
  have same : (r.set v g).status = r.status := by
    cases g <;> rfl
  rw [← same] at flags
  exact (covers_set inside v).trans (covers_status flags)

section

variable (results : ∀ s v, Status.DiffersIn p.flags s (s.withResult v))

include results

theorem covers_loadA (inside : .a ∈ p.registers) (v : UInt8) : p.Covers r (r.loadA v) :=
  covers_set_status inside v (results r.status v)

theorem covers_loadX (inside : .x ∈ p.registers) (v : UInt8) : p.Covers r (r.loadX v) :=
  covers_set_status inside v (results r.status v)

theorem covers_loadY (inside : .y ∈ p.registers) (v : UInt8) : p.Covers r (r.loadY v) :=
  covers_set_status inside v (results r.status v)

end

/-- What happens on the stack ends with a new program counter and perhaps with other flags. -/
theorem covers_stack (inside : .sp ∈ p.registers) {s : Status}
    (flags : r.status.DiffersIn p.flags s) (sp : UInt8) (pc : UInt16) :
    p.Covers r { r with sp := sp, pc := pc, status := s } :=
  (covers_set_status inside sp flags).trans (covers_pc pc)

end Footprint

/-! ## The rules stay inside -/

open Footprint Status

section

variable {opcode : UInt8} {mode : Mode} {m : Mnemonic} {r r' : Registers} {t : List Access}
  {p : Footprint}

theorem covers_of_operate {effect : UInt8 → Registers → Registers}
    (inside : ∀ v r, p.Covers r (effect v r))
    (does : (Action.operate effect).Does opcode mode r t r') : p.Covers r r' := by
  cases does with
  | operate operand => exact (covers_pc _).trans (inside _ _)

theorem covers_of_store {value : Registers → UInt8}
    (does : (Action.store value).Does opcode mode r t r') : p.Covers r r' := by
  cases does with
  | store place => exact covers_pc _

theorem covers_of_modify {effect : Status → UInt8 → UInt8 × Status}
    (register : mode = .accumulator → .a ∈ p.registers)
    (flags : ∀ s v, DiffersIn p.flags s (effect s v).2)
    (does : (Action.modify effect).Does opcode mode r t r') : p.Covers r r' := by
  cases does with
  | modifyA accumulator => exact covers_set_status (register accumulator) _ (flags _ _)
  | modify place v => exact (covers_pc _).trans (covers_status (flags _ _))

theorem covers_of_adjust {effect : Registers → Registers} (inside : ∀ r, p.Covers r (effect r))
    (does : (Action.adjust effect).Does opcode mode r t r') : p.Covers r r' := by
  cases does with
  | adjust => exact inside r

theorem covers_of_push {value : Registers → UInt8} (pointer : .sp ∈ p.registers)
    (does : (Action.push value).Does opcode mode r t r') : p.Covers r r' := by
  cases does with
  | push => exact covers_set pointer _

theorem covers_of_pull {effect : UInt8 → Registers → Registers} (pointer : .sp ∈ p.registers)
    (inside : ∀ v r, p.Covers r (effect v r))
    (does : (Action.pull effect).Does opcode mode r t r') : p.Covers r r' := by
  cases does with
  | pull v => exact (covers_set pointer _).trans (inside _ _)

theorem covers_of_branch (does : Action.branch.Does opcode mode r t r') : p.Covers r r' := by
  cases does with
  | branch distance => exact covers_pc _
  | fallThrough distance => exact covers_pc _

theorem covers_of_jump (does : Action.jump.Does opcode mode r t r') : p.Covers r r' := by
  cases does with
  | jump low high => exact covers_pc _
  | jumpIndirect low high targetLow targetHigh => exact covers_pc _

theorem covers_of_call (pointer : .sp ∈ p.registers)
    (does : Action.call.Does opcode mode r t r') : p.Covers r r' := by
  cases does with
  | call low high => exact covers_stack pointer (differsIn_self _ _) _ _

theorem covers_of_subroutineReturn (pointer : .sp ∈ p.registers)
    (does : Action.subroutineReturn.Does opcode mode r t r') : p.Covers r r' := by
  cases does with
  | subroutineReturn low high => exact covers_stack pointer (differsIn_self _ _) _ _

theorem covers_of_interruptReturn (pointer : .sp ∈ p.registers)
    (flags : ∀ s b, DiffersIn p.flags s (s.restore b))
    (does : Action.interruptReturn.Does opcode mode r t r') : p.Covers r r' := by
  cases does with
  | interruptReturn status low high => exact covers_stack pointer (flags _ _) _ _

theorem covers_of_softwareInterrupt (pointer : .sp ∈ p.registers)
    (flags : ∀ s, DiffersIn p.flags s (s.set .interruptDisable true))
    (does : Action.softwareInterrupt.Does opcode mode r t r') : p.Covers r r' := by
  cases does with
  | softwareInterrupt low high => exact covers_stack pointer (flags _) _ _

/-- **The rules of conduct stay inside the footprint.** -/
theorem covers_of_does (official : mode ∈ m.modes) (does : m.action.Does opcode mode r t r') :
    (m.footprint mode).Covers r r' := by
  have results (s : Status) (v : UInt8) := differsIn_withResult s v
  cases m
  case lda | and | ora | eor =>
    exact covers_of_operate (fun v r => covers_loadA results (.head _) _) does
  case ldx =>
    exact covers_of_operate (fun v r => covers_loadX results (.head _) _) does
  case ldy =>
    exact covers_of_operate (fun v r => covers_loadY results (.head _) _) does
  case sta | stx | sty => exact covers_of_store does
  case txa | tya =>
    exact covers_of_adjust (fun r => covers_loadA results (.head _) _) does
  case tax | tsx | inx | dex =>
    exact covers_of_adjust (fun r => covers_loadX results (.head _) _) does
  case tay | iny | dey =>
    exact covers_of_adjust (fun r => covers_loadY results (.head _) _) does
  case txs => exact covers_of_adjust (fun r => covers_set (g := .sp) (.head _) _) does
  case adc | sbc =>
    refine covers_of_operate (fun v r => ?_) does
    exact covers_set_status (g := .a) (.head _) _ (differsIn_add _ _ _)
  case cmp | cpx | cpy =>
    exact covers_of_operate (fun v r => covers_status (differsIn_carry_withResult _ _ _)) does
  case bit => exact covers_of_operate (fun v r => covers_status (differsIn_testBits _ _ _)) does
  case inc | dec =>
    refine covers_of_modify ?_ ?_ does
    · rintro rfl
      exact absurd official (by decide)
    · exact fun s v => results s _
  case asl | lsr | rol | ror =>
    refine covers_of_modify ?_ ?_ does
    · rintro rfl
      exact .head _
    · exact fun s v => differsIn_carry_withResult _ _ _
  case bpl | bmi | bvc | bvs | bcc | bcs | bne | beq => exact covers_of_branch does
  case jmp => exact covers_of_jump does
  case jsr => exact covers_of_call (.head _) does
  case rts => exact covers_of_subroutineReturn (.head _) does
  case rti => exact covers_of_interruptReturn (.head _) (fun s b => differsIn_restore _ _) does
  case brk => exact covers_of_softwareInterrupt (.head _) (fun s => differsIn_set _ _ _) does
  case pha | php => exact covers_of_push (.head _) does
  case pla =>
    refine covers_of_pull (.tail _ (.head _)) (fun v r => ?_) does
    exact covers_loadA results (.head _) _
  case plp =>
    exact covers_of_pull (.head _) (fun v r => covers_status (differsIn_restore _ _)) does
  case clc | sec | cli | sei | cld | sed | clv =>
    exact covers_of_adjust (fun r => covers_status (differsIn_set _ _ _)) does
  case nop => exact covers_of_adjust (fun r => .refl _ _) does

/-- A software interrupt ends with interrupts disabled. -/
theorem interruptDisable_of_does (does : Action.softwareInterrupt.Does opcode mode r t r') :
    r'.status.get .interruptDisable = true := by
  cases does with
  | softwareInterrupt low high => simp

end

/-! ## Break and unused -/

/-- The live break and unused bits. -/
def Status.live (s : Status) : Bool × Bool := (s.get .break, s.get .unused)

theorem Status.DiffersIn.live {fs : List Flag} {s s' : Status} (differs : DiffersIn fs s s')
    (noBreak : .break ∉ fs) (noUnused : .unused ∉ fs) : s'.live = s.live :=
  Prod.ext (differs _ noBreak) (differs _ noUnused)

theorem live_set_interruptDisable (s : Status) (on : Bool) :
    (s.set .interruptDisable on).live = s.live :=
  (differsIn_set _ s on).live (by decide) (by decide)

/-- No instruction has break or unused in its footprint. -/
theorem live_of_covers {m : Mnemonic} {mode : Mode} {r r' : Registers}
    (covers : (m.footprint mode).Covers r r') : r'.status.live = r.status.live := by
  apply covers.2.live
  · cases m <;> simp [Mnemonic.footprint]
  · cases m <;> simp [Mnemonic.footprint]

/-- What can happen to a machine. The other side of the address space may change, and the registers
may be changed from outside. -/
inductive Move (M : Type) where
  | step
  | nmi
  | irq
  | reset
  | toggleHalt
  | elsewhere (f : M → M)
  | update (f : Registers → Registers)

/-- The move neither resets the processor nor writes to its status directly. -/
def Move.SparesStatus {M : Type} : Move M → Prop
  | .reset => False
  | .update f => ∀ r, (f r).status = r.status
  | _ => True

namespace Machine

variable {M : Type} [AddressSpace M]

def move (s : Machine M) : Move M → Machine M
  | .step => s.step.2
  | .nmi => s.nmi.2
  | .irq => s.irq.2
  | .reset => s.reset
  | .toggleHalt => s.toggleHalt
  | .elsewhere f => { s with memory := f s.memory }
  | .update f => s.update f

def moveAll (s : Machine M) (ms : List (Move M)) : Machine M := ms.foldl move s

theorem covers_of_step {s : Machine M} (running : s.core.halted = false) {m : Mnemonic}
    {mode : Mode} (official : (mode, s.nextOpcode) ∈ m.encodings) :
    (m.footprint mode).Covers s.registers s.step.2.registers := by
  obtain ⟨-, t, -, does⟩ := does_step running official
  exact (covers_pc _).trans (covers_of_does (mode_mem_modes official) does)

theorem live_step (s : Machine M) : s.step.2.registers.status.live = s.registers.status.live := by
  cases halted : s.core.halted with
  | true => rw [step_of_halted halted]
  | false =>
    cases decoded : decode s.nextOpcode with
    | none =>
      rw [step_of_running halted, decoded]
      rfl
    | some i => exact live_of_covers (covers_of_step halted (mem_encodings_of_decode decoded))

theorem live_enterInterrupt (s : Machine M) (vector : UInt16) (fromInstruction : Bool) :
    (s.enterInterrupt vector fromInstruction).registers.status.live = s.registers.status.live :=
  live_set_interruptDisable s.registers.status true

theorem live_irq (s : Machine M) : s.irq.2.registers.status.live = s.registers.status.live := by
  unfold irq
  split
  · rfl
  · exact live_enterInterrupt (s.note _) irqVector false

/-- No move that spares the status changes the live bits. -/
theorem live_move (s : Machine M) (m : Move M) (spares : m.SparesStatus) :
    (s.move m).registers.status.live = s.registers.status.live := by
  cases m with
  | step => exact s.live_step
  | nmi => exact live_enterInterrupt (s.note _) nmiVector false
  | irq => exact s.live_irq
  | reset => exact spares.elim
  | toggleHalt => rfl
  | elsewhere f => rfl
  | update f => exact congrArg Status.live (spares s.registers)

theorem live_moveAll (s : Machine M) (ms : List (Move M)) (spare : ∀ m ∈ ms, m.SparesStatus) :
    (s.moveAll ms).registers.status.live = s.registers.status.live := by
  induction ms generalizing s with
  | nil => rfl
  | cons m ms ih =>
    obtain ⟨first, rest⟩ := List.forall_mem_cons.mp spare
    exact (ih (s.move m) rest).trans (s.live_move m first)

/-! ## The footprint of a step -/

/-- **A running processor that meets an official opcode changes the program counter and its footprint
only**, and BRK disables interrupts. No step, interrupt or run changes the live break and unused bits,
unless there is a reset in it or a direct write to the status. -/
theorem covers_step (s : Machine M) :
    (∀ m mode, s.core.halted = false → (mode, s.nextOpcode) ∈ Mnemonic.encodings m →
      s.step.1 = .ok (cycles m mode) ∧ (m.footprint mode).Covers s.registers s.step.2.registers ∧
        (m = .brk → s.step.2.registers.status.get .interruptDisable = true)) ∧
      ∀ ms : List (Move M), (∀ m ∈ ms, m.SparesStatus) →
        (s.moveAll ms).registers.status.live = s.registers.status.live := by
  refine ⟨fun m mode running official => ?_, s.live_moveAll⟩
  obtain ⟨succeeds, t, -, does⟩ := does_step running official
  refine ⟨succeeds, covers_of_step running official, ?_⟩
  rintro rfl
  exact interruptDisable_of_does does

/-- A processor with break on that meets BRK. -/
theorem covers_first_break :
    let s : Machine FlatMemory :=
      ⟨{ Core.initial with registers := { Registers.initial with status := ⟨0x10⟩ } },
        ⟨Bytes.fill 0x00⟩⟩
    (Mnemonic.brk.footprint .implied).Covers s.registers s.step.2.registers ∧
      s.step.2.registers.status.get .interruptDisable = true ∧
      (s.moveAll [.step, .nmi, .toggleHalt, .irq]).registers.status.live = (true, false) := by
  intro s
  have opcode : s.nextOpcode = 0x00 := by
    rw [nextOpcode_flat, FlatMemory.peek_fill]
  have official : (Mode.implied, s.nextOpcode) ∈ Mnemonic.brk.encodings := by
    rw [opcode]
    decide
  obtain ⟨-, covers, disables⟩ := (covers_step s).1 .brk .implied rfl official
  have before : Status.live ⟨0x10⟩ = (true, false) := by decide
  have after := (covers_step s).2 [.step, .nmi, .toggleHalt, .irq] (by simp [Move.SparesStatus])
  exact ⟨covers, disables rfl, after.trans before⟩

end Machine

end Famicom.Processor

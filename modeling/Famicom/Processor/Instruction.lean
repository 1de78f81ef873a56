import Famicom.Processor.Registers

/-!
# The official instruction set

An opcode byte is either one of the single opcodes or splits as `aaabbbcc` into an operation `aaa`,
an addressing mode `bbb` and a group `cc`. `decode` covers the 151 official opcodes and refuses the
rest. The cost of an instruction depends on how it uses its operand and on the addressing mode;
taken branches and crossed pages add nothing.

A fault carries the opcode and the registers as they were when it was fetched, so the program
counter points at the opcode.
-/

namespace Famicom.Processor

/-! ## Opcodes -/

inductive Mnemonic where
  | adc | and | asl | bcc | bcs | beq | bit | bmi | bne | bpl | brk | bvc | bvs | clc
  | cld | cli | clv | cmp | cpx | cpy | dec | dex | dey | eor | inc | inx | iny | jmp
  | jsr | lda | ldx | ldy | lsr | nop | ora | pha | php | pla | plp | rol | ror | rti
  | rts | sbc | sec | sed | sei | sta | stx | sty | tax | tay | tsx | txa | txs | tya
  deriving DecidableEq, Repr

def Mnemonic.name : Mnemonic → String
  | .adc => "ADC" | .and => "AND" | .asl => "ASL" | .bcc => "BCC" | .bcs => "BCS"
  | .beq => "BEQ" | .bit => "BIT" | .bmi => "BMI" | .bne => "BNE" | .bpl => "BPL"
  | .brk => "BRK" | .bvc => "BVC" | .bvs => "BVS" | .clc => "CLC" | .cld => "CLD"
  | .cli => "CLI" | .clv => "CLV" | .cmp => "CMP" | .cpx => "CPX" | .cpy => "CPY"
  | .dec => "DEC" | .dex => "DEX" | .dey => "DEY" | .eor => "EOR" | .inc => "INC"
  | .inx => "INX" | .iny => "INY" | .jmp => "JMP" | .jsr => "JSR" | .lda => "LDA"
  | .ldx => "LDX" | .ldy => "LDY" | .lsr => "LSR" | .nop => "NOP" | .ora => "ORA"
  | .pha => "PHA" | .php => "PHP" | .pla => "PLA" | .plp => "PLP" | .rol => "ROL"
  | .ror => "ROR" | .rti => "RTI" | .rts => "RTS" | .sbc => "SBC" | .sec => "SEC"
  | .sed => "SED" | .sei => "SEI" | .sta => "STA" | .stx => "STX" | .sty => "STY"
  | .tax => "TAX" | .tay => "TAY" | .tsx => "TSX" | .txa => "TXA" | .txs => "TXS"
  | .tya => "TYA"

/-- How an instruction finds its operand. Only jumps are `indirect`; a pointer in page zero is
indexed before it is followed in `indirectX`, and after it is followed in `indirectY`. -/
inductive Mode where
  | implied
  | accumulator
  | immediate
  | zeroPage
  | zeroPageX
  | zeroPageY
  | absolute
  | absoluteX
  | absoluteY
  | indirect
  | indirectX
  | indirectY
  | relative
  deriving DecidableEq, Repr

def Mode.name : Mode → String
  | .implied => "Implied"
  | .accumulator => "Accumulator"
  | .immediate => "Immediate"
  | .zeroPage => "ZeroPage"
  | .zeroPageX => "ZeroPageX"
  | .zeroPageY => "ZeroPageY"
  | .absolute => "Absolute"
  | .absoluteX => "AbsoluteX"
  | .absoluteY => "AbsoluteY"
  | .indirect => "Indirect"
  | .indirectX => "IndirectX"
  | .indirectY => "IndirectY"
  | .relative => "Relative"

/-- What an instruction does with its operand. -/
inductive Usage where
  | read
  | write
  | modify
  deriving DecidableEq, Repr

def Mnemonic.usage : Mnemonic → Usage
  | .sta | .stx | .sty => .write
  | .asl | .lsr | .rol | .ror | .inc | .dec => .modify
  | _ => .read

/-- Cycles of an instruction that uses its operand, by addressing mode. -/
def Mode.cycles : Mode → Usage → Nat
  | .zeroPage, .modify => 5
  | .zeroPage, _ => 3
  | .zeroPageX, .modify => 6
  | .zeroPageX, _ => 4
  | .zeroPageY, _ => 4
  | .absolute, .modify => 6
  | .absolute, _ => 4
  | .absoluteX, .modify => 7
  | .absoluteX, .write => 5
  | .absoluteX, .read => 4
  | .absoluteY, .read => 4
  | .absoluteY, _ => 5
  | .indirect, _ => 5
  | .indirectX, _ => 6
  | .indirectY, .read => 5
  | .indirectY, _ => 6
  | _, _ => 2

/-- Cycles of an instruction. -/
def cycles (mnemonic : Mnemonic) (mode : Mode) : Nat :=
  match mnemonic with
  | .brk => 7
  | .jsr | .rti | .rts => 6
  | .pla | .plp => 4
  | .pha | .php => 3
  | .jmp => if mode = .indirect then 5 else 3
  | m => mode.cycles m.usage

/-- A decoded opcode. -/
structure Instruction where
  mnemonic : Mnemonic
  mode : Mode
  deriving DecidableEq, Repr

def Instruction.cycles (i : Instruction) : Nat := Processor.cycles i.mnemonic i.mode

/-- The opcodes that stand alone. -/
def single : UInt8 → Option Instruction
  | 0x00 => some ⟨.brk, .implied⟩
  | 0x20 => some ⟨.jsr, .absolute⟩
  | 0x40 => some ⟨.rti, .implied⟩
  | 0x60 => some ⟨.rts, .implied⟩
  | 0x08 => some ⟨.php, .implied⟩
  | 0x28 => some ⟨.plp, .implied⟩
  | 0x48 => some ⟨.pha, .implied⟩
  | 0x68 => some ⟨.pla, .implied⟩
  | 0x88 => some ⟨.dey, .implied⟩
  | 0xA8 => some ⟨.tay, .implied⟩
  | 0xC8 => some ⟨.iny, .implied⟩
  | 0xE8 => some ⟨.inx, .implied⟩
  | 0x18 => some ⟨.clc, .implied⟩
  | 0x38 => some ⟨.sec, .implied⟩
  | 0x58 => some ⟨.cli, .implied⟩
  | 0x78 => some ⟨.sei, .implied⟩
  | 0x98 => some ⟨.tya, .implied⟩
  | 0xB8 => some ⟨.clv, .implied⟩
  | 0xD8 => some ⟨.cld, .implied⟩
  | 0xF8 => some ⟨.sed, .implied⟩
  | 0x8A => some ⟨.txa, .implied⟩
  | 0x9A => some ⟨.txs, .implied⟩
  | 0xAA => some ⟨.tax, .implied⟩
  | 0xBA => some ⟨.tsx, .implied⟩
  | 0xCA => some ⟨.dex, .implied⟩
  | 0xEA => some ⟨.nop, .implied⟩
  | 0x4C => some ⟨.jmp, .absolute⟩
  | 0x6C => some ⟨.jmp, .indirect⟩
  | _ => none

/-- The operation field of an opcode. -/
def operationField (opcode : UInt8) : UInt8 := opcode >>> 5

/-- The addressing field of an opcode. -/
def addressField (opcode : UInt8) : UInt8 := (opcode >>> 2) &&& 7

/-- Arithmetic and logic on the accumulator; only an immediate store is missing. -/
def accumulatorGroup (opcode : UInt8) : Option Instruction :=
  let mnemonic : Mnemonic := match operationField opcode with
    | 0 => .ora
    | 1 => .and
    | 2 => .eor
    | 3 => .adc
    | 4 => .sta
    | 5 => .lda
    | 6 => .cmp
    | _ => .sbc
  let mode : Mode := match addressField opcode with
    | 0 => .indirectX
    | 1 => .zeroPage
    | 2 => .immediate
    | 3 => .absolute
    | 4 => .indirectY
    | 5 => .zeroPageX
    | 6 => .absoluteY
    | _ => .absoluteX
  if mnemonic = .sta ∧ mode = .immediate then none else some ⟨mnemonic, mode⟩

/-- Shifts, steps and the X register. `STX` and `LDX` index with Y where the others index
with X. -/
def shiftGroup (opcode : UInt8) : Option Instruction :=
  let mnemonic : Mnemonic := match operationField opcode with
    | 0 => .asl
    | 1 => .rol
    | 2 => .lsr
    | 3 => .ror
    | 4 => .stx
    | 5 => .ldx
    | 6 => .dec
    | _ => .inc
  match mnemonic, addressField opcode with
  | .ldx, 0 => some ⟨.ldx, .immediate⟩
  | m, 1 => some ⟨m, .zeroPage⟩
  | .asl, 2 => some ⟨.asl, .accumulator⟩
  | .rol, 2 => some ⟨.rol, .accumulator⟩
  | .lsr, 2 => some ⟨.lsr, .accumulator⟩
  | .ror, 2 => some ⟨.ror, .accumulator⟩
  | m, 3 => some ⟨m, .absolute⟩
  | .stx, 5 => some ⟨.stx, .zeroPageY⟩
  | .ldx, 5 => some ⟨.ldx, .zeroPageY⟩
  | m, 5 => some ⟨m, .zeroPageX⟩
  | .stx, 7 => none
  | .ldx, 7 => some ⟨.ldx, .absoluteY⟩
  | m, 7 => some ⟨m, .absoluteX⟩
  | _, _ => none

/-- The conditional branch with the given operation field. -/
def branch (operation : UInt8) : Mnemonic :=
  match operation with
  | 0 => .bpl
  | 1 => .bmi
  | 2 => .bvc
  | 3 => .bvs
  | 4 => .bcc
  | 5 => .bcs
  | 6 => .bne
  | _ => .beq

/-- Branches, the bit test and the Y register with its comparisons. -/
def controlGroup (opcode : UInt8) : Option Instruction :=
  match operationField opcode, addressField opcode with
  | a, 4 => some ⟨branch a, .relative⟩
  | 1, 1 => some ⟨.bit, .zeroPage⟩
  | 1, 3 => some ⟨.bit, .absolute⟩
  | 4, 1 => some ⟨.sty, .zeroPage⟩
  | 4, 3 => some ⟨.sty, .absolute⟩
  | 4, 5 => some ⟨.sty, .zeroPageX⟩
  | 5, 0 => some ⟨.ldy, .immediate⟩
  | 5, 1 => some ⟨.ldy, .zeroPage⟩
  | 5, 3 => some ⟨.ldy, .absolute⟩
  | 5, 5 => some ⟨.ldy, .zeroPageX⟩
  | 5, 7 => some ⟨.ldy, .absoluteX⟩
  | 6, 0 => some ⟨.cpy, .immediate⟩
  | 6, 1 => some ⟨.cpy, .zeroPage⟩
  | 6, 3 => some ⟨.cpy, .absolute⟩
  | 7, 0 => some ⟨.cpx, .immediate⟩
  | 7, 1 => some ⟨.cpx, .zeroPage⟩
  | 7, 3 => some ⟨.cpx, .absolute⟩
  | _, _ => none

/-- The instruction that an opcode byte encodes, if it is an official one. -/
def decode (opcode : UInt8) : Option Instruction :=
  match single opcode with
  | some i => some i
  | none =>
    match opcode &&& 3 with
    | 0 => controlGroup opcode
    | 1 => accumulatorGroup opcode
    | 2 => shiftGroup opcode
    | _ => none

/-! ## Faults -/

open Text

/-- The byte is no official opcode; or the instruction stores, and its addressing mode yields no
address; or its addressing mode names no operand. -/
inductive Fault where
  | unknownOpcode (opcode : UInt8) (registers : Registers)
  | missingAddress (opcode : UInt8) (mode : Mode) (registers : Registers)
  | unsupportedMode (opcode : UInt8) (mode : Mode) (registers : Registers)
  deriving DecidableEq, Repr

namespace Fault

def registers : Fault → Registers
  | .unknownOpcode _ r | .missingAddress _ _ r | .unsupportedMode _ _ r => r

def message : Fault → String
  | .unknownOpcode opcode r =>
    "Unknown opcode 0x" ++ Hexadecimal.byte opcode ++ " at $" ++ Hexadecimal.word r.pc ++
      " (" ++ r.describe ++ ")"
  | .missingAddress opcode mode r =>
    "Opcode 0x" ++ Hexadecimal.byte opcode ++ " at $" ++ Hexadecimal.word r.pc ++
      " needs an address but " ++ mode.name ++ " yields none (" ++ r.describe ++ ")"
  | .unsupportedMode opcode mode r =>
    "Addressing mode " ++ mode.name ++ " cannot be resolved for opcode 0x" ++
      Hexadecimal.byte opcode ++ " at $" ++ Hexadecimal.word r.pc ++ " (" ++ r.describe ++ ")"

end Fault

end Famicom.Processor

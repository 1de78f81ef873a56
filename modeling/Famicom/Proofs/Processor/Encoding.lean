import Famicom.Processor.Action

/-!
# The official encodings

The table of the instruction set, by mnemonic, against which the decoder is checked: the decoder works
on the bit fields of an opcode and knows its exceptions.

* `decode_eq_some_iff`: the decoder accepts exactly the official opcodes and reads them as the table
  does.
* `takes_of_mem_modes`: every instruction can use its operand.
-/

namespace Famicom.Processor

/-- The opcodes of a mnemonic, by addressing mode. -/
def Mnemonic.encodings : Mnemonic → List (Mode × UInt8)
  | .adc => [(.immediate, 0x69), (.zeroPage, 0x65), (.zeroPageX, 0x75), (.absolute, 0x6D),
      (.absoluteX, 0x7D), (.absoluteY, 0x79), (.indirectX, 0x61), (.indirectY, 0x71)]
  | .and => [(.immediate, 0x29), (.zeroPage, 0x25), (.zeroPageX, 0x35), (.absolute, 0x2D),
      (.absoluteX, 0x3D), (.absoluteY, 0x39), (.indirectX, 0x21), (.indirectY, 0x31)]
  | .asl => [(.accumulator, 0x0A), (.zeroPage, 0x06), (.zeroPageX, 0x16), (.absolute, 0x0E),
      (.absoluteX, 0x1E)]
  | .bcc => [(.relative, 0x90)]
  | .bcs => [(.relative, 0xB0)]
  | .beq => [(.relative, 0xF0)]
  | .bit => [(.zeroPage, 0x24), (.absolute, 0x2C)]
  | .bmi => [(.relative, 0x30)]
  | .bne => [(.relative, 0xD0)]
  | .bpl => [(.relative, 0x10)]
  | .brk => [(.implied, 0x00)]
  | .bvc => [(.relative, 0x50)]
  | .bvs => [(.relative, 0x70)]
  | .clc => [(.implied, 0x18)]
  | .cld => [(.implied, 0xD8)]
  | .cli => [(.implied, 0x58)]
  | .clv => [(.implied, 0xB8)]
  | .cmp => [(.immediate, 0xC9), (.zeroPage, 0xC5), (.zeroPageX, 0xD5), (.absolute, 0xCD),
      (.absoluteX, 0xDD), (.absoluteY, 0xD9), (.indirectX, 0xC1), (.indirectY, 0xD1)]
  | .cpx => [(.immediate, 0xE0), (.zeroPage, 0xE4), (.absolute, 0xEC)]
  | .cpy => [(.immediate, 0xC0), (.zeroPage, 0xC4), (.absolute, 0xCC)]
  | .dec => [(.zeroPage, 0xC6), (.zeroPageX, 0xD6), (.absolute, 0xCE), (.absoluteX, 0xDE)]
  | .dex => [(.implied, 0xCA)]
  | .dey => [(.implied, 0x88)]
  | .eor => [(.immediate, 0x49), (.zeroPage, 0x45), (.zeroPageX, 0x55), (.absolute, 0x4D),
      (.absoluteX, 0x5D), (.absoluteY, 0x59), (.indirectX, 0x41), (.indirectY, 0x51)]
  | .inc => [(.zeroPage, 0xE6), (.zeroPageX, 0xF6), (.absolute, 0xEE), (.absoluteX, 0xFE)]
  | .inx => [(.implied, 0xE8)]
  | .iny => [(.implied, 0xC8)]
  | .jmp => [(.absolute, 0x4C), (.indirect, 0x6C)]
  | .jsr => [(.absolute, 0x20)]
  | .lda => [(.immediate, 0xA9), (.zeroPage, 0xA5), (.zeroPageX, 0xB5), (.absolute, 0xAD),
      (.absoluteX, 0xBD), (.absoluteY, 0xB9), (.indirectX, 0xA1), (.indirectY, 0xB1)]
  | .ldx => [(.immediate, 0xA2), (.zeroPage, 0xA6), (.zeroPageY, 0xB6), (.absolute, 0xAE),
      (.absoluteY, 0xBE)]
  | .ldy => [(.immediate, 0xA0), (.zeroPage, 0xA4), (.zeroPageX, 0xB4), (.absolute, 0xAC),
      (.absoluteX, 0xBC)]
  | .lsr => [(.accumulator, 0x4A), (.zeroPage, 0x46), (.zeroPageX, 0x56), (.absolute, 0x4E),
      (.absoluteX, 0x5E)]
  | .nop => [(.implied, 0xEA)]
  | .ora => [(.immediate, 0x09), (.zeroPage, 0x05), (.zeroPageX, 0x15), (.absolute, 0x0D),
      (.absoluteX, 0x1D), (.absoluteY, 0x19), (.indirectX, 0x01), (.indirectY, 0x11)]
  | .pha => [(.implied, 0x48)]
  | .php => [(.implied, 0x08)]
  | .pla => [(.implied, 0x68)]
  | .plp => [(.implied, 0x28)]
  | .rol => [(.accumulator, 0x2A), (.zeroPage, 0x26), (.zeroPageX, 0x36), (.absolute, 0x2E),
      (.absoluteX, 0x3E)]
  | .ror => [(.accumulator, 0x6A), (.zeroPage, 0x66), (.zeroPageX, 0x76), (.absolute, 0x6E),
      (.absoluteX, 0x7E)]
  | .rti => [(.implied, 0x40)]
  | .rts => [(.implied, 0x60)]
  | .sbc => [(.immediate, 0xE9), (.zeroPage, 0xE5), (.zeroPageX, 0xF5), (.absolute, 0xED),
      (.absoluteX, 0xFD), (.absoluteY, 0xF9), (.indirectX, 0xE1), (.indirectY, 0xF1)]
  | .sec => [(.implied, 0x38)]
  | .sed => [(.implied, 0xF8)]
  | .sei => [(.implied, 0x78)]
  | .sta => [(.zeroPage, 0x85), (.zeroPageX, 0x95), (.absolute, 0x8D), (.absoluteX, 0x9D),
      (.absoluteY, 0x99), (.indirectX, 0x81), (.indirectY, 0x91)]
  | .stx => [(.zeroPage, 0x86), (.zeroPageY, 0x96), (.absolute, 0x8E)]
  | .sty => [(.zeroPage, 0x84), (.zeroPageX, 0x94), (.absolute, 0x8C)]
  | .tax => [(.implied, 0xAA)]
  | .tay => [(.implied, 0xA8)]
  | .tsx => [(.implied, 0xBA)]
  | .txa => [(.implied, 0x8A)]
  | .txs => [(.implied, 0x9A)]
  | .tya => [(.implied, 0x98)]

/-- The decoder reads every opcode of the table as the table does. -/
theorem decode_of_mem_encodings {m : Mnemonic} {mode : Mode} {opcode : UInt8}
    (official : (mode, opcode) ∈ m.encodings) : decode opcode = some ⟨m, mode⟩ := by
  have table : ∀ e ∈ m.encodings, decode e.2 = some ⟨m, e.1⟩ := by
    cases m <;> decide +kernel
  exact table (mode, opcode) official

/-- The decoder accepts no other opcode. -/
theorem mem_encodings_of_decode {i : Instruction} {opcode : UInt8}
    (accepted : decode opcode = some i) : (i.mode, opcode) ∈ i.mnemonic.encodings := by
  have table : ∀ n : Fin 256, ∀ i ∈ decode (UInt8.ofFin n),
      (i.mode, UInt8.ofFin n) ∈ i.mnemonic.encodings := by
    decide +kernel
  exact table opcode.toFin i accepted

/-- **The decoder accepts exactly the official opcodes.** -/
theorem decode_eq_some_iff {m : Mnemonic} {mode : Mode} {opcode : UInt8} :
    decode opcode = some ⟨m, mode⟩ ↔ (mode, opcode) ∈ m.encodings :=
  ⟨mem_encodings_of_decode, decode_of_mem_encodings⟩

/-- The addressing modes of a mnemonic. -/
def Mnemonic.modes (m : Mnemonic) : List Mode := m.encodings.map Prod.fst

theorem mode_mem_modes {m : Mnemonic} {mode : Mode} {opcode : UInt8}
    (official : (mode, opcode) ∈ m.encodings) : mode ∈ m.modes :=
  List.mem_map_of_mem official

/-- Whether the operand is a place in memory. -/
def Mode.inMemory : Mode → Bool
  | .zeroPage | .zeroPageX | .zeroPageY | .absolute | .absoluteX | .absoluteY | .indirectX
  | .indirectY => true
  | _ => false

/-- Whether an action can use the operand of an addressing mode. -/
def Action.takes : Action → Mode → Bool
  | .operate _, mode => mode = .immediate || mode.inMemory
  | .store _, mode => mode.inMemory
  | .modify _, mode => mode = .accumulator || mode.inMemory
  | _, _ => true

/-- Every mnemonic can use the operands of its addressing modes. -/
theorem takes_of_mem_modes {m : Mnemonic} {mode : Mode} (official : mode ∈ m.modes) :
    m.action.takes mode = true := by
  have table : ∀ mode ∈ m.modes, m.action.takes mode = true := by
    cases m <;> decide
  exact table mode official

end Famicom.Processor

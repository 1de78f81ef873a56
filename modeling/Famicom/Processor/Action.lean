import Famicom.Processor.Instruction

/-!
# What the instructions do

Each mnemonic has one action: a function on the registers, together with the way it touches memory.
How the operand is found is left to the addressing mode.
-/

namespace Famicom.Processor

/-- Takes a value and changes registers (`operate`), stores a register, replaces its operand
(`modify`), changes registers only (`adjust`), uses the stack, or decides where the program goes on.
-/
inductive Action where
  | operate (effect : UInt8 → Registers → Registers)
  | store (value : Registers → UInt8)
  | modify (effect : Status → UInt8 → UInt8 × Status)
  | adjust (effect : Registers → Registers)
  | push (value : Registers → UInt8)
  | pull (effect : UInt8 → Registers → Registers)
  | branch
  | jump
  | call
  | subroutineReturn
  | interruptReturn
  | softwareInterrupt

namespace Registers

/-- Stores a result in the accumulator. -/
def loadA (r : Registers) (v : UInt8) : Registers :=
  { r with a := v, status := r.status.withResult v }

/-- Stores a result in the X register. -/
def loadX (r : Registers) (v : UInt8) : Registers :=
  { r with x := v, status := r.status.withResult v }

/-- Stores a result in the Y register. -/
def loadY (r : Registers) (v : UInt8) : Registers :=
  { r with y := v, status := r.status.withResult v }

def setFlag (r : Registers) (f : Flag) (on : Bool) : Registers :=
  { r with status := r.status.set f on }

/-- Accumulator and status after an arithmetic operation. -/
def accumulate (r : Registers) (result : UInt8 × Status) : Registers :=
  { r with a := result.1, status := result.2 }

end Registers

/-- The action of a mnemonic. -/
def Mnemonic.action : Mnemonic → Action
  | .lda => .operate fun v r => r.loadA v
  | .ldx => .operate fun v r => r.loadX v
  | .ldy => .operate fun v r => r.loadY v
  | .sta => .store (·.a)
  | .stx => .store (·.x)
  | .sty => .store (·.y)
  | .tax => .adjust fun r => r.loadX r.a
  | .tay => .adjust fun r => r.loadY r.a
  | .tsx => .adjust fun r => r.loadX r.sp
  | .txa => .adjust fun r => r.loadA r.x
  | .txs => .adjust fun r => { r with sp := r.x }
  | .tya => .adjust fun r => r.loadA r.y
  | .adc => .operate fun v r => r.accumulate (Arithmetic.add r.status r.a v)
  | .sbc => .operate fun v r => r.accumulate (Arithmetic.subtract r.status r.a v)
  | .and => .operate fun v r => r.loadA (r.a &&& v)
  | .ora => .operate fun v r => r.loadA (r.a ||| v)
  | .eor => .operate fun v r => r.loadA (r.a ^^^ v)
  | .cmp => .operate fun v r => { r with status := Arithmetic.compare r.status r.a v }
  | .cpx => .operate fun v r => { r with status := Arithmetic.compare r.status r.x v }
  | .cpy => .operate fun v r => { r with status := Arithmetic.compare r.status r.y v }
  | .bit => .operate fun v r => { r with status := Arithmetic.testBits r.status r.a v }
  | .inc => .modify Arithmetic.increment
  | .dec => .modify Arithmetic.decrement
  | .inx => .adjust fun r => r.loadX (r.x + 1)
  | .iny => .adjust fun r => r.loadY (r.y + 1)
  | .dex => .adjust fun r => r.loadX (r.x - 1)
  | .dey => .adjust fun r => r.loadY (r.y - 1)
  | .asl => .modify Arithmetic.shiftLeft
  | .lsr => .modify Arithmetic.shiftRight
  | .rol => .modify Arithmetic.rotateLeft
  | .ror => .modify Arithmetic.rotateRight
  | .bpl | .bmi | .bvc | .bvs | .bcc | .bcs | .bne | .beq => .branch
  | .jmp => .jump
  | .jsr => .call
  | .rts => .subroutineReturn
  | .rti => .interruptReturn
  | .brk => .softwareInterrupt
  | .pha => .push (·.a)
  | .php => .push (·.status.pushed true)
  | .pla => .pull fun v r => r.loadA v
  | .plp => .pull fun v r => { r with status := r.status.restore v }
  | .clc => .adjust fun r => r.setFlag .carry false
  | .sec => .adjust fun r => r.setFlag .carry true
  | .cli => .adjust fun r => r.setFlag .interruptDisable false
  | .sei => .adjust fun r => r.setFlag .interruptDisable true
  | .cld => .adjust fun r => r.setFlag .decimal false
  | .sed => .adjust fun r => r.setFlag .decimal true
  | .clv => .adjust fun r => r.setFlag .overflow false
  | .nop => .adjust id

end Famicom.Processor

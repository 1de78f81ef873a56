import Famicom.Proofs.Bus.Storage
import Famicom.Proofs.Processor.Retracing
import Famicom.Proofs.Processor.Traffic

/-!
# Plain addresses

At an address that is neither a device nor a repetition of another one the bus is plain storage, and
the program behaves like storage that nothing writes to. A run that keeps to such addresses cannot
tell the console from flat memory.

* `Bus.Plain`: the addresses.
* `Bus.replays_of_flat`: accesses that keep to them do the same on both sides.
* `Bus.simulates_flat`: so does a run of the processor.
-/

namespace Famicom

open Processor

namespace Bus

/-- Work memory before it repeats, the storage between the devices and the program, and the
program. -/
def Plain (address : UInt16) : Prop :=
  address < 0x0800 ∨
    0x4000 ≤ address ∧ address < 0x8000 ∧ address ≠ spriteTransferAddress ∧
      address ≠ joypadAddress ∨
    0x8000 ≤ address

instance (address : UInt16) : Decidable (Plain address) := inferInstanceAs (Decidable (_ ∨ _))

/-- The access is at a plain address, and does not write to the program. -/
def KeepsToPlain : Access → Prop
  | .read address _ => Plain address
  | .write address _ => Plain address ∧ address < 0x8000

/-! ## Plain addresses as numbers -/

theorem plain_iff {a : UInt16} :
    Plain a ↔
      a.toNat < 0x0800 ∨
        0x4000 ≤ a.toNat ∧ a.toNat < 0x8000 ∧ a.toNat ≠ 0x4014 ∧ a.toNat ≠ 0x4016 ∨
        0x8000 ≤ a.toNat := by
  simp only [Plain, UInt16.lt_iff_toNat_lt, UInt16.le_iff_toNat_le, ne_eq, ← UInt16.toNat_inj]
  rfl

theorem not_device_of_plain {a : UInt16} (plain : Plain a) : Region.of a ≠ .device := by
  rw [plain_iff] at plain
  rw [ne_eq, region_eq_device_iff]
  omega

theorem memory_of_plain {a : UInt16} (plain : Plain a) (low : a < 0x8000) :
    Region.of a = .memory := by
  have below : a.toNat < 0x8000 := UInt16.lt_iff_toNat_lt.mp low
  rw [plain_iff] at plain
  rw [region_eq_memory_iff]
  omega

/-- No two plain addresses name the same place. -/
theorem samePlace_iff_of_plain {a other : UInt16} (plain : Plain a) (plain' : Plain other) :
    SamePlace a other ↔ other = a := by
  rw [plain_iff] at plain plain'
  rw [samePlace_iff, ← UInt16.toNat_inj]
  omega

/-! ## Accesses -/

/-- The bus shows what flat memory holds, at every plain address. -/
def Shares (b : Bus) (m : FlatMemory) : Prop := ∀ a, Plain a → b.peek a = m.peek a

variable {b : Bus} {m m' : FlatMemory}

/-- A write to plain memory shows at its own address, on both sides. -/
theorem shares_write (same : b.Shares m) {a : UInt16} (plain : Plain a) (low : a < 0x8000)
    (v : UInt8) : (b.write a v).Shares (m.poke a v) := by
  intro other plain'
  change (b.act (.write a v)).peek other = _
  rw [FlatMemory.peek_poke]
  by_cases memory : Region.of other = .memory
  · rw [b.peek_act_of_memory memory, Act.stored?]
    simp only [samePlace_iff_of_plain plain' plain]
    split
    · rfl
    · exact same other plain'
  · have apart : a ≠ other := by
      rintro rfl
      exact memory (memory_of_plain plain low)
    rw [b.peek_act_of_not_memory memory, if_neg apart]
    exact same other plain'

/-- Accesses that keep to plain addresses lead to memories that are the same there, and change nothing
of the console but its storage. -/
theorem replays_of_flat {t : List Access} (same : b.Shares m) (flat : Machine.Replays m t m')
    (plain : ∀ x ∈ t, KeepsToPlain x) :
    ∃ storage, Machine.Replays b t { b with storage } ∧ Shares { b with storage } m' := by
  induction t generalizing b m with
  | nil =>
    obtain rfl : m' = m := flat
    exact ⟨b.storage, rfl, same⟩
  | cons access rest ih =>
    obtain ⟨first, others⟩ := List.forall_mem_cons.mp plain
    cases access with
    | read a v =>
      obtain ⟨answer, flat⟩ := flat
      obtain ⟨storage, console, same'⟩ := ih same flat others
      have read : AddressSpace.read b a = (b.peek a, b) :=
        b.read_of_storage (not_device_of_plain first)
      refine ⟨storage, ?_, same'⟩
      rw [Machine.Replays, read]
      exact ⟨(same a first).trans answer, console⟩
    | write a v =>
      obtain ⟨plain, low⟩ := first
      obtain ⟨storage, console, same'⟩ := ih (shares_write same plain low v) flat others
      have written : AddressSpace.write b a v = _ :=
        b.write_of_memory (memory_of_plain plain low) v
      rw [b.write_of_memory (memory_of_plain plain low)] at console same'
      refine ⟨storage, ?_, same'⟩
      rw [Machine.Replays, written]
      exact console

/-! ## Runs -/

/-- A run on the console has gone as one on flat memory: every step has returned the same cycles, or
the same fault, and the picture unit and the connector are as before. -/
structure Simulates (b : Bus) (console : List (Except Fault Nat) × Machine Bus)
    (flat : List (Except Fault Nat) × Machine FlatMemory) : Prop where
  results : console.1 = flat.1
  core : console.2.core = flat.2.core
  memory : console.2.memory.Shares flat.2.memory
  picture : console.2.memory.picture = b.picture
  connector : console.2.memory.connector = b.connector

/-- **The console simulates flat memory on plain addresses**: if the two hold the same bytes there and
a run on flat memory keeps to them, then the run on the console goes the same way. -/
theorem simulates_flat (same : b.Shares m) (core : Core) (k : Nat)
    (plain : ∀ x ∈ (⟨core, m⟩ : Machine FlatMemory).runAccesses k, KeepsToPlain x) :
    Simulates b ((⟨core, b⟩ : Machine Bus).steps k)
      ((⟨core, m⟩ : Machine FlatMemory).steps k) := by
  let s : Machine FlatMemory := ⟨core, m⟩
  obtain ⟨storage, console, same'⟩ := replays_of_flat same (s.replays_steps k) plain
  have run : (⟨core, b⟩ : Machine Bus).steps k = _ := Machine.steps_of_replays k console
  rw [run]
  exact ⟨rfl, rfl, same', rfl, rfl⟩

/-- A console whose storage is empty meets BRK in the program: the registers go to the stack and the
vector comes from the program. -/
theorem simulates_flat_break :
    let b : Bus :=
      { storage := Bytes.fill 0, picture := default, connector := default, repeatsProgram := true,
        journal := default }
    let core : Core := { Core.initial with registers := { Registers.initial with pc := 0x8001 } }
    Simulates b ((⟨core, b⟩ : Machine Bus).steps 1)
      ((⟨core, .blank⟩ : Machine FlatMemory).steps 1) := by
  intro b core
  have same : b.Shares .blank := fun a _ =>
    (Bytes.get_fill 0 (cell (b.fold a))).trans (FlatMemory.peek_fill 0 a).symm
  let s : Machine FlatMemory := ⟨core, .blank⟩
  have opcode : s.nextOpcode = 0x00 := (s.nextOpcode_flat).trans (FlatMemory.peek_fill 0 _)
  have official : (Mode.implied, s.nextOpcode) ∈ Mnemonic.brk.encodings := by
    rw [opcode]
    decide
  obtain ⟨-, t, accesses, does⟩ := Machine.does_step (s := s) rfl official
  refine simulates_flat same core 1 fun x among => ?_
  have among : x ∈ s.stepAccesses := by simpa [Machine.runAccesses] using among
  rw [accesses] at among
  have registers : s.registers = core.registers := rfl
  generalize s.registers = r, s.nextOpcode = opcode, s.step.2.registers = r' at *
  subst registers
  cases does with
  | softwareInterrupt low high =>
    simp only [List.mem_cons, List.not_mem_nil, or_false] at among
    rcases among with rfl | rfl | rfl | rfl | rfl | rfl <;>
      simp only [KeepsToPlain] <;> decide

end Bus

end Famicom

import Famicom.Processor.Registers

/-!
# Flags and the status byte

A flag is one bit of the status byte. Every operation on the status says of each flag what becomes of
it, and from then on the byte does not matter.

* `Status.get_pushed`: the byte on the stack holds the flags, with break and unused forced.
* `Status.get_restore`: pulling it back takes every flag but break and unused from it.
* `Status.DiffersIn`: two states agree in all flags but some, with one lemma for each operation.
-/

namespace Famicom.Processor

/-- The place of the flag in the status byte. -/
def Flag.index : Flag → Nat
  | .carry => 0
  | .zero => 1
  | .interruptDisable => 2
  | .decimal => 3
  | .break => 4
  | .unused => 5
  | .overflow => 6
  | .negative => 7

namespace Status

/-! ## Flags of a byte -/

theorem get_eq_getLsbD (s : Status) (f : Flag) : s.get f = s.bits.toBitVec.getLsbD f.index := by
  have table : ∀ n : Fin 256,
      (⟨UInt8.ofFin n⟩ : Status).get f = (UInt8.ofFin n).toBitVec.getLsbD f.index := by
    cases f <;> decide +kernel
  exact table s.bits.toFin

variable (a b : UInt8) (f g : Flag)

@[simp] theorem get_or : get ⟨a ||| b⟩ f = (get ⟨a⟩ f || get ⟨b⟩ f) := by
  simp only [get_eq_getLsbD, UInt8.toBitVec_or, BitVec.getLsbD_or]

@[simp] theorem get_and : get ⟨a &&& b⟩ f = (get ⟨a⟩ f && get ⟨b⟩ f) := by
  simp only [get_eq_getLsbD, UInt8.toBitVec_and, BitVec.getLsbD_and]

@[simp] theorem get_xor : get ⟨a ^^^ b⟩ f = (get ⟨a⟩ f ^^ get ⟨b⟩ f) := by
  simp only [get_eq_getLsbD, UInt8.toBitVec_xor, BitVec.getLsbD_xor]

@[simp] theorem get_not : get ⟨~~~a⟩ f = !get ⟨a⟩ f := by
  have inside : f.index < 8 := by cases f <;> decide
  simp only [get_eq_getLsbD, UInt8.toBitVec_not, BitVec.getLsbD_not, inside, decide_true,
    Bool.true_and]

@[simp] theorem get_mask : get ⟨f.mask⟩ g = decide (g = f) := by
  cases f <;> cases g <;> rfl

/-! ## Operations -/

variable (s : Status)

/-- Setting a flag changes this flag only. -/
@[simp] theorem get_set (on : Bool) : (s.set f on).get g = if g = f then on else s.get g := by
  cases on <;> by_cases same : g = f <;> simp [set, same]

/-- A result changes zero and negative only. -/
@[simp] theorem get_withResult (v : UInt8) :
    (s.withResult v).get g =
      if g = .negative then v &&& 0x80 != 0 else if g = .zero then v == 0 else s.get g := by
  rw [withResult, get_set, get_set]

/-- The byte on the stack holds every flag, with break as the push says and unused on. -/
theorem get_pushed (fromInstruction : Bool) :
    get ⟨s.pushed fromInstruction⟩ g =
      if g = .break then fromInstruction else if g = .unused then true else s.get g := by
  cases fromInstruction <;> cases g <;> simp [pushed, toByte]

/-- Pulling a byte takes every flag but break and unused from it. -/
@[simp] theorem get_restore :
    (s.restore b).get g = if g = .break ∨ g = .unused then s.get g else get ⟨b⟩ g := by
  cases g <;> simp [restore, load]

/-! ## Agreement in all flags but some -/

/-- The states agree in every flag that is not listed. -/
def DiffersIn (fs : List Flag) (s s' : Status) : Prop := ∀ g ∉ fs, s'.get g = s.get g

theorem differsIn_self (fs : List Flag) : DiffersIn fs s s := fun _ _ => rfl

theorem differsIn_set (on : Bool) : DiffersIn [f] s (s.set f on) := by
  intro g other
  rw [get_set, if_neg (by simpa using other)]

theorem differsIn_withResult (v : UInt8) : DiffersIn [.negative, .zero] s (s.withResult v) := by
  intro g other
  simp only [List.mem_cons, List.not_mem_nil, or_false, not_or] at other
  rw [get_withResult, if_neg other.1, if_neg other.2]

/-- Comparisons, shifts and rotates put the carry under a result. -/
theorem differsIn_carry_withResult (on : Bool) (v : UInt8) :
    DiffersIn [.negative, .zero, .carry] s ((s.set .carry on).withResult v) := by
  intro g other
  simp only [List.mem_cons, List.not_mem_nil, or_false, not_or] at other
  obtain ⟨negative, zero, carry⟩ := other
  rw [get_withResult, if_neg negative, if_neg zero, get_set, if_neg carry]

theorem differsIn_add :
    DiffersIn [.negative, .zero, .carry, .overflow] s (Arithmetic.add s a b).2 := by
  intro g other
  simp only [List.mem_cons, List.not_mem_nil, or_false, not_or] at other
  obtain ⟨negative, zero, carry, overflow⟩ := other
  unfold Arithmetic.add
  dsimp only
  rw [get_withResult, if_neg negative, if_neg zero, get_set, if_neg overflow, get_set, if_neg carry]

theorem differsIn_testBits :
    DiffersIn [.negative, .overflow, .zero] s (Arithmetic.testBits s a b) := by
  intro g other
  simp only [List.mem_cons, List.not_mem_nil, or_false, not_or] at other
  obtain ⟨negative, overflow, zero⟩ := other
  rw [Arithmetic.testBits, get_set, if_neg overflow, get_set, if_neg negative, get_set, if_neg zero]

theorem differsIn_restore :
    DiffersIn [.negative, .overflow, .decimal, .interruptDisable, .zero, .carry] s
      (s.restore b) := by
  intro g other
  rw [get_restore, if_pos]
  cases g <;> simp_all

end Status

end Famicom.Processor

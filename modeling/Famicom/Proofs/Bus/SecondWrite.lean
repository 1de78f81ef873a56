import Mathlib.Data.List.Induction
import Famicom.Proofs.Bus.Registers

/-!
# Writes that come in pairs

The scroll and the address register take two writes each, and share the memory of which of the two comes
next. So a write to one of them can be the second half of a pair that the other one began, and only a
read of the status starts anew. Which half a write is follows from the number of such writes since the
status was read, whatever else happens on the bus.

* `halves`: the writes to either register since the status was read.
* `second_actAll`: the next write is a second one exactly if their number is odd.
* `scrollHalf_actAll`: each half of the scroll is the latest byte written at its positions.
* `address_of_pointing`: a status read and two writes set the video address after any history.
* `pairsUp_actAll`: all of it, after any history of the bus and any run of a processor.
-/

namespace Famicom

open Picture Processor

namespace Bus

/-! ## Histories -/

namespace Act

/-- The processor reads the status. -/
def readsStatus : Act → Bool
  | .read a => registerAt? a == some .status
  | _ => false

/-- The processor writes to a register that takes two writes. -/
def isHalf : Act → Bool
  | .write a _ => registerAt? a == some .scroll || registerAt? a == some .address
  | _ => false

/-- The byte that the processor writes to the scroll register. -/
def scroll? : Act → Option UInt8
  | .write a v => if registerAt? a = some .scroll then some v else none
  | _ => none

/-- The act has nothing to do with the video address, nor with the pairs of writes. -/
def IsAside (x : Act) : Prop :=
  x.register? ∉ [some .status, some .scroll, some .address, some .data]

instance : DecidablePred IsAside := fun _ => inferInstanceAs (Decidable (¬ _))

end Act

/-- How many writes to the scroll and the address register there were since the status was read, or
since the start. -/
def halves (past : List Act) : Nat :=
  (past.reverse.takeWhile fun x => !x.readsStatus).countP Act.isHalf

/-- The write after a history is the second one of its pair. -/
def isSecond (past : List Act) : Bool := halves past % 2 = 1

/-- The bytes that `rest` writes to the scroll register after `before`, either those that are second
writes or those that are not. -/
def scrolls (second : Bool) : (before rest : List Act) → List UInt8
  | _, [] => []
  | before, x :: rest =>
    (if isSecond before = second then x.scroll?.toList else []) ++
      scrolls second (before ++ [x]) rest

theorem halves_append_singleton (past : List Act) (x : Act) :
    halves (past ++ [x]) =
      if x.readsStatus then 0 else if x.isHalf then halves past + 1 else halves past := by
  unfold halves
  rw [List.reverse_append, List.reverse_singleton, List.singleton_append, List.takeWhile_cons]
  cases x.readsStatus <;> simp [List.countP_cons]
  split <;> rfl

/-! ## One act -/

variable {b : Bus}

/-- What an act makes of the memory for the next write. -/
theorem second_act (x : Act) :
    (b.act x).picture.second =
      if x.readsStatus then false
      else if x.isHalf then !b.picture.second else b.picture.second := by
  rcases x.access_cases with elsewhere | ⟨a, r, shows, rfl⟩ | ⟨a, r, v, shows, rfl⟩
  · have kept := congrArg Ports.second (ports_act_of_none (b := b) elsewhere)
    cases x <;> simp_all [Act.readsStatus, Act.isHalf, Act.register?, PictureUnit.ports]
  · rw [act, b.read_register shows]
    cases r <;> simp [Act.readsStatus, Act.isHalf, shows, PictureUnit.readRegister]
  · rw [act, b.write_register shows]
    cases second : b.picture.second <;> cases r <;>
      simp [Act.readsStatus, Act.isHalf, shows, PictureUnit.writeRegister, second]

/-- The half of the scroll that a first or a second write sets. -/
def scrollHalf (b : Bus) (second : Bool) : UInt8 :=
  if second then b.picture.scrollY else b.picture.scrollX

/-- An act sets a half of the scroll if it writes to the scroll register and that half is next. -/
theorem scrollHalf_act (x : Act) (second : Bool) :
    (b.act x).scrollHalf second =
      if b.picture.second = second then x.scroll?.getD (b.scrollHalf second)
      else b.scrollHalf second := by
  unfold scrollHalf
  rcases x.access_cases with elsewhere | ⟨a, r, shows, rfl⟩ | ⟨a, r, v, shows, rfl⟩
  · have across := congrArg Ports.scrollX (ports_act_of_none b elsewhere)
    have down := congrArg Ports.scrollY (ports_act_of_none b elsewhere)
    cases x <;> simp_all [Act.scroll?, Act.register?, PictureUnit.ports]
  · rw [act, b.read_register shows]
    cases r <;> simp [Act.scroll?, PictureUnit.readRegister]
  · rw [act, b.write_register shows]
    cases next : b.picture.second <;> cases second <;> cases r <;>
      simp [Act.scroll?, shows, PictureUnit.writeRegister, next]

/-- An act that is aside keeps the video address and what belongs to it. -/
theorem pointer_act {x : Act} (aside : x.IsAside) :
    (b.act x).picture.address = b.picture.address ∧
      (b.act x).picture.second = b.picture.second ∧
      (b.act x).picture.memory = b.picture.memory := by
  rcases x.access_cases with elsewhere | ⟨a, r, shows, rfl⟩ | ⟨a, r, v, shows, rfl⟩
  · have kept := ports_act_of_none b elsewhere
    exact ⟨congrArg Ports.address kept, congrArg Ports.second kept, congrArg Ports.memory kept⟩
  · rw [act, b.read_register shows]
    cases r <;> simp_all [Act.IsAside, Act.register?, PictureUnit.readRegister]
  · rw [act, b.write_register shows]
    cases r <;> simp_all [Act.IsAside, Act.register?, PictureUnit.writeRegister]

/-! ## Histories -/

theorem second_actAll (fresh : b.picture.second = false) (past : List Act) :
    (b.actAll past).picture.second = isSecond past := by
  induction past using List.reverseRecOn with
  | nil => exact fresh
  | append_singleton past x ih =>
    rw [actAll_append]
    change ((b.actAll past).act x).picture.second = _
    rw [second_act, ih]
    unfold isSecond
    rw [halves_append_singleton]
    split
    · rfl
    · split
      · rw [← decide_not, decide_eq_decide]
        omega
      · rfl

/-- **Each half of the scroll is the latest byte written at its positions.** -/
theorem scrollHalf_actAll (fresh : b.picture.second = false) (second : Bool)
    (before rest : List Act) :
    (b.actAll (before ++ rest)).scrollHalf second =
      (scrolls second before rest).getLastD ((b.actAll before).scrollHalf second) := by
  induction rest generalizing before with
  | nil => rw [List.append_nil, scrolls, List.getLastD_nil]
  | cons x rest ih =>
    have step : (b.actAll (before ++ [x])).scrollHalf second = _ :=
      (congrArg (·.scrollHalf second) (b.actAll_append before [x])).trans
        (scrollHalf_act (b := b.actAll before) x second)
    rw [second_actAll fresh] at step
    rw [List.append_cons before x rest, ih, step, scrolls]
    split
    · cases x.scroll? with
      | none => rfl
      | some v => rw [Option.toList_some, List.singleton_append, List.getLastD_cons]; rfl
    · rfl

theorem pointer_actAll {between : List Act} (aside : ∀ x ∈ between, x.IsAside) :
    (b.actAll between).picture.address = b.picture.address ∧
      (b.actAll between).picture.second = b.picture.second ∧
      (b.actAll between).picture.memory = b.picture.memory := by
  induction between generalizing b with
  | nil => exact ⟨rfl, rfl, rfl⟩
  | cons x rest ih =>
    obtain ⟨first, others⟩ := List.forall_mem_cons.mp aside
    obtain ⟨address, second, memory⟩ := pointer_act (b := b) first
    rw [actAll_cons, ← address, ← second, ← memory]
    exact ih others

/-! ## Setting the video address -/

/-- Reads the status at `status` and writes the two halves of an address to `high` and `low`, with other
acts in between. -/
def pointing (status high low : UInt16) (h l : UInt8) (between between' : List Act) : List Act :=
  .read status :: between ++ .write high h :: between' ++ [.write low l]

/-- **The video address is set from anywhere**, whatever a history has left half written. -/
theorem address_of_pointing {status high low : UInt16} (isStatus : registerAt? status = some .status)
    (isHigh : registerAt? high = some .address) (isLow : registerAt? low = some .address)
    (h l : UInt8) {between between' : List Act}
    (aside : ∀ x ∈ between ++ between', x.IsAside) :
    (b.actAll (pointing status high low h l between between')).picture.address =
      b.picture.memory.fold (h.toNat % 64 * 256 + l.toNat) := by
  obtain ⟨aside, aside'⟩ := List.forall_mem_append.mp aside
  let begun := (b.act (.read status)).actAll between
  let half := (begun.act (.write high h)).actAll between'
  have run : b.actAll (pointing status high low h l between between') =
      half.act (.write low l) := by
    simp only [pointing, List.cons_append, List.append_assoc, actAll_cons, actAll_append, begun,
      half]
    rfl
  obtain ⟨-, next, memory⟩ := pointer_actAll (b := b.act (.read status)) aside
  obtain ⟨address', next', memory'⟩ := pointer_actAll (b := begun.act (.write high h)) aside'
  have started : (b.act (.read status)).picture = { b.picture with second := false } := by
    rw [act, b.read_register isStatus]
    rfl
  have first : begun.picture.second = false := by
    rw [next, started]
  have halfway : (begun.act (.write high h)).picture =
      { begun.picture with address := h.toNat % 64 * 256, second := true } := by
    rw [act, begun.write_register isHigh]
    simp [PictureUnit.writeRegister, first]
  have second : half.picture.second = true := by
    rw [next', halfway]
  have address : half.picture.address = h.toNat % 64 * 256 := by
    rw [address', halfway]
  have same : half.picture.memory = b.picture.memory := by
    rw [memory', halfway]
    change begun.picture.memory = _
    rw [memory, started]
  rw [run, act, half.write_register isLow]
  simp [PictureUnit.writeRegister, second, address, same]

/-! ## The rule -/

/-- What a history makes of the writes that come in pairs. The next write is a second one exactly if
the halves since the status was read are odd in number. As a second write, one to the scroll
register sets the scroll downwards, and one to the address register adds to the address and folds
it. So a read of the status and two writes set the address, with other accesses in between. -/
structure PairsUp (past : List Act) (b : Bus) : Prop where
  second : b.picture.second = true ↔ halves past % 2 = 1
  scroll : ∀ a v, registerAt? a = some .scroll →
    (b.write a v).picture =
      if halves past % 2 = 1 then { b.picture with scrollY := v, second := false }
      else { b.picture with scrollX := v, second := true }
  address : ∀ a v, registerAt? a = some .address →
    (b.write a v).picture =
      if halves past % 2 = 1 then
        { b.picture with
          address := b.picture.memory.fold (b.picture.address + v.toNat), second := false }
      else { b.picture with address := v.toNat % 64 * 256, second := true }
  scrollX : b.picture.scrollX = (scrolls false [] past).getLastD 0
  scrollY : b.picture.scrollY = (scrolls true [] past).getLastD 0
  points : ∀ status high low h l between between', registerAt? status = some .status →
    registerAt? high = some .address → registerAt? low = some .address →
    (∀ x ∈ between ++ between', x.IsAside) →
    (b.actAll (pointing status high low h l between between')).picture.address =
      b.picture.memory.fold (h.toNat % 64 * 256 + l.toNat)

/-- **Writes pair up since the status was read**, after any history of the bus from power-on, and so
after any run of a processor. -/
theorem pairsUp_actAll (c : Cartridge) (joypad : Joypad) (journal : Journal) :
    let start := ofCartridge c joypad journal
    (∀ past, PairsUp past (start.actAll past)) ∧
      ∀ (core : Core) (ts : List Turn),
        PairsUp (start.history core ts) (turnAll act ⟨core, start⟩ ts).memory := by
  intro start
  have pairsUp (past : List Act) : PairsUp past (start.actAll past) := by
    have second : (start.actAll past).picture.second = isSecond past := second_actAll rfl past
    constructor
    case second => rw [second, isSecond, decide_eq_true_iff]
    case scroll =>
      intro a v shows
      rw [write_register _ shows]
      simp only [PictureUnit.writeRegister, second, isSecond, decide_eq_true_iff]
    case address =>
      intro a v shows
      rw [write_register _ shows]
      simp only [PictureUnit.writeRegister, second, isSecond, decide_eq_true_iff]
    case scrollX => exact scrollHalf_actAll (b := start) rfl false [] past
    case scrollY => exact scrollHalf_actAll (b := start) rfl true [] past
    case points =>
      intro status high low h l between between' isStatus isHigh isLow aside
      exact address_of_pointing isStatus isHigh isLow h l aside
  refine ⟨pairsUp, fun core ts => ?_⟩
  rw [memory_turnAll]
  exact pairsUp _

/-- Half an address is forgotten with the status, and a byte for the scroll begins a new pair. -/
example :
    let past : List Act := [.write 0x2006 0x21, .read 0x200A, .write 0x3FFD 7]
    isSecond past = true ∧ scrolls false [] past = [7] := by
  decide

end Bus

end Famicom

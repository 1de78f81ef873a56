import Famicom.Proofs.Bus.History
import Famicom.Proofs.Bus.Region

/-!
# What the joypad answers

The connector catches the buttons when the strobe goes off and hands them out one by one, while they are
pressed and released as ever and anything else happens on the bus. What a read answers is told from the
history alone: which buttons were down at the latest strobe, and how many reads there were since.

* `isPressed_touch`: a touch concerns its own button.
* `nth_shiftLeft`: handing out the first button moves the others up by one.
* `connector_act`: what the connector notices of the bus.
* `Answers`: what the joypad shows after a history, and what a read of it answers.
* `answers_actAll`: it does, after every one.
-/

namespace Famicom

open Processor

/-! ## Buttons -/

/-- The place of a button in the order of handing out. -/
def Button.place : Button → Nat
  | .a => 0
  | .b => 1
  | .select => 2
  | .start => 3
  | .up => 4
  | .down => 5
  | .left => 6
  | .right => 7

namespace Joypad

theorem isPressed_eq_getMsbD (j : Joypad) (button : Button) :
    j.isPressed button = j.held.toBitVec.getMsbD button.place := by
  have table : ∀ n : Fin 256,
      isPressed ⟨UInt8.ofFin n⟩ button = (UInt8.ofFin n).toBitVec.getMsbD button.place := by
    cases button <;> decide +kernel
  exact table j.held.toFin

theorem getMsbD_mask (button other : Button) :
    button.mask.toBitVec.getMsbD other.place = decide (button = other) := by
  cases button <;> cases other <;> rfl

theorem isPressed_press (j : Joypad) (button other : Button) :
    (j.press button).isPressed other = if button = other then true else j.isPressed other := by
  simp only [isPressed_eq_getMsbD, press, UInt8.toBitVec_or, BitVec.getMsbD_or, getMsbD_mask]
  by_cases same : button = other <;> simp [same]

theorem isPressed_release (j : Joypad) (button other : Button) :
    (j.release button).isPressed other = if button = other then false else j.isPressed other := by
  have inside : other.place < 8 := by cases other <;> decide
  simp only [isPressed_eq_getMsbD, release, UInt8.toBitVec_and, UInt8.toBitVec_not,
    BitVec.getMsbD_and, BitVec.getMsbD_not, getMsbD_mask, inside]
  by_cases same : button = other <;> simp [same]

/-- A touch concerns its own button. -/
theorem isPressed_touch (j : Joypad) (t : Touch) (button : Button) :
    (j.touch t).isPressed button = if t.button = button then t.down else j.isPressed button := by
  cases t with
  | press touched => exact j.isPressed_press touched button
  | release touched => exact j.isPressed_release touched button
  | set touched down =>
    cases down with
    | true => exact j.isPressed_press touched button
    | false => exact j.isPressed_release touched button

/-- Whether a button is at that place in the order of handing out and is down. -/
def nth (j : Joypad) (k : Nat) : Bool := Button.all[k]?.any j.isPressed

theorem nth_eq_getMsbD (j : Joypad) (k : Nat) : j.nth k = j.held.toBitVec.getMsbD k := by
  by_cases inside : k < 8
  · have named : ∀ k : Fin 8, ∃ button ∈ Button.all,
        Button.all[k.val]? = some button ∧ button.place = k.val := by decide
    obtain ⟨button, -, listed, place⟩ := named ⟨k, inside⟩
    rw [nth, listed, Option.any_some, isPressed_eq_getMsbD, place]
  · have missing : Button.all[k]? = none := List.getElem?_eq_none (Nat.le_of_not_lt inside)
    rw [nth, missing, Option.any_none, BitVec.getMsbD_of_ge _ _ (Nat.le_of_not_lt inside)]

/-- Handing out the first button moves the others up by one and brings in none. -/
theorem nth_shiftLeft (x : UInt8) (k : Nat) : nth ⟨x <<< 1⟩ k = nth ⟨x⟩ (k + 1) := by
  rw [nth_eq_getMsbD, nth_eq_getMsbD]
  change (x.toBitVec <<< 1).getMsbD k = _
  rw [BitVec.getMsbD_shiftLeft]

theorem isPressed_released (button : Button) : released.isPressed button = false := by
  rw [isPressed_eq_getMsbD]
  exact BitVec.getMsbD_zero

theorem nth_released (k : Nat) : released.nth k = false := by
  rw [nth_eq_getMsbD]
  exact BitVec.getMsbD_zero

end Joypad

/-! ## The connector -/

/-- What a read answers: the button in bit zero, next to the bit that is always there. -/
def answer (down : Bool) : UInt8 := if down then 0x41 else 0x40

theorem shiftRight_or_openBus (x : UInt8) :
    x >>> 7 ||| Connector.openBus = answer (Joypad.nth ⟨x⟩ 0) := by
  have table : ∀ n : Fin 256,
      UInt8.ofFin n >>> 7 ||| Connector.openBus = answer (Joypad.nth ⟨UInt8.ofFin n⟩ 0) := by
    decide +kernel
  exact table x.toFin

namespace Connector

variable {p : Connector}

/-- While the strobe is on, a read answers with A and takes nothing. -/
theorem read_of_strobe (on : p.strobe = true) : p.read = (answer (p.joypad.isPressed .a), p) := by
  rw [read, if_pos on, shiftRight_or_openBus]
  rfl

/-- While the strobe is off, a read takes the next of the buttons that were caught. -/
theorem read_of_not_strobe (off : p.strobe = false) :
    p.read = (answer (Joypad.nth ⟨p.caught⟩ 0), { p with caught := p.caught <<< 1 }) := by
  rw [read, if_neg (by simp [off]), shiftRight_or_openBus]

theorem write_of_on {v : UInt8} (on : v &&& 1 ≠ 0) : p.write v = { p with strobe := true } :=
  if_pos (bne_iff_ne.mpr on)

theorem write_of_off {v : UInt8} (off : v &&& 1 = 0) :
    p.write v = { p with strobe := false, caught := p.joypad.held } :=
  if_neg (by simp [off])

end Connector

/-! ## What the connector notices -/

namespace Bus.Act

/-- Whether the button is down after the act, if the act is a touch of it. -/
def down? (button : Button) : Act → Option Bool
  | .touch t => if t.button = button then some t.down else none
  | _ => none

/-- The byte that the act writes to the connector. -/
def strobe? : Act → Option UInt8
  | .write a v => if a = joypadAddress then some v else none
  | _ => none

theorem ne_of_strobe?_eq_none {a : UInt16} {v : UInt8} (quiet : (write a v).strobe? = none) :
    a ≠ joypadAddress := fun same => by simp [strobe?, same] at quiet

/-- Whether the act reads the connector. -/
def asks : Act → Bool
  | .read a => a = joypadAddress
  | _ => false

end Bus.Act

namespace Connector

/-- What an act on the bus does to the connector. -/
def act (p : Connector) : Bus.Act → Connector
  | .read a => if a = joypadAddress then p.read.2 else p
  | .write a v => if a = joypadAddress then p.write v else p
  | .touch t => { p with joypad := p.joypad.touch t }
  | _ => p

variable (p : Connector)

theorem joypad_read : p.read.2.joypad = p.joypad := by
  unfold read
  split <;> rfl

theorem joypad_write (v : UInt8) : (p.write v).joypad = p.joypad := by
  unfold write
  split <;> rfl

theorem isPressed_act (x : Bus.Act) (button : Button) :
    (p.act x).joypad.isPressed button = (x.down? button).getD (p.joypad.isPressed button) := by
  cases x with
  | read a =>
    simp only [act, Bus.Act.down?, Option.getD_none]
    split
    · rw [joypad_read]
    · rfl
  | write a v =>
    simp only [act, Bus.Act.down?, Option.getD_none]
    split
    · rw [joypad_write]
    · rfl
  | touch t =>
    simp only [act, Bus.Act.down?, Joypad.isPressed_touch]
    split <;> rfl
  | transferSprites _ | advance _ | note _ => rfl

variable {p}

/-- Nothing but a write to the connector turns the strobe on or off. -/
theorem strobe_act {x : Bus.Act} (quiet : x.strobe? = none) : (p.act x).strobe = p.strobe := by
  cases x with
  | read a =>
    simp only [act]
    split
    · unfold read
      split <;> rfl
    · rfl
  | write a v =>
    rw [act, if_neg (Bus.Act.ne_of_strobe?_eq_none quiet)]
  | touch _ | transferSprites _ | advance _ | note _ => rfl

/-- While the strobe is off, each read of the connector brings the buttons up by one. -/
theorem nth_caught_act {x : Bus.Act} (quiet : x.strobe? = none) (off : p.strobe = false) (k : Nat) :
    Joypad.nth ⟨(p.act x).caught⟩ k = Joypad.nth ⟨p.caught⟩ (x.asks.toNat + k) := by
  cases x with
  | read a =>
    by_cases here : a = joypadAddress
    · simp only [act, Bus.Act.asks, here, if_true, read_of_not_strobe off, Joypad.nth_shiftLeft]
      rw [decide_true, Bool.toNat_true, Nat.add_comm]
    · simp [act, Bus.Act.asks, here]
  | write a v =>
    simp [act, Bus.Act.asks, Bus.Act.ne_of_strobe?_eq_none quiet]
  | touch _ | transferSprites _ | advance _ | note _ => simp [act, Bus.Act.asks]

end Connector

namespace Bus

variable (b : Bus)

theorem fold_eq_joypadAddress_iff (a : UInt16) :
    b.fold a = joypadAddress ↔ a = joypadAddress :=
  canonical_eq_iff_of_between b.repeatsProgram (by decide) (by decide) a

theorem read_joypadAddress :
    b.read joypadAddress = (b.connector.read.1, { b with connector := b.connector.read.2 }) := by
  have place : b.fold joypadAddress = joypadAddress := (b.fold_eq_joypadAddress_iff _).mpr rfl
  unfold read
  rw [place]
  rfl

/-- The connector notices what is done at its address and to its joypad. -/
theorem connector_act (x : Act) : (b.act x).connector = b.connector.act x := by
  have noPicture {a : UInt16} (inside : 0x2000 ≤ b.fold a ∧ b.fold a < 0x4000) :
      b.fold a ≠ joypadAddress := fun same => absurd inside (by rw [same]; decide)
  cases x with
  | read a =>
    simp only [act, read, Connector.act, ← b.fold_eq_joypadAddress_iff a]
    split
    · rename_i inside
      rw [if_neg (noPicture inside)]
    · split <;> rfl
  | write a v =>
    simp only [act, write, Connector.act, ← b.fold_eq_joypadAddress_iff a]
    split
    · rename_i inside
      rw [if_neg (noPicture inside)]
    · split
      · rename_i transfer
        rw [if_neg (by rw [transfer]; decide)]
        unfold transferSprites
        rfl
      · split
        · rfl
        · split <;> rfl
  | transferSprites number =>
    simp only [act, transferSprites, Connector.act]
  | advance _ | touch _ | note _ => rfl

/-! ## Histories -/

/-- Whether the latest touch of the button was a press. -/
def heldAfter (past : List Act) (button : Button) : Bool :=
  (past.filterMap (Act.down? button)).getLastD false

theorem isPressed_actAll (past : List Act) (button : Button) :
    (b.actAll past).joypad.isPressed button =
      (past.filterMap (Act.down? button)).getLastD (b.joypad.isPressed button) := by
  refine latest_actAll (·.joypad.isPressed button) (Act.down? button) (fun b x => ?_) b past
  rw [joypad, connector_act, Connector.isPressed_act]
  rfl

/-- Nothing is written to the connector. -/
def Quiet (past : List Act) : Prop := ∀ x ∈ past, x.strobe? = none

variable {b} {after : List Act}

theorem strobe_actAll (quiet : Quiet after) :
    (b.actAll after).connector.strobe = b.connector.strobe := by
  induction after generalizing b with
  | nil => rfl
  | cons x rest ih =>
    obtain ⟨first, others⟩ := List.forall_mem_cons.mp quiet
    rw [actAll_cons, ih others, connector_act, Connector.strobe_act first]

theorem nth_caught_actAll (quiet : Quiet after) (off : b.connector.strobe = false) (k : Nat) :
    Joypad.nth ⟨(b.actAll after).connector.caught⟩ k =
      Joypad.nth ⟨b.connector.caught⟩ (after.countP Act.asks + k) := by
  induction after generalizing b with
  | nil => rw [List.countP_nil, Nat.zero_add]; rfl
  | cons x rest ih =>
    obtain ⟨first, others⟩ := List.forall_mem_cons.mp quiet
    have still : (b.act x).connector.strobe = false := by
      rw [connector_act, Connector.strobe_act first, off]
    rw [actAll_cons, ih others still, connector_act, Connector.nth_caught_act first off,
      List.countP_cons]
    cases x.asks with
    | false => rw [Bool.toNat_false, Nat.zero_add, if_neg Bool.false_ne_true, Nat.add_zero]
    | true => rw [Bool.toNat_true, if_pos rfl, Nat.add_right_comm, Nat.add_comm 1, Nat.add_right_comm]

/-- What the joypad shows after a history, and what a read of it answers then. A button is down if
its latest touch was a press. While the strobe is on, a read answers with A as it is and takes
nothing; once it is off, the reads answer with the buttons as they were then, one after the other.
Before any strobe there is no button to answer with. -/
structure Answers (past : List Act) (b : Bus) : Prop where
  held : ∀ button, b.joypad.isPressed button = heldAfter past button
  live : ∀ before v after, past = before ++ .write joypadAddress v :: after → Quiet after →
    v &&& 1 ≠ 0 → b.read joypadAddress = (answer (heldAfter past .a), b)
  caught : ∀ before v after, past = before ++ .write joypadAddress v :: after → Quiet after →
    v &&& 1 = 0 → (b.read joypadAddress).1 =
      answer (Button.all[after.countP Act.asks]?.any (heldAfter before))
  idle : Quiet past → (b.read joypadAddress).1 = answer false

/-- **The joypad answers as its history says**, whatever is touched, strobed and read in whatever
order. -/
theorem answers_actAll (c : Cartridge) (journal : Journal) (past : List Act) :
    Answers past ((ofCartridge c .released journal).actAll past) := by
  let start : Bus := ofCartridge c .released journal
  have held (past : List Act) (button : Button) :
      (start.actAll past).joypad.isPressed button = heldAfter past button := by
    rw [isPressed_actAll]
    exact congrArg (List.getLastD _) (Joypad.isPressed_released button)
  constructor
  case held => exact held past
  case live =>
    intro before v after split quiet on
    have strobe : (start.actAll past).connector.strobe = true := by
      rw [split, actAll_append, actAll_cons, strobe_actAll quiet, connector_act, Connector.act,
        if_pos rfl, Connector.write_of_on on]
    change (start.actAll past).read joypadAddress = _
    rw [read_joypadAddress, Connector.read_of_strobe strobe, ← held]
    rfl
  case caught =>
    intro before v after split quiet off
    have written : ((start.actAll before).act (.write joypadAddress v)).connector =
        { (start.actAll before).connector with
          strobe := false, caught := (start.actAll before).joypad.held } := by
      rw [connector_act, Connector.act, if_pos rfl, Connector.write_of_off off]
      rfl
    have strobe : ((start.actAll before).act (.write joypadAddress v)).connector.strobe = false := by
      rw [written]
    have order := nth_caught_actAll quiet strobe 0
    rw [← strobe_actAll quiet] at strobe
    rw [← actAll_cons, ← actAll_append, ← split] at order strobe
    change ((start.actAll past).read joypadAddress).1 = _
    rw [read_joypadAddress, Connector.read_of_not_strobe strobe, order, written, Nat.add_zero]
    exact congrArg (fun down => answer (Button.all[_]?.any down)) (funext (held before))
  case idle =>
    intro quiet
    have strobe : (start.actAll past).connector.strobe = false := strobe_actAll quiet
    have order := nth_caught_actAll (b := start) quiet rfl 0
    change ((start.actAll past).read joypadAddress).1 = _
    rw [read_joypadAddress, Connector.read_of_not_strobe strobe, order]
    exact congrArg answer (Joypad.nth_released _)

end Bus

end Famicom

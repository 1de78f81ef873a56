import Famicom.Player
import Famicom.Proofs.Console.Halting
import Mathlib.Algebra.Group.Nat.Even

/-!
# The halt mark of the player

The player marks the processor as halted when it makes the request, long before the loop of the
session applies it. A click is therefore two steps, the request and the mark, and the loop may take
any number of steps around each.

* `reset_eq` and `toggleHalt_eq`: the two clicks are their two steps.
* `Sitting.offBy_run`: after any run, the mark differs from what the processor will come to by the
  halts that have changed places with a reset.
* `Sitting.halted_eq_iff`: with nothing left to apply, the mark is right exactly if their number is
  even, a click that is half done counting as one more.
* `Sitting.run_haltThenReset`: a halt and a reset, both before the loop looks, leave the processor
  halted and the player unaware of it.
-/

namespace Famicom.Player

open Console Picture

instance : SilentSink Handover := ⟨fun _ _ => rfl⟩

/-! ## Clicks -/

inductive Click where
  | reset
  | toggleHalt
  deriving DecidableEq, Repr

def Click.request : Click → Request
  | .reset => .reset
  | .toggleHalt => .toggleHalt

/-- The mark after a click. -/
def Click.mark : Click → Bool → Bool
  | .reset, _ => false
  | .toggleHalt, halted => !halted

/-- The first step of a click: the request is made. -/
def ask (p : Player) (c : Click) : Player :=
  { p with session := p.session.map (·.request c.request) }

/-- The second step of a click: the mark is set. -/
def mark (p : Player) (c : Click) : Player := { p with halted := c.mark p.halted }

theorem reset_eq {p : Player} {s : Session} (running : p.session = some s) :
    p.reset = (p.ask .reset).mark .reset := by
  simp only [reset, running, ask, mark, Option.map_some]
  rfl

theorem toggleHalt_eq {p : Player} {s : Session} (running : p.session = some s) :
    p.toggleHalt = (p.ask .toggleHalt).mark .toggleHalt := by
  simp only [toggleHalt, running, ask, mark, Option.map_some]
  rfl

/-- A step of the session's loop. -/
def work (p : Player) : Player :=
  { p with session := p.session.map fun s => { s with loop := s.loop.step } }

/-- A player that has just started a cartridge. -/
def insert (p : Player) (name : String) (entry : Option UInt64) (cartridge : Cartridge) :
    Player :=
  { p with
    status := "Running " ++ name
    halted := false
    session := some (.start name entry cartridge p.joypad p.handover) }

theorem launch_eq_insert {image : ByteArray} {cartridge : Cartridge}
    (loads : Cartridge.load image = .ok cartridge) (p : Player) (name : String) (entry : UInt64) :
    p.launch name entry image = p.stopSession.2.insert name (some entry) cartridge := by
  simp only [launch, loads, insert]

theorem session_refresh (p : Player) :
    p.refresh.session = p.session.map (·.withHandover p.cell.collect.2) := by
  unfold refresh
  cases p.session <;> dsimp only <;> split <;> rfl

theorem halted_refresh (p : Player) : p.refresh.halted = p.halted := by
  unfold refresh
  cases p.session <;> dsimp only <;> split <;> rfl

/-! ## Runs -/

/-- The request of a click is made, unless another click is half done, and then its mark is set.
Meanwhile the loop of the session takes steps and the player looks at the keys and for a frame. -/
inductive Turn where
  | ask (click : Click)
  | mark
  | work
  | hold (keys : List Key)
  | refresh
  deriving Repr

/-- A player together with the click that is half done: its request was made and its mark was not
set. -/
structure Sitting where
  player : Player
  click : Option Click

namespace Sitting

/-- A cartridge was just started. -/
def start (p : Player) (name : String) (entry : Option UInt64) (cartridge : Cartridge) : Sitting :=
  { player := p.insert name entry cartridge, click := none }

def turn (m : Sitting) : Turn → Sitting
  | .ask c =>
    match m.click with
    | none => { player := m.player.ask c, click := some c }
    | some _ => m
  | .mark =>
    match m.click with
    | none => m
    | some c => { player := m.player.mark c, click := none }
  | .work => { m with player := m.player.work }
  | .hold keys => { m with player := { m.player with keys }.hold }
  | .refresh => { m with player := m.player.refresh }

def run (m : Sitting) (turns : List Turn) : Sitting := turns.foldl turn m

/-- The mark once the click that is half done is done. -/
def due (m : Sitting) : Bool := (m.turn .mark).player.halted

/-- One if the click that is half done has a mark to set that is not set yet. -/
def behind (m : Sitting) : Nat := if m.player.halted = m.due then 0 else 1

/-- The halts that change places with a reset, given those that have done so before. A reset
overtakes the halts that are still pending, unless the loop is past looking for it; then the halts
overtake the reset. -/
def misplacedBy (m : Sitting) (n : Nat) : Turn → Nat
  | .ask c =>
    match m.click, m.player.session, c with
    | none, some s, .reset =>
      if s.loop.isPastReset then 0 else s.loop.console.control.haltToggles.toNat
    | none, some s, .toggleHalt =>
      if s.loop.console.control.reset && s.loop.isPastReset then n + 1 else n
    | _, _, _ => n
  | _ => n

/-- The halts since the latest reset that have changed places with one in a run, given those that
have done so before. -/
def misplaced (m : Sitting) (n : Nat) : List Turn → Nat
  | [] => n
  | t :: rest => (m.turn t).misplaced (m.misplacedBy n t) rest

/-- The mark to come differs from the outlook of the session by `n` halts. -/
def OffBy (m : Sitting) (n : Nat) : Prop :=
  ∀ s, m.player.session = some s → s.loop.outlook = (m.due ^^ n.bodd)

/-! ## What a turn does -/

theorem offBy_start (p : Player) (name : String) (entry : Option UInt64) (cartridge : Cartridge) :
    (start p name entry cartridge).OffBy 0 := by
  intro s running
  obtain rfl : Session.start name entry cartridge p.joypad p.handover = s :=
    Option.some.inj running
  exact (Loop.outlook_start (control_ofCartridge ..)).trans (isHalted_ofCartridge ..)

theorem due_ask (p : Player) (c : Click) :
    ((⟨p, none⟩ : Sitting).turn (.ask c)).due = c.mark p.halted := rfl

theorem offBy_ask {m : Sitting} {n : Nat} (off : m.OffBy n) (c : Click) :
    (m.turn (.ask c)).OffBy (m.misplacedBy n (.ask c)) := by
  obtain ⟨p, click⟩ := m
  cases click with
  | some other => exact off
  | none =>
    intro s' running
    cases was : p.session with
    | none => simp [turn, ask, was] at running
    | some s =>
      have before : s.loop.outlook = (p.halted ^^ n.bodd) := off s was
      obtain rfl : s.request c.request = s' := by
        simpa [turn, ask, was] using running
      rw [due_ask]
      cases c with
      | reset =>
        change (s.loop.ask .reset).outlook = _
        rw [Loop.outlook_reset]
        simp only [misplacedBy, was, Click.mark, Loop.turns]
        cases s.loop.isPastReset <;> simp
      | toggleHalt =>
        change (s.loop.ask .toggleHalt).outlook = _
        rw [Loop.outlook_toggleHalt, before]
        simp only [misplacedBy, was, Click.mark]
        cases s.loop.console.control.reset && s.loop.isPastReset <;> simp [Nat.bodd_succ]

theorem due_mark (m : Sitting) : (m.turn .mark).due = m.due := by
  obtain ⟨p, click⟩ := m
  cases click <;> rfl

theorem offBy_mark {m : Sitting} {n : Nat} (off : m.OffBy n) : (m.turn .mark).OffBy n := by
  intro s running
  rw [due_mark]
  obtain ⟨p, click⟩ := m
  cases click with
  | none => exact off s running
  | some c => exact off s running

/-- A turn that leaves the outlook, the mark and the click alone. -/
theorem offBy_of_kept {m : Sitting} {n : Nat} (off : m.OffBy n) {p : Player} {f : Session → Session}
    (session : p.session = m.player.session.map f) (halted : p.halted = m.player.halted)
    (kept : ∀ s, (f s).loop.outlook = s.loop.outlook) :
    ({ m with player := p } : Sitting).OffBy n := by
  obtain ⟨q, click⟩ := m
  intro s' running
  cases was : q.session with
  | none => simp [session, was] at running
  | some s =>
    obtain rfl : f s = s' := by simpa [session, was] using running
    have due : (⟨p, click⟩ : Sitting).due = (⟨q, click⟩ : Sitting).due := by
      cases click with
      | none => exact halted
      | some c => exact congrArg c.mark halted
    rw [kept, due]
    exact off s was

theorem outlook_hold (s : Session) (j : Joypad) : (s.hold j).loop.outlook = s.loop.outlook := by
  unfold Session.hold
  generalize Button.all = buttons
  induction buttons generalizing s with
  | nil => rfl
  | cons button rest ih =>
    rw [List.foldl_cons, ih]
    split
    · exact Loop.outlook_press s.loop button
    · exact Loop.outlook_release s.loop button

theorem offBy_turn {m : Sitting} {n : Nat} (off : m.OffBy n) (t : Turn) :
    (m.turn t).OffBy (m.misplacedBy n t) := by
  cases t with
  | ask c => exact offBy_ask off c
  | mark => exact offBy_mark off
  | work => exact offBy_of_kept off rfl rfl fun s => Loop.outlook_step s.loop
  | hold keys => exact offBy_of_kept off rfl rfl fun s => outlook_hold s _
  | refresh => exact offBy_of_kept off (session_refresh _) (halted_refresh _) fun _ => rfl

/-- **After any run, the mark to come differs from what the processor will come to by the halts that
have changed places with a reset.** -/
theorem offBy_run {m : Sitting} {n : Nat} (off : m.OffBy n) (turns : List Turn) :
    (m.run turns).OffBy (m.misplaced n turns) := by
  induction turns generalizing m n with
  | nil => exact off
  | cons t rest ih => exact ih (offBy_turn off t)

/-! ## A halt and a reset -/

/-- A halt and then a reset are clicked, and the loop takes five steps. -/
def haltThenReset : List Turn :=
  [.ask .toggleHalt, .mark, .ask .reset, .mark, .work, .work, .work, .work, .work]

/-- A halt and a reset, both before the loop looks, leave the processor halted and the player unaware
of it, whatever cartridge runs. -/
theorem run_haltThenReset (p : Player) (name : String) (entry : Option UInt64)
    (cartridge : Cartridge) :
    ∃ s, ((start p name entry cartridge).run haltThenReset).player.session = some s ∧
      s.loop.IsQuiet ∧ s.loop.console.isHalted = true ∧
      ((start p name entry cartridge).run haltThenReset).player.halted = false := by
  generalize begun : (Session.start name entry cartridge p.joypad p.handover).loop.console = c
  have idle : c.control = .idle := by
    rw [← begun]
    simp only [Session.start, Loop.start, Console.note]
    exact control_ofCartridge _ _ _ _ _ _
  have one : (c.requestAll [.toggleHalt, .reset]).control.haltToggles = 1 := by
    change c.control.haltToggles + 1 = 1
    rw [idle]
    rfl
  have both := Loop.isHalted_of_both (c := c.requestAll [.toggleHalt, .reset]) rfl one
  subst begun
  exact ⟨_, rfl, both.1, both.2, rfl⟩

/-- A player in an empty folder. -/
def untouched : Player := .fresh { root := [], home := [] } "" { manifest := .blank } (.units 0) []

/-- A cartridge with one byte of program. -/
def oneByte : Cartridge where
  program := ⟨#[0xEA]⟩
  tiles := .empty
  mirroring := .horizontal
  trainer := none
  header := none
  program_pos := by decide
  program_le := by decide
  tiles_le := by decide

/-! ## The mark -/

/-- **With nothing left to apply, the mark is right exactly if the halts that have changed places with
a reset are even in number, a click that is half done counting as one more.** -/
theorem halted_eq_iff (p : Player) (name : String) (entry : Option UInt64) (cartridge : Cartridge)
    (turns : List Turn) {s : Session}
    (running : ((start p name entry cartridge).run turns).player.session = some s)
    (quiet : s.loop.IsQuiet) :
    ((start p name entry cartridge).run turns).player.halted = s.loop.console.isHalted ↔
      Even ((start p name entry cartridge).misplaced 0 turns +
        ((start p name entry cartridge).run turns).behind) := by
  have off := offBy_run (offBy_start p name entry cartridge) turns s running
  rw [Loop.outlook_of_isQuiet quiet] at off
  rw [off]
  generalize (start p name entry cartridge).misplaced 0 turns = n
  generalize (start p name entry cartridge).run turns = m
  have parity : Even (n + m.behind) ↔ (n.bodd ^^ m.behind.bodd) = false := by
    rw [← Nat.bodd_add, Nat.even_iff, Nat.mod_two_of_bodd]
    cases (n + m.behind).bodd <;> decide
  rw [parity]
  unfold behind
  cases m.player.halted <;> cases m.due <;> cases n.bodd <;> decide

theorem halted_eq_iff_of_haltThenReset :
    ∃ s, ((start untouched "" none oneByte).run haltThenReset).player.session = some s ∧
      s.loop.IsQuiet ∧
      (((start untouched "" none oneByte).run haltThenReset).player.halted =
          s.loop.console.isHalted ↔
        Even ((start untouched "" none oneByte).misplaced 0 haltThenReset +
          ((start untouched "" none oneByte).run haltThenReset).behind)) := by
  obtain ⟨s, running, quiet, -, -⟩ := run_haltThenReset untouched "" none oneByte
  exact ⟨s, running, quiet, halted_eq_iff untouched "" none oneByte haltThenReset running quiet⟩

theorem halted_ne_of_haltThenReset :
    ∃ s, ((start untouched "" none oneByte).run haltThenReset).player.session = some s ∧
      s.loop.IsQuiet ∧ ((start untouched "" none oneByte).run haltThenReset).click = none ∧
      ((start untouched "" none oneByte).run haltThenReset).player.halted ≠
        s.loop.console.isHalted := by
  obtain ⟨s, running, quiet, halted, unaware⟩ := run_haltThenReset untouched "" none oneByte
  refine ⟨s, running, quiet, rfl, ?_⟩
  rw [halted, unaware]
  decide

end Sitting

end Famicom.Player

import Famicom.Proofs.Console.Moves
import Mathlib.Data.List.Induction
import Mathlib.Data.List.TakeWhile
import Mathlib.Data.Nat.ModEq

/-!
# What becomes of requests

A log beside a run keeps every request and everything that the loop does about requests; the cells
of the run control and the processor agree with it at all times, wherever the requests fall.

* `Console.log`: the requests pending at first, and then what has happened, in order.
* `Loop.accounts_move`: no request and no step of the loop brings the state and the log apart.
* `Loop.ended_of_stop`: once a stop was asked for, the loop ends.
* `requests_accounted`: no request is lost and none is applied twice, but for the wrapping count.
-/

namespace Famicom.Console

variable {S : Type}

/-! ## The log -/

/-- What happens while the loop runs, as far as requests go: one was made, the loop sought a request
to reset or took those to halt or resume, the console was reset, one request to halt or resume was
applied, or an instruction was executed or has failed. -/
inductive Deed where
  | asked (r : Request)
  | soughtReset
  | tookToggles
  | reset
  | toggled
  | executed
  deriving DecidableEq, Repr

/-- What an act of the loop is, as far as requests go. -/
def Act.deeds [FrameSink S] (c : Console S) : Act → List Deed
  | .takeReset => [.soughtReset]
  | .takeToggles => [.tookToggles]
  | .reset => [.reset]
  | .toggleHalt => [.toggled]
  | .step => .executed :: c.stepRequests.map .asked
  | _ => []

/-- What a move of the loop does about requests. A step of the loop is its acts and nothing else, by
`Loop.actAll_acts`. -/
def Loop.deeds [FrameSink S] (l : Loop S) : Move → List Deed
  | .ask r => [.asked r]
  | .work => l.acts.flatMap (Act.deeds l.console)

/-- The log after some moves, given the log before them. -/
def Loop.extend [FrameSink S] (l : Loop S) (log : List Deed) : List Move → List Deed
  | [] => log
  | m :: rest => (l.move m).extend (log ++ l.deeds m) rest

/-- The log of a run. It begins with the requests that are pending before. -/
def log [FrameSink S] (c : Console S) (ms : List Move) : List Deed :=
  (Loop.start c).extend (c.control.pending.map .asked) ms

/-- How many requests of a kind were made since `mark`. -/
def since (mark : Deed) (r : Request) (log : List Deed) : Nat :=
  log.foldl (fun n d => if d = mark then 0 else if d = .asked r then n + 1 else n) 0

/-- How the requests to halt or resume fare before they are taken. Those that are lost had wrapped
their count when the loop took it. -/
structure Tally where
  waiting : Nat
  lost : Nat

def Tally.enter (t : Tally) : Deed → Tally
  | .asked .toggleHalt => { t with waiting := t.waiting + 1 }
  | .tookToggles => { waiting := 0, lost := t.lost + (t.waiting - t.waiting % UInt32.size) }
  | _ => t

def tally (log : List Deed) : Tally := log.foldl Tally.enter ⟨0, 0⟩

/-- What a deed does to the mark of a halted processor: a reset lets it run, and a halt turns it
over. -/
@[simp] def Deed.turn : Deed → Bool → Bool
  | .reset, _ => false
  | .toggled, halted => !halted
  | _, halted => halted

/-- Whether the processor is halted after a log, if it has started in the state `started`. -/
def stateAfter (started : Bool) (log : List Deed) : Bool :=
  log.foldl (fun halted d => d.turn halted) started

/-- How many instructions were executed since the first request to stop. -/
def lateSteps (log : List Deed) : Nat := (log.dropWhile (· ≠ .asked .stop)).count .executed

theorem Tally.enter_asked (t : Tally) (r : Request) :
    t.enter (.asked r) =
      { t with waiting := if r = .toggleHalt then t.waiting + 1 else t.waiting } := by
  cases r <;> rfl

@[simp] theorem stateAfter_append_singleton (started : Bool) (log : List Deed) (d : Deed) :
    stateAfter started (log ++ [d]) = d.turn (stateAfter started log) := by
  simp only [stateAfter, List.foldl_append, List.foldl_cons, List.foldl_nil]

/-- Without a reset the parity of the halts decides. -/
theorem stateAfter_eq {log : List Deed} (absent : .reset ∉ log) (started : Bool) :
    stateAfter started log = (started ^^ (log.count .toggled).bodd) := by
  induction log using List.reverseRecOn with
  | nil => exact (Bool.xor_false _).symm
  | append_singleton log d ih =>
    obtain ⟨before, last⟩ : .reset ∉ log ∧ .reset ≠ d := by simpa using absent
    rw [stateAfter_append_singleton, ih before]
    cases d with
    | reset => exact absurd rfl last
    | toggled => simp [Nat.bodd_succ]
    | _ => simp

@[simp] theorem since_append_singleton (mark : Deed) (r : Request) (log : List Deed) (d : Deed) :
    since mark r (log ++ [d]) =
      if d = mark then 0 else if d = .asked r then since mark r log + 1 else since mark r log := by
  simp only [since, List.foldl_append, List.foldl_cons, List.foldl_nil]

@[simp] theorem tally_append_singleton (log : List Deed) (d : Deed) :
    tally (log ++ [d]) = (tally log).enter d := by
  simp only [tally, List.foldl_append, List.foldl_cons, List.foldl_nil]

/-- The count only ever loses whole turns. -/
theorem lost_mod (log : List Deed) : (tally log).lost % UInt32.size = 0 := by
  induction log using List.reverseRecOn with
  | nil => rfl
  | append_singleton log d ih =>
    rw [tally_append_singleton]
    unfold Tally.enter
    split
    · exact ih
    · have turns : ((tally log).waiting - (tally log).waiting % UInt32.size) % UInt32.size = 0 :=
        Nat.mod_eq_zero_of_dvd (Nat.dvd_sub_mod _)
      dsimp only
      rw [Nat.add_mod, ih, turns, Nat.zero_mod]
    · exact ih

theorem dropWhile_of_not_mem {log : List Deed} (absent : .asked .stop ∉ log) :
    log.dropWhile (· ≠ .asked .stop) = [] := by
  rw [List.dropWhile_eq_nil_iff]
  intro d member
  simpa using fun same : d = .asked .stop => absent (same ▸ member)

theorem lateSteps_of_not_mem {log : List Deed} (absent : .asked .stop ∉ log) :
    lateSteps log = 0 := by
  rw [lateSteps, dropWhile_of_not_mem absent, List.count_nil]

@[simp] theorem lateSteps_append_singleton (log : List Deed) (d : Deed) :
    lateSteps (log ++ [d]) =
      lateSteps log + if .asked .stop ∈ log ∧ d = .executed then 1 else 0 := by
  by_cases asked : .asked .stop ∈ log
  · have nonempty : log.dropWhile (· ≠ .asked .stop) ≠ [] := by
      rw [ne_eq, List.dropWhile_eq_nil_iff]
      intro all
      simpa using all _ asked
    simp only [lateSteps, List.dropWhile_append, List.isEmpty_iff, nonempty, if_false,
      List.count_append, List.count_singleton, asked, true_and, beq_iff_eq]
  · -- Nothing counts before the first request to stop, and that request is no instruction.
    simp only [lateSteps, List.dropWhile_append, List.isEmpty_iff, dropWhile_of_not_mem asked,
      if_true, asked, false_and, if_false, List.count_nil, List.dropWhile_cons, List.dropWhile_nil]
    split
    · rfl
    · rename_i stop
      obtain rfl : d = .asked .stop := by simpa using stop
      rfl

/-! ## The invariant -/

theorem toNat_sub_one {n : UInt32} (pending : n ≠ 0) : (n - 1).toNat + 1 = n.toNat := by
  have positive : 1 ≤ n.toNat :=
    Nat.one_le_iff_ne_zero.mpr fun zero => pending (UInt32.toNat_inj.mp zero)
  rw [UInt32.toNat_sub_of_le n 1 (UInt32.le_iff_toNat_le.mpr positive)]
  exact Nat.sub_add_cancel positive

/-- So many halts are taken and not yet applied. -/
def Phase.taken : Phase → Nat
  | .applyToggles n => n.toNat
  | _ => 0

/-- One if a request to reset is taken and not yet applied. -/
def Phase.resetting : Phase → Nat
  | .applyReset => 1
  | _ => 0

/-- So many instructions will be executed before the loop looks for a request to stop. -/
def Phase.imminent : Phase → Nat
  | .proceed => 1
  | _ => 0

/-- The run control, the state of the processor and the place of the loop agree with a log, if the
processor has started in the state `started`. -/
structure Accounts (started : Bool) (control : Control) (halted : Bool) (phase : Phase)
    (log : List Deed) : Prop where
  waiting : control.haltToggles.toNat = (tally log).waiting % UInt32.size
  halts : log.count .toggled + phase.taken + (tally log).waiting + (tally log).lost =
    log.count (.asked .toggleHalt)
  state : halted = stateAfter started log
  pendingReset : control.reset = true ↔ since .soughtReset .reset log ≠ 0
  resets : since .reset .reset log = 0 ∨ control.reset = true ∨ phase = .applyReset
  owed : log.count .reset + phase.resetting + control.reset.toNat ≤ log.count (.asked .reset)
  stop : control.stop = true ↔ .asked .stop ∈ log
  late : lateSteps log + phase.imminent ≤ 1

namespace Accounts

variable {started halted : Bool} {control : Control} {phase : Phase} {log : List Deed}

/-- At the start nothing was asked. -/
theorem idle (halted : Bool) : Accounts halted .idle halted .takeReset [] where
  waiting := rfl
  halts := rfl
  state := rfl
  pendingReset := by simp [Control.idle, since]
  resets := .inl rfl
  owed := Nat.le_refl 0
  stop := by simp [Control.idle]
  late := Nat.zero_le _

/-- **A request is logged**, whoever makes it and wherever the loop is. -/
theorem ask (accounts : Accounts started control halted phase log) (r : Request) :
    Accounts started (control.request r) halted phase (log ++ [.asked r]) where
  waiting := by
    have waiting := accounts.waiting
    rw [tally_append_singleton, Tally.enter_asked, Control.haltToggles_request]
    split
    · rw [UInt32.toNat_add, waiting]
      exact Nat.mod_add_mod _ _ _
    · exact waiting
  halts := by
    have halts := accounts.halts
    rw [tally_append_singleton, Tally.enter_asked]
    by_cases toggle : r = .toggleHalt
    · simp [toggle]
      omega
    · simpa [toggle] using halts
  state := by simpa using accounts.state
  pendingReset := by
    rw [Control.reset_request, accounts.pendingReset]
    by_cases same : r = .reset <;> simp [same]
  resets := by
    rw [Control.reset_request]
    by_cases same : r = .reset
    · exact .inr (.inl (.inr same))
    · simpa [same] using accounts.resets
  owed := by
    have owed := accounts.owed
    by_cases same : r = .reset
    · have one := (control.request r).reset.toNat_le
      simp [same] at one ⊢
      omega
    · have kept : (control.request r).reset = control.reset := by
        rw [Bool.eq_iff_iff, Control.reset_request]
        simp [same]
      rw [kept]
      simpa [same] using owed
  stop := by
    rw [Control.stop_request, accounts.stop]
    simp [eq_comm]
  late := by simpa using accounts.late

/-- Whatever the sink asks for is logged like any other request. -/
theorem askAll (accounts : Accounts started control halted phase log) (rs : List Request) :
    Accounts started (control.requestAll rs) halted phase (log ++ rs.map .asked) := by
  induction rs generalizing control log with
  | nil =>
    rw [List.map_nil, List.append_nil]
    exact accounts
  | cons r rs ih =>
    rw [List.map_cons, List.append_cons]
    exact ih (accounts.ask r)

/-- At the start the log holds the requests that are pending. -/
theorem ofPending (control : Control) (halted : Bool) :
    Accounts halted control halted .takeReset (control.pending.map .asked) := by
  have asked := (idle halted).askAll control.pending
  rwa [Control.requestAll_pending] at asked

/-! ## Steps of the loop -/

theorem soughtReset (accounts : Accounts started control halted .takeReset log) :
    Accounts started control.takeReset.2 halted
      (if control.reset then .applyReset else .takeToggles) (log ++ [.soughtReset]) where
  waiting := by simpa [Control.takeReset, Tally.enter] using accounts.waiting
  halts := by cases control.reset <;> simpa [Tally.enter, Phase.taken] using accounts.halts
  state := by simpa using accounts.state
  pendingReset := by simp [Control.takeReset]
  resets := by
    cases asked : control.reset with
    | false =>
      have resets := accounts.resets
      simp [asked] at resets
      exact .inl (by simpa using resets)
    | true => exact .inr (.inr rfl)
  owed := by
    have owed := accounts.owed
    cases asked : control.reset <;>
      simpa [Control.takeReset, Phase.resetting, asked] using owed
  stop := by simpa [Control.takeReset] using accounts.stop
  late := by cases control.reset <;> simpa [Phase.imminent] using accounts.late

theorem reset (accounts : Accounts started control halted .applyReset log) :
    Accounts started control false .takeToggles (log ++ [.reset]) where
  waiting := by simpa [Tally.enter] using accounts.waiting
  halts := by simpa [Tally.enter, Phase.taken] using accounts.halts
  state := by simp
  pendingReset := by simpa using accounts.pendingReset
  resets := by simp
  owed := by
    have owed := accounts.owed
    simp only [Phase.resetting] at owed
    simp [Phase.resetting]
    omega
  stop := by simpa using accounts.stop
  late := by simpa [Phase.imminent] using accounts.late

theorem tookToggles (accounts : Accounts started control halted .takeToggles log) :
    Accounts started control.takeHaltToggles.2 halted
      (.applyToggles control.haltToggles) (log ++ [.tookToggles]) where
  waiting := by simp [Control.takeHaltToggles, Tally.enter]
  halts := by
    have halts := accounts.halts
    have whole := Nat.mod_le (tally log).waiting UInt32.size
    simp only [Phase.taken] at halts
    simp only [tally_append_singleton, Tally.enter, Phase.taken, accounts.waiting]
    simp
    omega
  state := by simpa using accounts.state
  pendingReset := by simpa [Control.takeHaltToggles] using accounts.pendingReset
  resets := by simpa [Control.takeHaltToggles] using accounts.resets
  owed := by simpa [Control.takeHaltToggles, Phase.resetting] using accounts.owed
  stop := by simpa [Control.takeHaltToggles] using accounts.stop
  late := by simpa [Phase.imminent] using accounts.late

theorem toggled {n : UInt32} (pending : n ≠ 0)
    (accounts : Accounts started control halted (.applyToggles n) log) :
    Accounts started control (!halted) (.applyToggles (n - 1)) (log ++ [.toggled]) where
  waiting := by simpa [Tally.enter] using accounts.waiting
  halts := by
    have halts := accounts.halts
    have fewer := toNat_sub_one pending
    simp only [Phase.taken] at halts
    simp [Tally.enter, Phase.taken]
    omega
  state := by simp [accounts.state]
  pendingReset := by simpa using accounts.pendingReset
  resets := by simpa using accounts.resets
  owed := by simpa [Phase.resetting] using accounts.owed
  stop := by simpa using accounts.stop
  late := by simpa [Phase.imminent] using accounts.late

theorem executed (accounts : Accounts started control halted .proceed log) :
    Accounts started control halted .takeReset (log ++ [.executed]) where
  waiting := by simpa [Tally.enter] using accounts.waiting
  halts := by simpa [Tally.enter, Phase.taken] using accounts.halts
  state := by simpa using accounts.state
  pendingReset := by simpa using accounts.pendingReset
  resets := by simpa using accounts.resets
  owed := by simpa [Phase.resetting] using accounts.owed
  stop := by simpa using accounts.stop
  late := by
    have late := accounts.late
    simp only [Phase.imminent] at late
    rw [lateSteps_append_singleton]
    dsimp only [Phase.imminent]
    split <;> omega

/-- A step of the loop that does nothing about requests. -/
theorem advance (accounts : Accounts started control halted phase log) {phase' : Phase}
    (applied : phase ≠ .applyReset) (fresh : phase'.resetting = 0)
    (taken : phase'.taken = phase.taken)
    (late : lateSteps log + phase'.imminent ≤ 1) :
    Accounts started control halted phase' log where
  waiting := accounts.waiting
  halts := by
    rw [taken]
    exact accounts.halts
  state := accounts.state
  pendingReset := accounts.pendingReset
  resets := accounts.resets.imp_right fun resets => .inl (resets.resolve_right applied)
  owed := by
    have owed := accounts.owed
    rw [fresh]
    omega
  stop := accounts.stop
  late := late

end Accounts

/-- The state of a loop agrees with a log. -/
def Loop.Accounts (l : Loop S) (started : Bool) (log : List Deed) : Prop :=
  Console.Accounts started l.console.control l.console.isHalted l.phase log

namespace Loop

variable [FrameSink S] {started : Bool} {log : List Deed}

omit [FrameSink S] in
theorem accounts_start (c : Console S) :
    (start c).Accounts c.isHalted (c.control.pending.map .asked) := by
  have state : (c.note .loopStarted).isHalted = c.isHalted :=
    congrArg (·.2.1) (dials_note c .loopStarted)
  unfold Loop.Accounts start
  rw [state]
  exact .ofPending c.control c.isHalted

/-- **No step of the loop brings its state and the log apart.** -/
theorem accounts_step {l : Loop S} (accounts : l.Accounts started log) :
    l.step.Accounts started (log ++ l.deeds .work) := by
  obtain ⟨c, phase⟩ := l
  have kept : log ++ [] = log := List.append_nil log
  unfold Loop.Accounts at accounts ⊢
  cases phase with
  | takeReset => exact accounts.soughtReset
  | applyReset =>
    have running : c.reset.isHalted = false := congrArg (·.2.1) (dials_reset c)
    simp only [step, deeds, control_reset, running]
    exact accounts.reset
  | takeToggles => exact accounts.tookToggles
  | applyToggles n =>
    by_cases zero : n = 0
    · subst zero
      simp only [step, deeds, acts, if_true, List.flatMap_nil, kept]
      exact accounts.advance (by simp) rfl rfl accounts.late
    · have turned : c.toggleHalt.isHalted = !c.isHalted := congrArg (·.2.1) (dials_toggleHalt c)
      simp only [step, deeds, acts, zero, if_false, List.flatMap_singleton, turned]
      exact accounts.toggled zero
  | checkStop =>
    cases stopped : c.control.stop with
    | true =>
      have state : ∀ e, (c.note e).isHalted = c.isHalted :=
        fun e => congrArg (·.2.1) (dials_note c e)
      simp only [step, deeds, acts, stopped, if_true, List.flatMap_singleton, Act.deeds, kept, state]
      exact accounts.advance (by simp) rfl rfl accounts.late
    | false =>
      have onTime : lateSteps log = 0 := by
        refine lateSteps_of_not_mem fun asked => ?_
        rw [← accounts.stop, stopped] at asked
        cases asked
      simp only [step, deeds, acts, stopped, Bool.false_eq_true, if_false, List.flatMap_nil, kept]
      exact accounts.advance (by simp) rfl rfl (by rw [onTime]; exact Nat.le_refl 1)
  | proceed =>
    cases halted : c.isHalted with
    | true =>
      have state : (wait c).isHalted = true := (congrArg (·.2.1) (dials_wait c)).trans halted
      simp only [step, deeds, acts, halted, if_true, List.flatMap_singleton, Act.deeds, kept,
        control_wait, state]
      rw [halted] at accounts
      exact accounts.advance (by simp) rfl rfl (Nat.le_of_succ_le accounts.late)
    | false =>
      have state : c.step.2.isHalted = false := (isHalted_step c).trans halted
      rw [halted] at accounts
      have asked := accounts.executed.askAll c.stepRequests
      rw [← control_step_eq, List.append_assoc] at asked
      have deeds : (⟨c, .proceed⟩ : Loop S).deeds .work =
          .executed :: c.stepRequests.map .asked := by
        simp only [deeds, acts, halted, Bool.false_eq_true, if_false, List.flatMap_singleton,
          Act.deeds]
      cases result : c.step.1 with
      | ok cycles =>
        simp only [deeds, step, halted, result, Bool.false_eq_true, if_false, state]
        exact asked
      | error fault =>
        simp only [deeds, step, halted, result, Bool.false_eq_true, if_false, state]
        exact asked.advance (by simp) rfl rfl asked.late
  | ended result =>
    simp only [step, deeds, acts, List.flatMap_nil, kept]
    exact accounts

theorem accounts_move {l : Loop S} (accounts : l.Accounts started log) (m : Move) :
    (l.move m).Accounts started (log ++ l.deeds m) := by
  cases m with
  | ask r =>
    unfold Loop.Accounts at accounts ⊢
    have state : (l.ask r).console.isHalted = l.console.isHalted :=
      congrArg (·.2.1) (dials_request l.console r)
    simp only [move, deeds, state]
    rw [ask, control_request]
    exact Console.Accounts.ask accounts r
  | work => exact accounts_step accounts

theorem accounts_moves {l : Loop S} (accounts : l.Accounts started log) (ms : List Move) :
    (l.moves ms).Accounts started (l.extend log ms) := by
  induction ms generalizing l log with
  | nil => exact accounts
  | cons m rest ih => exact ih (accounts_move accounts m)

end Loop

/-! ## The end of the loop -/

/-- So many steps the loop takes at most before it ends, if a stop was asked for. -/
def Phase.remaining : Phase → Nat
  | .takeReset => UInt32.size + 4
  | .applyReset => UInt32.size + 3
  | .takeToggles => UInt32.size + 2
  | .applyToggles n => n.toNat + 2
  | .checkStop => 1
  | .proceed => UInt32.size + 5
  | .ended _ => 0

theorem Phase.remaining_le (p : Phase) : p.remaining ≤ UInt32.size + 5 := by
  cases p with
  | applyToggles n =>
    have small : n.toNat < UInt32.size := n.toNat_lt
    simp only [remaining]
    omega
  | _ => simp [remaining]

theorem Phase.ended_of_remaining {p : Phase} (exhausted : p.remaining = 0) : ∃ r, p = .ended r := by
  cases p with
  | ended r => exact ⟨r, rfl⟩
  | _ => simp [remaining] at exhausted

namespace Loop

variable [FrameSink S]

/-- Nothing takes a request to stop back, and it leaves the loop one step fewer. -/
theorem remaining_step {l : Loop S} (asked : l.console.control.stop = true) :
    l.step.console.control.stop = true ∧ l.step.phase.remaining ≤ l.phase.remaining - 1 := by
  obtain ⟨c, phase⟩ := l
  dsimp only at asked
  cases phase with
  | takeReset =>
    refine ⟨asked, ?_⟩
    simp only [step]
    cases c.control.takeReset.1 <;> simp [Phase.remaining]
  | applyReset => exact ⟨(congrArg Control.stop (control_reset c)).trans asked, Nat.le_refl _⟩
  | takeToggles =>
    have small : c.control.haltToggles.toNat < UInt32.size := c.control.haltToggles.toNat_lt
    refine ⟨asked, ?_⟩
    simp only [step, Control.takeHaltToggles, Phase.remaining]
    omega
  | applyToggles n =>
    by_cases zero : n = 0
    · subst zero
      exact ⟨asked, Nat.le_refl 1⟩
    · have fewer := toNat_sub_one zero
      simp only [step, zero, if_false, Phase.remaining]
      exact ⟨asked, by omega⟩
  | checkStop =>
    simp only [step, asked, if_true]
    exact ⟨asked, Nat.le_refl 0⟩
  | proceed =>
    cases halted : c.isHalted with
    | true =>
      simp only [step, halted, if_true, control_wait]
      exact ⟨asked, Nat.le_refl _⟩
    | false =>
      have kept : c.step.2.control.stop = true := by
        rw [control_step_eq]
        exact Control.stop_requestAll asked _
      cases result : c.step.1 with
      | ok cycles =>
        simp only [step, halted, result, Bool.false_eq_true, if_false]
        exact ⟨kept, Nat.le_refl _⟩
      | error fault =>
        simp only [step, halted, result, Bool.false_eq_true, if_false]
        exact ⟨kept, Nat.zero_le _⟩
  | ended result => exact ⟨asked, Nat.le_refl 0⟩

theorem remaining_moves {l : Loop S} (asked : l.console.control.stop = true) (ms : List Move) :
    (l.moves ms).console.control.stop = true ∧
      (l.moves ms).phase.remaining ≤ l.phase.remaining - ms.count .work := by
  induction ms generalizing l with
  | nil => exact ⟨asked, Nat.le_refl _⟩
  | cons m rest ih =>
    cases m with
    | ask r =>
      have still : (l.ask r).console.control.stop = true := by
        rw [ask, control_request]
        exact (Control.stop_request _ r).mpr (.inl asked)
      rw [List.count_cons_of_ne (by simp)]
      exact ih still
    | work =>
      obtain ⟨still, fewer⟩ := remaining_step asked
      obtain ⟨later, few⟩ := ih still
      refine ⟨later, few.trans ?_⟩
      rw [List.count_cons_self]
      omega

/-- **Once a stop was asked for, the loop ends**, whatever else is asked meanwhile. -/
theorem ended_of_stop {l : Loop S} (asked : l.console.control.stop = true) {ms : List Move}
    (enough : UInt32.size + 5 ≤ ms.count .work) :
    ∃ result, (l.moves ms).phase = .ended result := by
  have few := (remaining_moves asked ms).2
  have most := l.phase.remaining_le
  exact Phase.ended_of_remaining (by omega)

end Loop

/-! ## The account -/

theorem bodd_eq_of_modEq {m n : Nat} (same : m ≡ n [MOD UInt32.size]) : m.bodd = n.bodd := by
  have parity : m % 2 = n % 2 := same.of_dvd (by decide)
  rw [Nat.mod_two_of_bodd, Nat.mod_two_of_bodd] at parity
  revert parity
  cases m.bodd <;> cases n.bodd <;> decide

/-- **No request is lost and none is applied twice**, at any moment of a run, whoever makes requests
and wherever they fall between the steps of the loop. The halts applied, taken and pending are those
that were made, as far as a count that wraps can tell. What was applied decides the state of the
processor, so that without a reset the parity of the halts does. No request to reset stays without a
reset, and there is no reset without a request. Once a stop was asked for, the loop executes one more
instruction at most and ends, with the request still standing. -/
theorem requests_accounted [FrameSink S] (c : Console S) (ms : List Move) :
    let l := (Loop.start c).moves ms
    let log := c.log ms
    (log.count .toggled + l.phase.taken + l.console.control.haltToggles.toNat ≡
        log.count (.asked .toggleHalt) [MOD UInt32.size]) ∧
      l.console.isHalted = stateAfter c.isHalted log ∧
      (.reset ∉ log → l.phase.taken = 0 → l.console.control.haltToggles = 0 →
        l.console.isHalted = (c.isHalted ^^ (log.count (.asked .toggleHalt)).bodd)) ∧
      (since .reset .reset log = 0 ∨ l.console.control.reset = true ∨ l.phase = .applyReset) ∧
      log.count .reset + l.phase.resetting + l.console.control.reset.toNat ≤
        log.count (.asked .reset) ∧
      lateSteps log ≤ 1 ∧
      (.asked .stop ∈ log → ∀ more : List Move,
        (l.moves more).console.control.stop = true ∧
          (UInt32.size + 5 ≤ more.count .work →
            ∃ result, (l.moves more).phase = .ended result)) := by
  intro l log
  have accounts : Accounts c.isHalted l.console.control l.console.isHalted l.phase log :=
    Loop.accounts_moves (Loop.accounts_start c) ms
  have counted : log.count .toggled + l.phase.taken + l.console.control.haltToggles.toNat ≡
      log.count (.asked .toggleHalt) [MOD UInt32.size] := by
    have halts := accounts.halts
    have waiting := accounts.waiting
    have turns : (tally log).lost % UInt32.size = 0 := lost_mod _
    simp only [UInt32.size] at waiting turns
    unfold Nat.ModEq
    simp only [UInt32.size]
    omega
  refine ⟨counted, accounts.state, ?_, accounts.resets, accounts.owed,
    Nat.le_of_add_right_le accounts.late, ?_⟩
  · intro unreset taken pending
    rw [taken, pending] at counted
    rw [accounts.state, stateAfter_eq unreset]
    exact congrArg _ (bodd_eq_of_modEq counted)
  · intro asked more
    have stop := accounts.stop.mpr asked
    exact ⟨(Loop.remaining_moves stop more).1, Loop.ended_of_stop stop⟩

end Famicom.Console

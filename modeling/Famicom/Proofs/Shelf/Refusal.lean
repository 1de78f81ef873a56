import Famicom.Proofs.Shelf.Files

/-!
# Changes of a shelf that are refused

A change of a shelf calls on its folder several times, and any of the calls may be refused. The file
of the manifest is the last to change, so that a shelf opened anew is what it was. The open shelf is
not: it takes the change on before its manifest is saved and keeps it when saving fails, and a
removal has deleted the image by then. Nothing has changed only if the first call was refused, the
one for the image, or none was made.

* `Program.runAgainst`: a run some of whose calls are refused from outside.
* `Fate`: the ways in which a change can end. `fate` shows that there are no others.
* `untouched_iff`: the failed changes that left everything as it was.
-/

namespace Famicom

open Storage

namespace Storage.Program

variable {α β : Type}

/-- What a run comes to, and how many calls it made. -/
structure Ran (α : Type) where
  result : α
  folder : Folder
  calls : Nat

/-- The run with one call more in front. -/
def Ran.afterCall (r : Ran α) : Ran α := { r with calls := r.calls + 1 }

/-- The answer to a call, which may be refused from outside. -/
def answer (refusal : Option Refusal) (own : Except Refusal β) : Except Refusal β :=
  match refusal with
  | some r => .error r
  | none => own

theorem eq_of_answer_eq_ok {refusal : Option Refusal} {own : Except Refusal β} {b : β}
    (answered : answer refusal own = .ok b) : own = .ok b := by
  cases refusal with
  | none => exact answered
  | some r => cases answered

/-- Runs a program to its end. Each call takes its turn in the list of refusals from outside; a call
that is refused does nothing to the folder. -/
def runAgainst : Program α → List (Option Refusal) → Folder → Ran α
  | .done a, _, f => ⟨a, f, 0⟩
  | .read name next, rs, f =>
    ((next (answer rs.head?.join (f.read name))).runAgainst rs.tail f).afterCall
  | .write name content next, rs, f =>
    let r := settle f (answer rs.head?.join (f.write name content))
    ((next r.1).runAgainst rs.tail r.2).afterCall
  | .remove name next, rs, f =>
    let r := settle f (answer rs.head?.join (f.remove name))
    ((next r.1).runAgainst rs.tail r.2).afterCall
  | .rename source target next, rs, f =>
    let r := settle f (answer rs.head?.join (f.rename source target))
    ((next r.1).runAgainst rs.tail r.2).afterCall

/-- Without refusals from outside a run is a plain run. -/
theorem runAgainst_nil (p : Program α) (f : Folder) :
    ((p.runAgainst [] f).result, (p.runAgainst [] f).folder) = p.run f := by
  induction p generalizing f with
  | done a => rfl
  | read name next ih => exact ih _ f
  | write name content next ih => exact ih _ _
  | remove name next ih => exact ih _ _
  | rename source target next ih => exact ih _ _

end Storage.Program

namespace Shelf

open Storage.Program (Ran)

/-- A change of a shelf. -/
inductive Change where
  | add (name : String) (image : ByteArray)
  | remove (id : UInt64)

def Change.program (s : Shelf) : Change → Program (Except Problem Entry × Shelf)
  | .add name image => s.add name image
  | .remove id => s.remove id

/-- Shelf and folder show what another shelf and its folder showed. -/
structure Untouched (s : Shelf) (f : Folder) (s' : Shelf) (f' : Folder) : Prop where
  lists : s'.entries = s.entries
  reopens : (openShelf.run f').1 = (openShelf.run f).1
  loads : ∀ e ∈ s.entries, ((s'.load e.id).run f').1 = ((s.load e.id).run f).1

/-- The ways in which a change can end. Early, at its first call or before, nothing was done; late,
while the manifest is saved, the shelf has changed and the manifest has not. -/
inductive Fate (s : Shelf) (f : Folder) : Ran (Except Problem Entry × Shelf) → Prop where
  | early (p : Problem) {calls : Nat} (few : calls ≤ 1) : Fate s f ⟨(.error p, s), f, calls⟩
  | late (p : Problem) {s' : Shelf} {g : Folder} {calls : Nat} (many : 1 < calls)
      (changed : s'.entries.length ≠ s.entries.length)
      (kept : g.find? manifestName = f.find? manifestName) : Fate s f ⟨(.error p, s'), g, calls⟩
  | done (e : Entry) (s' : Shelf) (g : Folder) (calls : Nat) : Fate s f ⟨(.ok e, s'), g, calls⟩

/-- Opening a shelf looks at the file of its manifest alone. -/
theorem run_openShelf_congr {f g : Folder} (same : g.find? manifestName = f.find? manifestName) :
    (openShelf.run g).1 = (openShelf.run f).1 := by
  have content : g.read manifestName = f.read manifestName := by
    simp only [Folder.read, same]
  simp only [openShelf, Program.run, content]
  split <;> rfl

/-- Once the image is dealt with, a change can fail only while its manifest is saved. -/
theorem fate_save {s s' : Shelf} {f g : Folder} {e : Entry}
    {next : Except Refusal Unit → Program (Except Problem Entry × Shelf)}
    (saved : next (.ok ()) = .done (.ok e, s'))
    (refused : ∀ r, next (.error r) = .done (.error (.storage r), s'))
    (changed : s'.entries.length ≠ s.entries.length)
    (kept : g.find? manifestName = f.find? manifestName) (rs : List (Option Refusal)) :
    Fate s f ((s'.save next).runAgainst rs g).afterCall := by
  simp only [save, Program.runAgainst]
  cases drafted : Program.answer rs.head?.join (g.write draftName s'.manifest.content) with
  | error r =>
    simp only [Program.settle, refused, Program.runAgainst]
    exact .late _ (Nat.lt_succ_self 1) changed kept
  | ok g' =>
    have written := Folder.eq_put_of_write (Program.eq_of_answer_eq_ok drafted)
    have untouched : g'.find? manifestName = f.find? manifestName := by
      rw [written, Folder.find?_put, if_neg draftName_ne_manifestName, kept]
    simp only [Program.settle, Program.runAgainst]
    cases Program.answer rs.tail.head?.join (g'.rename draftName manifestName) with
    | error r =>
      simp only [refused, Program.runAgainst]
      exact .late _ (Nat.lt_of_sub_pos Nat.zero_lt_two) changed untouched
    | ok g'' =>
      simp only [saved, Program.runAgainst]
      exact .done _ _ _ _

theorem fate (c : Change) (s : Shelf) (rs : List (Option Refusal)) (f : Folder) :
    Fate s f ((c.program s).runAgainst rs f) := by
  cases c with
  | add name image =>
    simp only [Change.program, add, Program.runAgainst]
    cases stored : Program.answer rs.head?.join
        (f.write (imageName s.manifest.nextId) image) with
    | error r => exact .early _ (Nat.le_refl 1)
    | ok g =>
      have written := Folder.eq_put_of_write (Program.eq_of_answer_eq_ok stored)
      refine fate_save rfl (fun _ => rfl) ?_ ?_ _
      · simp [entries, Manifest.add]
      · simp only [Program.settle]
        rw [written, Folder.find?_put, if_neg (imageName_ne_manifestName _)]
  | remove id =>
    simp only [Change.program, remove]
    cases listed : s.entry? id with
    | none => exact .early _ (Nat.zero_le 1)
    | some e =>
      have shorter : (Shelf.mk (s.manifest.erase id)).entries.length ≠ s.entries.length := by
        have mem : e ∈ s.manifest.entries := List.mem_of_find?_eq_some listed
        have named := List.find?_some (p := fun e : Entry => e.id == id) listed
        have length := List.length_eraseP_of_mem (p := fun e : Entry => e.id == id) mem named
        have remaining := List.length_pos_of_mem mem
        simp only [entries, Manifest.erase]
        omega
      simp only [Program.runAgainst]
      cases deleted : Program.answer rs.head?.join (f.remove (imageName id)) with
      | error r =>
        -- An image that is missing already is as good as removed.
        simp only [Program.settle]
        split
        · exact fate_save rfl (fun _ => rfl) shorter rfl _
        · exact fate_save rfl (fun _ => rfl) shorter rfl _
        · exact .early _ (Nat.le_refl 1)
      | ok g =>
        have dropped := Folder.eq_drop_of_remove (Program.eq_of_answer_eq_ok deleted)
        refine fate_save rfl (fun _ => rfl) shorter ?_ _
        simp only [Program.settle]
        rw [dropped, Folder.find?_drop, if_neg (imageName_ne_manifestName _)]

/-- **A failed change leaves everything as it was exactly if it made no more than one call.** In any
case the shelf is the same when it is opened anew. -/
theorem untouched_iff (c : Change) (s : Shelf) (rs : List (Option Refusal)) (f : Folder)
    {p : Problem} (failed : ((c.program s).runAgainst rs f).result.1 = .error p) :
    let r := (c.program s).runAgainst rs f
    (openShelf.run r.folder).1 = (openShelf.run f).1 ∧
      (Untouched s f r.result.2 r.folder ↔ r.calls ≤ 1) := by
  have fate := fate c s rs f
  revert failed fate
  generalize (c.program s).runAgainst rs f = r
  intro failed fate
  cases fate with
  | early p few => exact ⟨rfl, iff_of_true ⟨rfl, rfl, fun _ _ => rfl⟩ few⟩
  | late p many changed kept =>
    have reopens := run_openShelf_congr kept
    refine ⟨reopens, iff_of_false ?_ (Nat.not_le_of_lt many)⟩
    intro untouched
    exact changed (congrArg List.length untouched.lists)
  | done e s' g calls => cases failed

/-- An addition to a new shelf whose image was written and whose manifest was not. -/
theorem untouched_iff_of_refused_draft :
    let r := ((Change.add "a" ⟨#[1]⟩).program ⟨.blank⟩).runAgainst [none, some .isFolder] []
    r.result.1 = .error (.storage .isFolder) ∧
      (openShelf.run r.folder).1 = (openShelf.run []).1 ∧
      (Untouched ⟨.blank⟩ [] r.result.2 r.folder ↔ r.calls ≤ 1) :=
  ⟨rfl, untouched_iff (.add "a" ⟨#[1]⟩) ⟨.blank⟩ [none, some .isFolder] [] rfl⟩

/-- A shelf that was just opened in an empty folder lists an image whose addition failed. -/
theorem not_untouched_of_refused_draft :
    let r := ((Change.add "a" ⟨#[1]⟩).program ⟨.blank⟩).runAgainst [none, some .isFolder] []
    openShelf.run [] = (.ok ⟨.blank⟩, []) ∧
      r.result.1 = .error (.storage .isFolder) ∧
      ¬ Untouched ⟨.blank⟩ [] r.result.2 r.folder := by
  refine ⟨rfl, rfl, ?_⟩
  intro untouched
  exact nomatch untouched.lists

end Shelf

end Famicom

import Famicom.Proofs.Shelf.History
import Famicom.Proofs.Shelf.Refusal

/-!
# The ids that additions get

An addition gets the id that the manifest has ready, whatever the manifest lists: ids are counted up
from there, modulo the number of ids. Opening takes a manifest as it is, so an id that comes up may be
listed already, and then the addition takes over the image of that entry.

* `Leads`: changes that succeed one after the other, on any shelf in any folder.
* `of_run_add`, `of_run_remove`: what a change that succeeded has done.
* `Leads.given_eq`, `Leads.exists_entries_eq`: the ids that were given, and what is listed after them.
* `Apart`: an addition that takes nothing over.
* `apart_iff`: the additions that do not.
-/

namespace Famicom

open Storage

namespace Storage.Folder

/-- Giving a file another name concerns the two names. -/
theorem find?_of_rename {f g : Folder} {source target name : String}
    (renamed : f.rename source target = .ok g) (noSource : source ≠ name)
    (noTarget : target ≠ name) : g.find? name = f.find? name := by
  have moved : ∃ node, g = (f.drop source).put target node := by
    unfold rename at renamed
    split at renamed
    case h_5 => exact ⟨_, (Except.ok.inj renamed).symm⟩
    all_goals cases renamed
  obtain ⟨node, rfl⟩ := moved
  rw [find?_put, if_neg noTarget, find?_drop, if_neg noSource]

end Storage.Folder

namespace Shelf

/-! ## Changes that succeed -/

/-- A change that succeeded, with the entry that it returned. -/
structure Success where
  change : Change
  entry : Entry

/-- Changes that succeed one after the other lead from a shelf and its folder to another. -/
inductive Leads (s : Shelf) (f : Folder) : List Success → Shelf → Folder → Prop where
  | nil : Leads s f [] s f
  | snoc {past : List Success} {t t' : Shelf} {g g' : Folder} (leads : Leads s f past t g)
      (c : Change) (e : Entry) (succeeded : (c.program t).run g = ((.ok e, t'), g')) :
      Leads s f (past ++ [⟨c, e⟩]) t' g'

/-- The id that a change gave to something new. -/
def Success.given? (r : Success) : Option UInt64 :=
  match r.change with
  | .add _ _ => some r.entry.id
  | .remove _ => none

def given (past : List Success) : List UInt64 := past.filterMap Success.given?

/-- What a change leaves of certain entries. -/
def Success.spare (entries : List Entry) (r : Success) : List Entry :=
  match r.change with
  | .add _ _ => entries
  | .remove id => entries.eraseP fun e => e.id == id

/-- What is left of certain entries. -/
def spared (entries : List Entry) (past : List Success) : List Entry :=
  past.foldl Success.spare entries

/-! ## What a success has done -/

/-- A manifest that was saved with success has replaced the old one, and nothing else has changed. -/
theorem of_run_save {s t : Shelf} {f g : Folder} {e e' : Entry}
    {next : Except Refusal Unit → Program (Except Problem Entry × Shelf)}
    (saved : next (.ok ()) = .done (.ok e, s))
    (refused : ∀ r, next (.error r) = .done (.error (.storage r), s))
    (ran : (s.save next).run f = ((.ok e', t), g)) :
    e' = e ∧ t = s ∧
      ∀ file, draftName ≠ file → manifestName ≠ file → g.find? file = f.find? file := by
  simp only [save, Program.run] at ran
  cases drafted : f.write draftName s.manifest.content with
  | error r => simp [drafted, Program.settle, refused, Program.run] at ran
  | ok f' =>
    simp only [drafted, Program.settle, Program.run] at ran
    cases renamed : f'.rename draftName manifestName with
    | error r => simp [renamed, refused, Program.run] at ran
    | ok f'' =>
      simp only [renamed, saved, Program.run, Prod.mk.injEq, Except.ok.injEq] at ran
      obtain ⟨⟨rfl, rfl⟩, rfl⟩ := ran
      refine ⟨rfl, rfl, fun file noDraft noManifest => ?_⟩
      rw [Folder.find?_of_rename renamed noDraft noManifest, Folder.eq_put_of_write drafted,
        Folder.find?_put, if_neg noDraft]

/-- An addition that succeeds gets the id that the manifest has ready, and writes the image under it. -/
theorem of_run_add {t t' : Shelf} {g g' : Folder} {name : String} {image : ByteArray} {e : Entry}
    (ran : (t.add name image).run g = ((.ok e, t'), g')) :
    e = { id := t.manifest.nextId, name, size := image.size } ∧
      t' = ⟨t.manifest.add name image.size⟩ ∧
      ∀ id, id ≠ e.id → g'.find? (imageName id) = g.find? (imageName id) := by
  simp only [add, Program.run] at ran
  cases written : g.write (imageName t.manifest.nextId) image with
  | error r => simp [written, Program.settle, Program.run] at ran
  | ok g₁ =>
    simp only [written, Program.settle] at ran
    obtain ⟨rfl, rfl, others⟩ := of_run_save rfl (fun _ => rfl) ran
    refine ⟨rfl, rfl, fun id other => ?_⟩
    rw [others _ (imageName_ne_draftName id).symm (imageName_ne_manifestName id).symm,
      Folder.eq_put_of_write written, Folder.find?_put,
      if_neg fun same => other (imageName_injective same).symm]

theorem of_run_remove {t t' : Shelf} {g g' : Folder} {id : UInt64} {e : Entry}
    (ran : (t.remove id).run g = ((.ok e, t'), g')) : t' = ⟨t.manifest.erase id⟩ := by
  simp only [remove] at ran
  cases listed : t.entry? id with
  | none => simp [listed, Program.run] at ran
  | some e' =>
    simp only [listed, Program.run] at ran
    split at ran
    · exact (of_run_save rfl (fun _ => rfl) ran).2.1
    · exact (of_run_save rfl (fun _ => rfl) ran).2.1
    · simp [Program.run] at ran

/-! ## After some successes -/

section Leads

variable {s t : Shelf} {f g : Folder} {past : List Success}

theorem given_append_add (past : List Success) (name : String) (image : ByteArray) (e : Entry) :
    given (past ++ [⟨.add name image, e⟩]) = given past ++ [e.id] := by
  simp [given, Success.given?]

theorem given_append_remove (past : List Success) (id : UInt64) (e : Entry) :
    given (past ++ [⟨.remove id, e⟩]) = given past := by
  simp [given, Success.given?]

theorem spared_append (entries : List Entry) (past : List Success) (r : Success) :
    spared entries (past ++ [r]) = r.spare (spared entries past) := by
  simp only [spared, List.foldl_append, List.foldl_cons, List.foldl_nil]

/-- The manifest has the id ready that comes after those that were given. -/
theorem Leads.nextId_eq (leads : Leads s f past t g) :
    t.manifest.nextId = s.manifest.nextId + UInt64.ofNat (given past).length := by
  induction leads with
  | nil => exact (UInt64.add_zero _).symm
  | snoc leads c e succeeded ih =>
    cases c with
    | add name image =>
      obtain ⟨rfl, rfl, -⟩ := of_run_add succeeded
      rw [given_append_add, List.length_append, List.length_singleton, UInt64.ofNat_add,
        ← UInt64.add_assoc, ← ih]
      rfl
    | remove id =>
      obtain rfl := of_run_remove succeeded
      rw [given_append_remove, ← ih]
      rfl

/-- The ids that were given are those that count up from the first. -/
theorem Leads.given_eq (leads : Leads s f past t g) :
    given past =
      (List.range (given past).length).map fun i => s.manifest.nextId + UInt64.ofNat i := by
  induction leads with
  | nil => rfl
  | snoc leads c e succeeded ih =>
    cases c with
    | add name image =>
      obtain ⟨rfl, -, -⟩ := of_run_add succeeded
      rw [given_append_add, List.length_append, List.length_singleton, List.range_succ,
        List.map_append, ← ih, leads.nextId_eq]
      rfl
    | remove id =>
      rw [given_append_remove]
      exact ih

/-- What is taken out of two lists is taken out of the first as if there were no second. -/
theorem exists_eraseP_append (p : Entry → Bool) (entries own : List Entry) :
    ∃ rest, (entries ++ own).eraseP p = entries.eraseP p ++ rest ∧ rest ⊆ own := by
  rw [List.eraseP_append]
  split
  · exact ⟨own, rfl, fun _ mem => mem⟩
  · rename_i none
    have whole : entries.eraseP p = entries := List.eraseP_of_forall_not (by simpa using none)
    exact ⟨own.eraseP p, by rw [whole], fun _ mem => List.mem_of_mem_eraseP mem⟩

/-- What is listed is what is left of the first entries, and behind it entries with ids that were
given. -/
theorem Leads.exists_entries_eq (leads : Leads s f past t g) :
    ∃ own : List Entry, t.entries = spared s.entries past ++ own ∧
      ∀ e ∈ own, e.id ∈ given past := by
  induction leads with
  | nil => exact ⟨[], (List.append_nil _).symm, fun _ mem => nomatch mem⟩
  | @snoc before _ _ _ _ leads c e succeeded ih =>
    obtain ⟨own, listed, ids⟩ := ih
    rw [spared_append]
    cases c with
    | add name image =>
      obtain ⟨made, rfl, -⟩ := of_run_add succeeded
      refine ⟨own ++ [e], ?_, ?_⟩
      · rw [← List.append_assoc, made]
        exact congrArg (· ++ [_]) listed
      · rw [given_append_add]
        refine List.forall_mem_append.2 ⟨fun other mem => List.mem_append_left _ (ids other mem), ?_⟩
        exact List.forall_mem_singleton.2 (List.mem_append_right _ List.mem_cons_self)
    | remove id =>
      obtain rfl := of_run_remove succeeded
      rw [given_append_remove]
      obtain ⟨rest, erased, among⟩ := exists_eraseP_append (fun e => e.id == id) _ own
      exact ⟨rest, (congrArg _ listed).trans erased, fun e mem => ids e (among mem)⟩

end Leads

/-! ## Additions that take nothing over -/

/-- After certain successes an id is new to the shelf, and putting an image under it has left the images
of the shelf alone. -/
structure Apart (past : List Success) (t : Shelf) (g : Folder) (id : UInt64) (g' : Folder) :
    Prop where
  listed : ∀ e ∈ t.entries, e.id ≠ id
  given : id ∉ given past
  images : ∀ e ∈ t.entries, g'.find? (imageName e.id) = g.find? (imageName e.id)

/-- The id that is ready was not given before exactly if there are ids left. -/
theorem Leads.nextId_not_mem_given_iff {s t : Shelf} {f g : Folder} {past : List Success}
    (leads : Leads s f past t g) :
    t.manifest.nextId ∉ Shelf.given past ↔ (Shelf.given past).length < UInt64.size := by
  rw [leads.nextId_eq]
  constructor
  · intro unused
    by_contra many
    have many := Nat.le_of_not_lt many
    -- As many additions ago as there are ids, the same id was given.
    refine unused ?_
    rw [leads.given_eq, List.mem_map, List.length_map, List.length_range]
    refine ⟨(Shelf.given past).length - UInt64.size,
      List.mem_range.2 (Nat.sub_lt (Nat.lt_of_lt_of_le (by decide) many) (by decide)), ?_⟩
    rw [UInt64.add_right_inj, UInt64.ofNat_eq_iff_mod_eq_toNat, UInt64.toNat_ofNat']
    exact (Nat.mod_eq_sub_mod many).symm
  · intro few again
    rw [leads.given_eq, List.mem_map] at again
    obtain ⟨i, earlier, same⟩ := again
    have earlier := List.mem_range.1 earlier
    rw [List.length_map, List.length_range, UInt64.add_right_inj] at same
    have equal := congrArg UInt64.toNat same
    rw [UInt64.toNat_ofNat_of_lt' (Nat.lt_trans earlier few), UInt64.toNat_ofNat_of_lt' few] at equal
    exact Nat.ne_of_lt earlier equal

/-- **An addition takes nothing over exactly if there are ids left and none of the entries that the shelf
began with and still lists has the id that comes up.** -/
theorem apart_iff {s t t' : Shelf} {f g g' : Folder} {past : List Success}
    (leads : Leads s f past t g) {name : String} {image : ByteArray} {e : Entry}
    (added : (t.add name image).run g = ((.ok e, t'), g')) :
    e.id = s.manifest.nextId + UInt64.ofNat (given past).length ∧
      (Apart past t g e.id g' ↔
        (given past).length < UInt64.size ∧ ∀ o ∈ spared s.entries past, o.id ≠ e.id) := by
  obtain ⟨made, -, others⟩ := of_run_add added
  have ready : e.id = t.manifest.nextId := by rw [made]
  obtain ⟨own, listed, ids⟩ := leads.exists_entries_eq
  refine ⟨ready.trans leads.nextId_eq, ?_⟩
  rw [← leads.nextId_not_mem_given_iff, ← ready]
  constructor
  · intro apart
    refine ⟨apart.given, fun o mem => apart.listed o ?_⟩
    rw [listed]
    exact List.mem_append_left own mem
  · rintro ⟨unused, free⟩
    have new (o : Entry) (mem : o ∈ t.entries) : o.id ≠ e.id := by
      rw [listed] at mem
      rcases List.mem_append.1 mem with first | later
      · exact free o first
      · exact fun same => unused (same ▸ ids o later)
    exact ⟨new, unused, fun o mem => others o.id (new o mem)⟩

/-! ### A manifest that lists an id that is still to come -/

/-- A shelf with one entry. -/
def single (nextId id : UInt64) : Shelf :=
  ⟨{ nextId, entries := [{ id, name := "a", size := 1 }] }⟩

/-- The folder of a shelf with one entry. -/
def singleFolder (nextId id : UInt64) : Folder :=
  [(manifestName, .file (single nextId id).manifest.content), (imageName id, .file ⟨#[1]⟩)]

theorem run_openShelf_single (nextId id : UInt64) :
    openShelf.run (singleFolder nextId id) = (.ok (single nextId id), singleFolder nextId id) := by
  have found : (singleFolder nextId id).find? manifestName =
      some (.file (single nextId id).manifest.content) := rfl
  have fits : ∀ e ∈ (single nextId id).manifest.entries, e.size < UInt64.size :=
    List.forall_mem_singleton.2 (by change 1 < UInt64.size; decide)
  simp only [openShelf, Program.run, Folder.read_file found, decodeManifest_content fits]
  rfl

/-- The second id that comes up is that of an entry, but the entry has been removed by then. -/
theorem apart_iff_of_removed :
    let s := single 6 7
    let f := singleFolder 6 7
    let r₁ := (s.add "b" ⟨#[2]⟩).run f
    let r₂ := (r₁.1.2.remove 7).run r₁.2
    let r₃ := (r₂.1.2.add "c" ⟨#[3]⟩).run r₂.2
    let past : List Success :=
      [⟨.add "b" ⟨#[2]⟩, { id := 6, name := "b", size := 1 }⟩,
        ⟨.remove 7, { id := 7, name := "a", size := 1 }⟩]
    openShelf.run f = (.ok s, f) ∧ Leads s f past r₂.1.2 r₂.2 ∧
      r₃.1.1 = .ok { id := 7, name := "c", size := 1 } ∧
      (7 : UInt64) = s.manifest.nextId + UInt64.ofNat (given past).length ∧
      (Apart past r₂.1.2 r₂.2 7 r₃.2 ↔
        (given past).length < UInt64.size ∧ ∀ o ∈ spared s.entries past, o.id ≠ 7) := by
  intro s f r₁ r₂ r₃ past
  have first : r₁ = ((.ok { id := 6, name := "b", size := 1 }, r₁.1.2), r₁.2) :=
    Prod.ext (Prod.ext (by decide +kernel) rfl) rfl
  have second : r₂ = ((.ok { id := 7, name := "a", size := 1 }, r₂.1.2), r₂.2) :=
    Prod.ext (Prod.ext (by decide +kernel) rfl) rfl
  have third : r₃ = ((.ok { id := 7, name := "c", size := 1 }, r₃.1.2), r₃.2) :=
    Prod.ext (Prod.ext (by decide +kernel) rfl) rfl
  have leads : Leads s f past r₂.1.2 r₂.2 :=
    .snoc (.snoc .nil (.add "b" ⟨#[2]⟩) _ first) (.remove 7) _ second
  exact ⟨run_openShelf_single 6 7, leads, congrArg (·.1.1) third, apart_iff leads third⟩

/-- An addition to a shelf whose manifest has the id of an entry ready takes over the image. -/
theorem not_apart_of_listed_id :
    let s := single 0 0
    let f := singleFolder 0 0
    let r := (s.add "b" ⟨#[2]⟩).run f
    openShelf.run f = (.ok s, f) ∧ r.1.1 = .ok { id := 0, name := "b", size := 1 } ∧
      ((s.load 0).run f).1 = .ok ⟨#[1]⟩ ∧ ((s.load 0).run r.2).1 = .ok ⟨#[2]⟩ ∧
      ¬ Apart [] s f 0 r.2 := by
  refine ⟨run_openShelf_single 0 0, rfl, rfl, rfl, ?_⟩
  intro apart
  exact apart.listed _ List.mem_cons_self rfl

end Shelf

end Famicom

import Famicom.Proofs.Shelf.History
import Famicom.Proofs.Shelf.Refusal

/-!
# Changes of a shelf that are cut short

A change can stop after any of its calls and in the middle of a write. Its folder can always be opened
again: until the draft is renamed it is the folder of the old shelf, and then of the new one. The image
of an addition is there before the manifest names it, so nothing that is listed is ever missing. The
image of a removal is gone before the manifest forgets it, and in between the shelf lists an image that
it does not have.

* `Program.stopped`: the folder that a run leaves when it stops.
* `Keeps`: the folder still holds certain items.
* `Stocked.stopped`, `Stocked.stopped_of_loses`: what a change leaves when it stops.
* `keeps_stopped_iff`: the stops at which nothing is lost.
-/

namespace Famicom

open Storage

namespace Storage.Program

variable {α : Type}

/-- What the next call leaves if it is a write that stops after some of its bytes, and the folder as it
is otherwise. -/
def begun (part : Option Nat) : Program α → Folder → Folder
  | .write name content _, f =>
    match part with
    | some bytes => (settle f (f.write name (content.extract 0 bytes))).2
    | none => f
  | _, f => f

/-- The folder that a run leaves when it stops after so many calls, or in the middle of the write that
comes next. -/
def stopped (part : Option Nat) : Nat → Program α → Folder → Folder
  | 0, p, f => p.begun part f
  | _ + 1, .done _, f => f
  | calls + 1, .read name next, f => (next (f.read name)).stopped part calls f
  | calls + 1, .write name content next, f =>
    let r := settle f (f.write name content)
    (next r.1).stopped part calls r.2
  | calls + 1, .remove name next, f =>
    let r := settle f (f.remove name)
    (next r.1).stopped part calls r.2
  | calls + 1, .rename source target next, f =>
    let r := settle f (f.rename source target)
    (next r.1).stopped part calls r.2

theorem stopped_done (part : Option Nat) (calls : Nat) (a : α) (f : Folder) :
    (Program.done a).stopped part calls f = f := by
  cases calls <;> rfl

/-- A run that has made all its calls is a plain run. -/
theorem stopped_of_calls_le (part : Option Nat) {calls : Nat} (p : Program α) {f : Folder}
    (all : (p.runAgainst [] f).calls ≤ calls) : p.stopped part calls f = (p.run f).2 := by
  induction p generalizing f calls with
  | done a => exact stopped_done part calls a f
  | read _ _ ih | write _ _ _ ih | remove _ _ ih | rename _ _ _ ih =>
    obtain ⟨calls, rfl⟩ := Nat.exists_eq_add_of_le' (Nat.le_trans (Nat.le_add_left 1 _) all)
    exact ih _ (Nat.le_of_succ_le_succ all)

/-- A write that stops somewhere concerns its own file. -/
theorem find?_begun_write {name other : String} (apart : name ≠ other) (part : Option Nat)
    (content : ByteArray) (next : Except Refusal Unit → Program α) (f : Folder) :
    ((Program.write name content next).begun part f).find? other = f.find? other := by
  unfold begun
  cases part with
  | none => rfl
  | some bytes =>
    dsimp only
    cases written : f.write name (content.extract 0 bytes) with
    | error r => rfl
    | ok g =>
      rw [Folder.eq_put_of_write written]
      exact (Folder.find?_put ..).trans (if_neg apart)

/-! ## Files -/

theorem flat_settle_write {f : Folder} (flat : f.Flat) (name : String) (content : ByteArray) :
    (settle f (f.write name content)).2.Flat := by
  rw [flat.write]
  exact flat.put name content

theorem flat_settle_remove {f : Folder} (flat : f.Flat) (name : String) :
    (settle f (f.remove name)).2.Flat := by
  cases removed : f.remove name with
  | error r => exact flat
  | ok g =>
    rw [Folder.eq_drop_of_remove removed]
    exact flat.drop name

theorem flat_settle_rename {f : Folder} (flat : f.Flat) (source target : String) :
    (settle f (f.rename source target)).2.Flat := by
  cases found : f.find? source with
  | none =>
    have refused : f.rename source target = .error .notFound := by rw [Folder.rename, found]
    rw [refused]
    exact flat
  | some node =>
    cases node with
    | file content =>
      rw [flat.rename found]
      exact (flat.drop source).put target content
    | folder inner => exact absurd found (flat source inner)

/-- A run leaves nothing but files among files, wherever it stops. -/
theorem flat_stopped (part : Option Nat) (calls : Nat) (p : Program α) {f : Folder}
    (flat : f.Flat) : (p.stopped part calls f).Flat := by
  induction calls generalizing p f with
  | zero =>
    change (p.begun part f).Flat
    cases p with
    | write name content next =>
      cases part with
      | none => exact flat
      | some bytes => exact flat_settle_write flat name _
    | done _ | read _ _ | remove _ _ | rename _ _ _ => exact flat
  | succ calls ih =>
    cases p with
    | done a => exact flat
    | read name next => exact ih _ flat
    | write name content next => exact ih _ (flat_settle_write flat name content)
    | remove name next => exact ih _ (flat_settle_remove flat name)
    | rename source target next => exact ih _ (flat_settle_rename flat source target)

end Storage.Program

namespace Shelf

/-! ## Calls -/

theorem calls_save_le {α : Type} (s : Shelf) {next : Except Refusal Unit → Program α}
    (last : ∀ r rs f, ((next r).runAgainst rs f).calls = 0) (rs : List (Option Refusal))
    (f : Folder) : ((s.save next).runAgainst rs f).calls ≤ 2 := by
  simp only [save, Program.runAgainst]
  refine Nat.succ_le_succ ?_
  split
  · exact Nat.succ_le_succ (Nat.le_of_eq (last ..))
  · exact Nat.le_trans (Nat.le_of_eq (last ..)) (Nat.zero_le 1)

/-- A change makes at most three calls. -/
theorem calls_change_le (c : Change) (s : Shelf) (rs : List (Option Refusal)) (f : Folder) :
    ((c.program s).runAgainst rs f).calls ≤ 3 := by
  cases c with
  | add name image =>
    simp only [Change.program, add, Program.runAgainst]
    refine Nat.succ_le_succ ?_
    split
    · exact Nat.zero_le 2
    · refine calls_save_le _ (fun r rs f => ?_) _ _
      cases r <;> rfl
  | remove id =>
    simp only [Change.program, remove]
    cases s.entry? id with
    | none => exact Nat.zero_le 3
    | some e =>
      simp only [Program.runAgainst]
      refine Nat.succ_le_succ ?_
      split
      case h_3 => exact Nat.zero_le 2
      -- The image was deleted or was not there.
      all_goals
        refine calls_save_le _ (fun r rs f => ?_) _ _
        cases r <;> rfl

/-! ## Files on the way -/

section Stops

variable {f : Folder} (flat : f.Flat) (s : Shelf) (part : Option Nat)

include flat

/-- Until the draft is renamed, saving has touched nothing else. -/
theorem find?_stopped_save {α : Type} {next : Except Refusal Unit → Program α} {calls : Nat}
    (early : calls < 2) {name : String} (other : draftName ≠ name) :
    ((s.save next).stopped part calls f).find? name = f.find? name := by
  match calls, early with
  | 0, _ => exact Program.find?_begun_write other part _ _ f
  | 1, _ =>
    simp only [save, Program.stopped, flat.write, Program.settle, Program.begun]
    rw [Folder.find?_put, if_neg other]

/-- Until then an addition has touched its own image and the draft. -/
theorem find?_stopped_add (name : String) (image : ByteArray) {calls : Nat} (early : calls < 3)
    {file : String} (other : imageName s.manifest.nextId ≠ file) (noDraft : draftName ≠ file) :
    ((s.add name image).stopped part calls f).find? file = f.find? file := by
  cases calls with
  | zero => exact Program.find?_begun_write other part _ _ f
  | succ calls =>
    simp only [add, Program.stopped, flat.write, Program.settle]
    rw [find?_stopped_save (flat.put _ _) _ part (Nat.lt_of_succ_lt_succ early) noDraft,
      Folder.find?_put, if_neg other]

/-- From its first call until then, a removal has deleted its image and touched the draft. -/
theorem find?_stopped_remove {id : UInt64} {e : Entry} (listed : s.entry? id = some e)
    {image : ByteArray} (found : f.find? (imageName id) = some (.file image)) {calls : Nat}
    (begun : 0 < calls) (early : calls < 3) {file : String} (noDraft : draftName ≠ file) :
    ((s.remove id).stopped part calls f).find? file =
      if imageName id = file then none else f.find? file := by
  obtain ⟨calls, rfl⟩ := Nat.exists_eq_add_of_le' begun
  simp only [remove, listed, Program.stopped, Folder.remove_file found, Program.settle]
  rw [find?_stopped_save (flat.drop _) _ part (Nat.lt_of_succ_lt_succ early) noDraft,
    Folder.find?_drop]

end Stops

/-! ## What is kept -/

theorem run_openShelf_of_same {f g : Folder} (same : g.find? manifestName = f.find? manifestName) :
    openShelf.run g = ((openShelf.run f).1, g) := by
  refine Prod.ext (run_openShelf_congr same) ?_
  simp only [openShelf, Program.run]
  split <;> rfl

theorem imageOf_ne_storage (items : List Item) (id : UInt64) (r : Refusal) :
    imageOf items id ≠ .error (.storage r) := by
  unfold imageOf
  split <;> exact fun same => nomatch same

/-- The folder opens as a shelf that lists the items, and hands out their bytes. -/
def Keeps (f : Folder) (items : List Item) : Prop :=
  ∃ s, openShelf.run f = (.ok s, f) ∧ s.entries = items.map Item.entry ∧
    ∀ id, (s.load id).run f = (imageOf items id, f)

namespace Stocked

variable {s : Shelf} {f g : Folder} {items : List Item}

theorem keeps (stocked : Stocked s f items) : Keeps f items :=
  ⟨s, stocked.run_openShelf, stocked.lists, stocked.run_load⟩

/-- A shelf is not concerned with other files. -/
theorem of_same (stocked : Stocked s f items) (flat : g.Flat)
    (manifest : g.find? manifestName = f.find? manifestName)
    (images : ∀ item ∈ items, g.find? (imageName item.id) = f.find? (imageName item.id)) :
    Stocked s g items :=
  { stocked with
    flat
    images := fun item mem => (images item mem).trans (stocked.images item mem)
    manifest := by rw [manifest]; exact stocked.manifest }

theorem exists_image (stocked : Stocked s f items) {id : UInt64} {e : Entry}
    (listed : s.entry? id = some e) : ∃ image, f.find? (imageName id) = some (.file image) := by
  rw [stocked.find_entry, Option.map_eq_some_iff] at listed
  obtain ⟨item, found, -⟩ := listed
  have same : item.id = id := by simpa using List.find?_some found
  exact ⟨item.image, same ▸ stocked.images item (List.mem_of_find?_eq_some found)⟩

/-- An addition that stops before its draft is renamed leaves the shelf as it was. -/
theorem stopped_add (stocked : Stocked s f items) (name : String) (image : ByteArray)
    (part : Option Nat) {calls : Nat} (early : calls < 3) :
    Stocked s ((s.add name image).stopped part calls f) items := by
  refine stocked.of_same (Program.flat_stopped part calls _ stocked.flat) ?_ fun item mem => ?_
  · exact find?_stopped_add stocked.flat s part name image early
      (imageName_ne_manifestName _) draftName_ne_manifestName
  · refine find?_stopped_add stocked.flat s part name image early ?_ (imageName_ne_draftName _).symm
    intro same
    have below := stocked.below item mem
    rw [imageName_injective same] at below
    exact Nat.lt_irrefl _ below

/-- A removal that stops after its first call and before its draft is renamed leaves the shelf as it was,
but for the image, which is gone. -/
theorem stopped_remove (stocked : Stocked s f items) {id : UInt64} {e : Entry}
    (listed : s.entry? id = some e) (part : Option Nat) {calls : Nat} (begun : 0 < calls)
    (early : calls < 3) :
    let g := (s.remove id).stopped part calls f
    openShelf.run g = (.ok s, g) ∧ (s.load id).run g = (.error (.storage .notFound), g) := by
  intro g
  obtain ⟨image, found⟩ := stocked.exists_image listed
  have files {name : String} (noDraft : draftName ≠ name) :
      g.find? name = if imageName id = name then none else f.find? name :=
    find?_stopped_remove stocked.flat s part listed found begun early noDraft
  constructor
  · have manifest : g.find? manifestName = f.find? manifestName := by
      rw [files draftName_ne_manifestName, if_neg (imageName_ne_manifestName id)]
    rw [run_openShelf_of_same manifest, stocked.run_openShelf]
  · have gone : g.read (imageName id) = .error .notFound := by
      rw [Folder.read, files (imageName_ne_draftName id).symm, if_pos rfl]
    simp only [load, listed, Program.run, gone]

end Stocked

/-! ## Changes -/

namespace Change

def deed : Change → Deed
  | .add name image => .add name image
  | .remove id => .remove id

/-- Whether the change has deleted an image after so many calls that the manifest still names. -/
def Loses (s : Shelf) (calls : Nat) : Change → Prop
  | .add _ _ => False
  | .remove id => (s.entry? id).isSome ∧ 0 < calls ∧ calls < 3

end Change

namespace Stocked

variable {s : Shelf} {f : Folder} {items : List Item} (stocked : Stocked s f items) (c : Change)
  (part : Option Nat) {calls : Nat}

include stocked

/-- A change that stops before its draft is renamed leaves the shelf as it was, unless it loses an
image. -/
theorem stopped (early : calls < 3) (kept : ¬ c.Loses s calls) :
    Stocked s ((c.program s).stopped part calls f) items := by
  cases c with
  | add name image => exact stocked.stopped_add name image part early
  | remove id =>
    cases listed : s.entry? id with
    | none =>
      simp only [Change.program, remove, listed, Program.stopped_done]
      exact stocked
    | some e =>
      have first : calls = 0 := by
        by_contra later
        exact kept ⟨by rw [listed]; rfl, Nat.pos_of_ne_zero later, early⟩
      subst first
      simp only [Change.program, remove, listed, Program.stopped, Program.begun]
      exact stocked

/-- A change that loses an image leaves a shelf that lists what it listed and cannot hand it out. -/
theorem stopped_of_loses (lost : c.Loses s calls) :
    let g := (c.program s).stopped part calls f
    openShelf.run g = (.ok s, g) ∧ ∀ others, ¬ Keeps g others := by
  intro g
  cases c with
  | add name image => exact lost.elim
  | remove id =>
    obtain ⟨among, begun, early⟩ := lost
    obtain ⟨e, listed⟩ := Option.isSome_iff_exists.1 among
    obtain ⟨opened, missing⟩ := stocked.stopped_remove listed part begun early
    refine ⟨opened, fun others keeps => ?_⟩
    obtain ⟨t, again, -, loads⟩ := keeps
    obtain rfl : s = t := Except.ok.inj (congrArg Prod.fst (opened.symm.trans again))
    have removed := (congrArg Prod.fst (loads id)).symm.trans (congrArg Prod.fst missing)
    exact imageOf_ne_storage others id _ removed

end Stocked

theorem sound_actAll_start (deeds : List Deed)
    (few : (deeds.flatMap Deed.images).length < UInt64.size)
    (fits : ∀ image ∈ deeds.flatMap Deed.images, image.size < UInt64.size) :
    Sound (History.start.actAll deeds) := by
  refine sound_actAll sound_start fits ?_
  change 0 + _ < UInt64.size
  omega

/-- **A change of a shelf that stops somewhere has been made or has not been made, and nothing is lost,
unless it deleted an image that the manifest still names.** In any case the shelf can be opened again. -/
theorem keeps_stopped_iff (deeds : List Deed) (c : Change)
    (few : ((deeds ++ [c.deed]).flatMap Deed.images).length < UInt64.size)
    (fits : ∀ image ∈ (deeds ++ [c.deed]).flatMap Deed.images, image.size < UInt64.size)
    (part : Option Nat) (calls : Nat) :
    let h := History.start.actAll deeds
    let h' := h.act c.deed
    let g := (c.program h.shelf).stopped part calls h.folder
    (∃ s, openShelf.run g = (.ok s, g) ∧
        (s.entries = h.shelf.entries ∨ s.entries = h'.shelf.entries)) ∧
      (Keeps g (listed h.past) ∨ Keeps g (listed h'.past) ↔ ¬ c.Loses h.shelf calls) := by
  intro h h' g
  have sound : Sound h := by
    rw [List.flatMap_append] at few fits
    rw [List.length_append] at few
    exact sound_actAll_start deeds (by omega) (List.forall_mem_append.1 fits).1
  have sound' : Sound h' := by
    have both := sound_actAll_start _ few fits
    rwa [History.actAll, List.foldl_append] at both
  by_cases early : calls < 3
  · by_cases lost : c.Loses h.shelf calls
    · obtain ⟨opened, nothing⟩ := sound.stocked.stopped_of_loses c part lost
      refine ⟨⟨h.shelf, opened, .inl rfl⟩, iff_of_false ?_ (not_not_intro lost)⟩
      rintro (keeps | keeps)
      · exact nothing _ keeps
      · exact nothing _ keeps
    · have stocked := sound.stocked.stopped c part early lost
      exact ⟨⟨h.shelf, stocked.run_openShelf, .inl rfl⟩, iff_of_true (.inl stocked.keeps) lost⟩
  · have kept : ¬ c.Loses h.shelf calls := by
      cases c with
      | add name image => exact not_false
      | remove id => exact fun lost => early lost.2.2
    have whole : g = h'.folder := by
      have all := Nat.le_trans (calls_change_le c h.shelf [] h.folder) (Nat.le_of_not_lt early)
      have ran := Program.stopped_of_calls_le part _ all
      cases c with
      | add name image => exact ran
      | remove id => exact ran
    rw [whole]
    exact ⟨⟨h'.shelf, sound'.stocked.run_openShelf, .inr rfl⟩,
      iff_of_true (.inr sound'.stocked.keeps) kept⟩

/-- A removal that stops after it has written half of its draft. -/
theorem keeps_stopped_iff_of_half_draft :
    let deeds : List Deed := [.add "a" ⟨#[1]⟩, .add "b" ⟨#[2, 2]⟩]
    let c : Change := .remove 0
    let h := History.start.actAll deeds
    let h' := h.act c.deed
    let g := (c.program h.shelf).stopped (some 9) 1 h.folder
    ((deeds ++ [c.deed]).flatMap Deed.images).length < UInt64.size ∧
      (∀ image ∈ (deeds ++ [c.deed]).flatMap Deed.images, image.size < UInt64.size) ∧
      (∃ s, openShelf.run g = (.ok s, g) ∧
        (s.entries = h.shelf.entries ∨ s.entries = h'.shelf.entries)) ∧
      (Keeps g (listed h.past) ∨ Keeps g (listed h'.past) ↔ ¬ c.Loses h.shelf 1) :=
  ⟨by decide, by decide, keeps_stopped_iff _ (.remove 0) (by decide) (by decide) (some 9) 1⟩

/-- A removal that stops after its first call leaves a shelf that lists an image and cannot load it. -/
theorem not_keeps_of_stopped_removal :
    let h := History.start.actAll [.add "a" ⟨#[1]⟩]
    let c : Change := .remove 0
    let g := (c.program h.shelf).stopped none 1 h.folder
    h.shelf.entries = [{ id := 0, name := "a", size := 1 }] ∧
      (openShelf.run g).1 = .ok h.shelf ∧
      ((h.shelf.load 0).run g).1 = .error (.storage .notFound) ∧
      ¬ (Keeps g (listed h.past) ∨ Keeps g (listed (h.act c.deed).past)) := by
  intro h c g
  have stocked : Stocked h.shelf h.folder (listed h.past) :=
    (sound_actAll_start [.add "a" ⟨#[1]⟩] (by decide) (by decide)).stocked
  have lost : c.Loses h.shelf 1 := ⟨rfl, by decide, by decide⟩
  obtain ⟨opened, nothing⟩ := stocked.stopped_of_loses c none lost
  refine ⟨rfl, congrArg Prod.fst opened, rfl, ?_⟩
  rintro (keeps | keeps)
  · exact nothing _ keeps
  · exact nothing _ keeps

end Shelf

end Famicom

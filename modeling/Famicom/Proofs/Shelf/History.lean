import Famicom.Proofs.Shelf.Files
import Famicom.Proofs.Shelf.Reading

/-!
# Histories of a shelf

A shelf that begins in an empty folder of its own keeps what is given to it. Whatever is added,
loaded and removed in whatever order, and however often the shelf is opened anew, it lists what was
added and not removed since, in the order of the additions, and hands out the same bytes; and no id
is given twice.

* `History.act`: one deed, with what came of it.
* `listed`: what should be on the shelf after a history, told from the additions and removals alone.
* `Stocked`: shelf and folder hold certain items. Every deed keeps it.
* `faithful_actAll`: the shelf is what its history says.
-/

namespace Famicom.Shelf

open Storage

/-! ## Histories -/

/-- One thing that is done with a shelf; it may be opened anew from its folder. -/
inductive Deed where
  | reopen
  | add (name : String) (image : ByteArray)
  | load (id : UInt64)
  | remove (id : UInt64)

/-- A deed that changes what is on the shelf, and what came of it. -/
inductive Record where
  | added (name : String) (image : ByteArray) (result : Except Problem Entry)
  | removed (id : UInt64)

/-- A shelf, its folder and what was done with it. -/
structure History where
  shelf : Shelf
  folder : Folder
  past : List Record

namespace History

/-- The history of a shelf that was opened in an empty folder. -/
def start : History := ⟨⟨.blank⟩, [], []⟩

/-- The history with one deed more. -/
def act (h : History) : Deed → History
  | .reopen =>
    let r := openShelf.run h.folder
    { h with
      shelf := match r.1 with
        | .ok s => s
        | .error _ => h.shelf
      folder := r.2 }
  | .add name image =>
    let r := (h.shelf.add name image).run h.folder
    ⟨r.1.2, r.2, h.past ++ [.added name image r.1.1]⟩
  | .load id => { h with folder := ((h.shelf.load id).run h.folder).2 }
  | .remove id =>
    let r := (h.shelf.remove id).run h.folder
    ⟨r.1.2, r.2, h.past ++ [.removed id]⟩

def actAll (h : History) (deeds : List Deed) : History := deeds.foldl act h

end History

/-- The image that a deed adds, if it adds one. -/
def Deed.images : Deed → List ByteArray
  | .add _ image => [image]
  | _ => []

/-! ## What should be there -/

/-- Something on a shelf. -/
structure Item where
  id : UInt64
  name : String
  image : ByteArray

def Item.entry (item : Item) : Entry := { id := item.id, name := item.name, size := item.image.size }

/-- What should be on the shelf after a record. -/
def Record.apply (items : List Item) : Record → List Item
  | .added name image (.ok e) => items ++ [{ id := e.id, name, image }]
  | .added _ _ (.error _) => items
  | .removed id => items.filter fun item => item.id != id

/-- What should be on the shelf: all that was added and not removed, in order of addition. -/
def listed (past : List Record) : List Item := past.foldl Record.apply []

/-- The id that an addition returned. -/
def Record.returned? : Record → Option UInt64
  | .added _ _ (.ok e) => some e.id
  | _ => none

/-- The bytes of the item with an id, if there is one. -/
def imageOf (items : List Item) (id : UInt64) : Except Problem ByteArray :=
  match items.find? fun item => item.id == id with
  | some item => .ok item.image
  | none => .error (.unknownEntry id)

/-- The shelf is what its history says. Every addition succeeded with an entry for what was added,
and none returned an id that was returned before. The shelf can be opened anew, and is the same
then. -/
structure Faithful (h : History) : Prop where
  adds : ∀ name image result, .added name image result ∈ h.past →
    ∃ id, result = .ok { id, name, size := image.size }
  fresh : (h.past.filterMap Record.returned?).Nodup
  lists : h.shelf.entries = (listed h.past).map Item.entry
  loads : ∀ id, (h.shelf.load id).run h.folder = (imageOf (listed h.past) id, h.folder)
  reopens : openShelf.run h.folder = (.ok h.shelf, h.folder)

/-! ## Shelves that hold their items -/

/-- The shelf lists the items, and its folder has all their images and the manifest. A shelf that
was never saved is a new one. -/
structure Stocked (s : Shelf) (f : Folder) (items : List Item) : Prop where
  lists : s.entries = items.map Item.entry
  distinct : (items.map Item.id).Nodup
  below : ∀ item ∈ items, item.id.toNat < s.manifest.nextId.toNat
  fits : ∀ item ∈ items, item.image.size < UInt64.size
  flat : f.Flat
  images : ∀ item ∈ items, f.find? (imageName item.id) = some (.file item.image)
  manifest : f.find? manifestName = some (.file s.manifest.content) ∨
    f.find? manifestName = none ∧ s.manifest = .blank

theorem stocked_start : Stocked ⟨.blank⟩ [] [] where
  lists := rfl
  distinct := .nil
  below := fun _ mem => nomatch mem
  fits := fun _ mem => nomatch mem
  flat := .nil
  images := fun _ mem => nomatch mem
  manifest := .inr ⟨rfl, rfl⟩

/-- Among items with ids of their own, taking the first with an id takes them all. -/
theorem eraseP_eq_filter {items : List Item} (distinct : (items.map Item.id).Nodup) (id : UInt64) :
    items.eraseP (fun item => item.id == id) = items.filter fun item => item.id != id := by
  induction items with
  | nil => rfl
  | cons item items ih =>
    rw [List.map_cons, List.nodup_cons] at distinct
    obtain ⟨alone, distinct⟩ := distinct
    by_cases same : item.id = id
    · have others : items.filter (fun other => other.id != id) = items := by
        rw [List.filter_eq_self]
        intro other mem
        rw [bne_iff_ne]
        intro again
        exact alone (List.mem_map.2 ⟨other, mem, again.trans same.symm⟩)
      simp [same, others]
    · simp [same, ih distinct]

/-- As long as there is another id, the next one is the one after. -/
theorem nextId_add {m : Manifest} (room : m.nextId.toNat + 1 < UInt64.size) (name : String)
    (size : Nat) : (m.add name size).nextId.toNat = m.nextId.toNat + 1 := by
  change (m.nextId + 1).toNat = _
  rw [UInt64.toNat_add]
  exact Nat.mod_eq_of_lt room

/-- Images that are in the folder stay there when a manifest is saved. -/
theorem find?_saved_imageName (f : Folder) (m : Manifest) (id : UInt64) :
    (saved f m).find? (imageName id) = f.find? (imageName id) := by
  rw [find?_saved, if_neg (imageName_ne_manifestName id).symm,
    if_neg (imageName_ne_draftName id).symm]

namespace Stocked

variable {s : Shelf} {f : Folder} {items : List Item}

theorem entries_eq (stocked : Stocked s f items) : s.manifest.entries = items.map Item.entry :=
  stocked.lists

theorem find_entry (stocked : Stocked s f items) (id : UInt64) :
    s.entry? id = (items.find? fun item => item.id == id).map Item.entry := by
  unfold entry? Manifest.find?
  rw [stocked.entries_eq, List.find?_map]
  rfl

/-- The shelf is read back from its folder. -/
theorem run_openShelf (stocked : Stocked s f items) : openShelf.run f = (.ok s, f) := by
  rcases stocked.manifest with found | ⟨missing, blank⟩
  · have fits : ∀ e ∈ s.manifest.entries, e.size < UInt64.size := by
      intro e mem
      rw [stocked.entries_eq] at mem
      obtain ⟨item, among, rfl⟩ := List.mem_map.1 mem
      exact stocked.fits item among
    simp only [openShelf, Program.run, Folder.read_file found, decodeManifest_content fits]
    rfl
  · have unread : f.read manifestName = .error .notFound := by rw [Folder.read, missing]
    simp only [openShelf, Program.run, unread, ← blank]

theorem run_load (stocked : Stocked s f items) (id : UInt64) :
    (s.load id).run f = (imageOf items id, f) := by
  unfold load imageOf
  rw [stocked.find_entry]
  cases found : items.find? fun item => item.id == id with
  | none => rfl
  | some item =>
    have mem := List.mem_of_find?_eq_some found
    have same : item.id = id := by simpa using List.find?_some found
    have file := stocked.images item mem
    rw [same] at file
    simp only [Option.map_some, Program.run, Folder.read_file file]

/-- A shelf still holds its items, and one more, after an addition. -/
theorem add (stocked : Stocked s f items) (name : String) {image : ByteArray}
    (fits : image.size < UInt64.size) (room : s.manifest.nextId.toNat + 1 < UInt64.size) :
    Stocked ⟨s.manifest.add name image.size⟩
      (saved (f.put (imageName s.manifest.nextId) (.file image)) (s.manifest.add name image.size))
      (items ++ [{ id := s.manifest.nextId, name, image }]) := by
  -- The new id is above all the others, so its image takes the place of none.
  have others (item) (mem : item ∈ items) : item.id ≠ s.manifest.nextId := by
    intro same
    have below := stocked.below item mem
    rw [same] at below
    exact Nat.lt_irrefl _ below
  constructor
  case lists =>
    simp only [entries, Manifest.add, stocked.entries_eq, List.map_append, List.map_cons,
      List.map_nil]
    rfl
  case distinct =>
    rw [List.map_append, List.nodup_append]
    refine ⟨stocked.distinct, by simp, ?_⟩
    intro id mem other alone
    obtain ⟨item, among, rfl⟩ := List.mem_map.1 mem
    rw [List.mem_singleton.1 alone]
    exact others item among
  case below =>
    intro item mem
    rw [nextId_add room]
    rcases List.mem_append.1 mem with mem | mem
    · have below := stocked.below item mem
      exact Nat.lt_succ_of_lt below
    · obtain rfl := List.mem_singleton.1 mem
      exact Nat.lt_succ_self _
  case fits =>
    intro item mem
    rcases List.mem_append.1 mem with mem | mem
    · exact stocked.fits item mem
    · obtain rfl := List.mem_singleton.1 mem
      exact fits
  case flat => exact flat_saved (stocked.flat.put _ _) _
  case images =>
    intro item mem
    rw [find?_saved_imageName, Folder.find?_put]
    rcases List.mem_append.1 mem with mem | mem
    · rw [if_neg fun same => others item mem (imageName_injective same).symm]
      exact stocked.images item mem
    · obtain rfl := List.mem_singleton.1 mem
      exact if_pos rfl
  case manifest => exact .inl (by rw [find?_saved, if_pos rfl])

/-- A shelf still holds its other items after a removal. -/
theorem erase (stocked : Stocked s f items) (id : UInt64) :
    Stocked ⟨s.manifest.erase id⟩ (saved (f.drop (imageName id)) (s.manifest.erase id))
      (items.filter fun item => item.id != id) := by
  constructor
  case lists =>
    simp only [entries, Manifest.erase, stocked.entries_eq, List.eraseP_map]
    rw [← eraseP_eq_filter stocked.distinct]
    rfl
  case distinct => exact stocked.distinct.sublist (List.filter_sublist.map _)
  case below => exact fun item mem => stocked.below item (List.mem_of_mem_filter mem)
  case fits => exact fun item mem => stocked.fits item (List.mem_of_mem_filter mem)
  case flat => exact flat_saved (stocked.flat.drop _) _
  case images =>
    intro item mem
    obtain ⟨mem, other⟩ := List.mem_filter.1 mem
    rw [find?_saved_imageName, Folder.find?_drop, if_neg, stocked.images item mem]
    intro same
    exact bne_iff_ne.1 other (imageName_injective same).symm
  case manifest => exact .inl (by rw [find?_saved, if_pos rfl])

/-- Whether the id is there or not, a removal leaves the other items. -/
theorem run_remove (stocked : Stocked s f items) (id : UInt64) :
    ∃ result s' g, (s.remove id).run f = ((result, s'), g) ∧
      s'.manifest.nextId = s.manifest.nextId ∧
      Stocked s' g (items.filter fun item => item.id != id) := by
  cases found : items.find? fun item => item.id == id with
  | none =>
    have unlisted : s.entry? id = none := by rw [stocked.find_entry, found]; rfl
    have all : items.filter (fun item => item.id != id) = items := by
      rw [List.filter_eq_self]
      intro item mem
      simpa using List.find?_eq_none.1 found item mem
    refine ⟨.error (.unknownEntry id), s, f, ?_, rfl, ?_⟩
    · simp only [remove, unlisted, Program.run]
    · rw [all]
      exact stocked
  | some item =>
    have listed : s.entry? id = some item.entry := by rw [stocked.find_entry, found]; rfl
    have file := stocked.images item (List.mem_of_find?_eq_some found)
    have same : item.id = id := by simpa using List.find?_some found
    rw [same] at file
    exact ⟨_, _, _, Shelf.run_remove stocked.flat listed file, rfl, stocked.erase id⟩

end Stocked

/-! ## Runs -/

theorem listed_append (past : List Record) (r : Record) :
    listed (past ++ [r]) = r.apply (listed past) := by
  simp only [listed, List.foldl_append, List.foldl_cons, List.foldl_nil]

theorem returned_added (past : List Record) (name : String) (image : ByteArray) (e : Entry) :
    (past ++ [Record.added name image (.ok e)]).filterMap Record.returned? =
      past.filterMap Record.returned? ++ [e.id] := by
  simp [Record.returned?]

theorem returned_removed (past : List Record) (id : UInt64) :
    (past ++ [Record.removed id]).filterMap Record.returned? =
      past.filterMap Record.returned? := by
  simp [Record.returned?]

/-- What every deed keeps: the shelf holds what its history says, and it has given no id twice. -/
structure Sound (h : History) : Prop where
  stocked : Stocked h.shelf h.folder (listed h.past)
  adds : ∀ name image result, .added name image result ∈ h.past →
    ∃ id, result = .ok { id, name, size := image.size }
  fresh : (h.past.filterMap Record.returned?).Nodup
  spent : ∀ id ∈ h.past.filterMap Record.returned?,
    id.toNat < h.shelf.manifest.nextId.toNat

theorem sound_start : Sound .start where
  stocked := stocked_start
  adds := fun _ _ _ mem => nomatch mem
  fresh := .nil
  spent := fun _ mem => nomatch mem

namespace Sound

variable {h : History}

theorem faithful (sound : Sound h) : Faithful h where
  adds := sound.adds
  fresh := sound.fresh
  lists := sound.stocked.lists
  loads := sound.stocked.run_load
  reopens := sound.stocked.run_openShelf

theorem act_reopen (sound : Sound h) : h.act .reopen = h := by
  simp only [History.act, sound.stocked.run_openShelf]

theorem act_load (sound : Sound h) (id : UInt64) : h.act (.load id) = h := by
  simp only [History.act, sound.stocked.run_load]

theorem add (sound : Sound h) (name : String) {image : ByteArray}
    (fits : image.size < UInt64.size) (room : h.shelf.manifest.nextId.toNat + 1 < UInt64.size) :
    Sound (h.act (.add name image)) ∧
      (h.act (.add name image)).shelf.manifest.nextId.toNat =
        h.shelf.manifest.nextId.toNat + 1 := by
  have ran := run_add sound.stocked.flat h.shelf name image
  simp only [History.act, ran]
  refine ⟨?_, nextId_add room _ _⟩
  constructor
  case stocked =>
    rw [listed_append]
    exact sound.stocked.add name fits room
  case adds =>
    intro name' image' result mem
    rcases List.mem_append.1 mem with mem | mem
    · exact sound.adds name' image' result mem
    · cases List.mem_singleton.1 mem
      exact ⟨_, rfl⟩
  case fresh =>
    rw [returned_added, List.nodup_append]
    refine ⟨sound.fresh, by simp, ?_⟩
    rintro id mem other alone rfl
    have below := sound.spent id mem
    rw [List.mem_singleton.1 alone] at below
    exact Nat.lt_irrefl _ below
  case spent =>
    intro id mem
    rw [returned_added] at mem
    rw [nextId_add room]
    rcases List.mem_append.1 mem with mem | mem
    · exact Nat.lt_succ_of_lt (sound.spent id mem)
    · rw [List.mem_singleton.1 mem]
      exact Nat.lt_succ_self _

theorem remove (sound : Sound h) (id : UInt64) :
    Sound (h.act (.remove id)) ∧
      (h.act (.remove id)).shelf.manifest.nextId = h.shelf.manifest.nextId := by
  obtain ⟨result, s', g, ran, same, stocked⟩ := sound.stocked.run_remove id
  simp only [History.act, ran]
  refine ⟨?_, same⟩
  constructor
  case stocked =>
    rw [listed_append]
    exact stocked
  case adds =>
    intro name image result mem
    rcases List.mem_append.1 mem with mem | mem
    · exact sound.adds name image result mem
    · cases List.mem_singleton.1 mem
  case fresh =>
    rw [returned_removed]
    exact sound.fresh
  case spent =>
    rw [returned_removed, same]
    exact sound.spent

/-- Every deed keeps a sound history sound, and an addition takes one id. -/
theorem act (sound : Sound h) {d : Deed} (fits : ∀ image ∈ d.images, image.size < UInt64.size)
    (room : h.shelf.manifest.nextId.toNat + d.images.length < UInt64.size) :
    Sound (h.act d) ∧ (h.act d).shelf.manifest.nextId.toNat =
      h.shelf.manifest.nextId.toNat + d.images.length := by
  cases d with
  | reopen =>
    rw [sound.act_reopen]
    exact ⟨sound, rfl⟩
  | load id =>
    rw [sound.act_load]
    exact ⟨sound, rfl⟩
  | add name image => exact sound.add name (fits image List.mem_cons_self) room
  | remove id =>
    obtain ⟨sound', same⟩ := sound.remove id
    exact ⟨sound', by rw [same]; rfl⟩

end Sound

theorem sound_actAll {h : History} (sound : Sound h) {deeds : List Deed}
    (fits : ∀ image ∈ deeds.flatMap Deed.images, image.size < UInt64.size)
    (room : h.shelf.manifest.nextId.toNat + (deeds.flatMap Deed.images).length < UInt64.size) :
    Sound (h.actAll deeds) := by
  induction deeds generalizing h with
  | nil => exact sound
  | cons d deeds ih =>
    rw [List.flatMap_cons, List.length_append] at room
    rw [List.flatMap_cons] at fits
    obtain ⟨fitsFirst, fitsOthers⟩ := List.forall_mem_append.1 fits
    obtain ⟨sound', next⟩ := sound.act fitsFirst (by omega)
    exact ih sound' fitsOthers (by omega)

/-- **Whatever is done with a shelf, it is what its history says**, as long as there are ids for all
the additions, and no image has more bytes than a number can say. -/
theorem faithful_actAll (deeds : List Deed)
    (few : (deeds.flatMap Deed.images).length < UInt64.size)
    (fits : ∀ image ∈ deeds.flatMap Deed.images, image.size < UInt64.size) :
    Faithful (History.start.actAll deeds) := by
  refine (sound_actAll sound_start fits ?_).faithful
  change 0 + _ < UInt64.size
  omega

/-- Two images with one name, the first of which is removed before the shelf is opened anew. -/
theorem faithful_of_namesakes :
    let deeds : List Deed :=
      [.add "a" ⟨#[1]⟩, .load 0, .remove 0, .reopen, .add "a" ⟨#[2, 2]⟩, .load 1]
    (deeds.flatMap Deed.images).length < UInt64.size ∧
      (∀ image ∈ deeds.flatMap Deed.images, image.size < UInt64.size) ∧
      Faithful (History.start.actAll deeds) :=
  ⟨by decide, by decide, faithful_actAll _ (by decide) (by decide)⟩

end Famicom.Shelf

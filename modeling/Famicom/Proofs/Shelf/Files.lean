import Famicom.Shelf

/-!
# The files of a shelf

No two things that a shelf keeps share a file, and in a folder that holds nothing but files no call
of a shelf is refused.

* `imageName_injective`, `imageName_ne_manifestName`, `imageName_ne_draftName`: files are kept apart
  by their names.
* `run_save`, `find?_saved`: what saving a manifest leaves in the folder.
* `run_add`, `run_remove`: what additions and removals return and leave there.
-/

namespace Famicom

open Storage

namespace Storage.Folder

/-- There are files in the folder and no other folders. -/
def Flat (f : Folder) : Prop := ∀ name inner, f.find? name ≠ some (.folder inner)

namespace Flat

variable {f : Folder}

theorem nil : Flat [] := fun _ _ found => nomatch found

theorem put (flat : Flat f) (name : String) (content : ByteArray) :
    Flat (f.put name (.file content)) := by
  intro other inner
  rw [find?_put]
  split
  · exact fun found => nomatch found
  · exact flat other inner

theorem drop (flat : Flat f) (name : String) : Flat (f.drop name) := by
  intro other inner
  rw [find?_drop]
  split
  · exact fun found => nomatch found
  · exact flat other inner

theorem write (flat : Flat f) (name : String) (content : ByteArray) :
    f.write name content = .ok (f.put name (.file content)) := by
  unfold Folder.write
  split
  · rename_i inner found
    exact absurd found (flat name inner)
  · rfl

theorem rename (flat : Flat f) {source : String} {content : ByteArray}
    (found : f.find? source = some (.file content)) (target : String) :
    f.rename source target = .ok ((f.drop source).put target (.file content)) := by
  unfold Folder.rename
  rw [found]
  cases there : f.find? target with
  | none => rfl
  | some node =>
    cases node with
    | file _ => rfl
    | folder inner => exact absurd there (flat target inner)

end Flat

theorem eq_put_of_write {f g : Folder} {name : String} {content : ByteArray}
    (written : f.write name content = .ok g) : g = f.put name (.file content) := by
  unfold write at written
  split at written
  · cases written
  · exact (Except.ok.inj written).symm

theorem eq_drop_of_remove {f g : Folder} {name : String} (removed : f.remove name = .ok g) :
    g = f.drop name := by
  unfold remove at removed
  split at removed
  · exact (Except.ok.inj removed).symm
  · cases removed
  · cases removed

theorem remove_file {f : Folder} {name : String} {content : ByteArray}
    (found : f.find? name = some (.file content)) : f.remove name = .ok (f.drop name) := by
  rw [remove, found]

theorem read_file {f : Folder} {name : String} {content : ByteArray}
    (found : f.find? name = some (.file content)) : f.read name = .ok content := by
  rw [read, found]

end Storage.Folder

namespace Shelf

/-! ## Names -/

theorem toList_imageName (id : UInt64) :
    (imageName id).toList = Nat.toDigits 10 id.toNat ++ ['.', 'n', 'e', 's'] := by
  change (toString id.toNat ++ ".nes").toList = _
  rw [String.toList_append, Nat.toString_eq_ofList_toDigits, String.toList_ofList]
  rfl

/-- Images with different ids are in different files. -/
theorem imageName_injective {a b : UInt64} (same : imageName a = imageName b) : a = b := by
  have letters := congrArg String.toList same
  rw [toList_imageName, toList_imageName] at letters
  have digits := List.append_cancel_right letters
  have value (id : UInt64) : Nat.ofDigitChars 10 (Nat.toDigits 10 id.toNat) 0 = id.toNat :=
    Nat.ofDigitChars_toDigits (by decide) (by decide)
  exact UInt64.toNat.inj (by rw [← value a, ← value b, digits])

theorem getLast?_imageName (id : UInt64) : (imageName id).toList.getLast? = some 's' := by
  rw [toList_imageName, List.getLast?_append]
  rfl

theorem imageName_ne_manifestName (id : UInt64) : imageName id ≠ manifestName := by
  intro same
  have last := getLast?_imageName id
  rw [same] at last
  exact absurd last (by decide)

theorem imageName_ne_draftName (id : UInt64) : imageName id ≠ draftName := by
  intro same
  have last := getLast?_imageName id
  rw [same] at last
  exact absurd last (by decide)

theorem draftName_ne_manifestName : draftName ≠ manifestName := by decide

/-! ## Saving -/

/-- The folder after a manifest was saved in it. -/
def saved (f : Folder) (m : Manifest) : Folder :=
  ((f.put draftName (.file m.content)).drop draftName).put manifestName (.file m.content)

/-- Saving replaces the manifest and leaves no draft behind. -/
theorem find?_saved (f : Folder) (m : Manifest) (name : String) :
    (saved f m).find? name =
      if manifestName = name then some (.file m.content)
      else if draftName = name then none
      else f.find? name := by
  simp only [saved, Folder.find?_put, Folder.find?_drop]
  split
  · rfl
  · split <;> rfl

/-- A manifest can always be saved among files. -/
theorem run_save {α : Type} {f : Folder} (flat : f.Flat) (s : Shelf)
    (next : Except Refusal Unit → Program α) :
    (s.save next).run f = (next (.ok ())).run (saved f s.manifest) := by
  have drafted : (f.put draftName (.file s.manifest.content)).find? draftName =
      some (.file s.manifest.content) := by
    rw [Folder.find?_put, if_pos rfl]
  have written := flat.write draftName s.manifest.content
  have renamed := (flat.put draftName s.manifest.content).rename drafted manifestName
  simp only [save, Program.run, written, Program.settle, renamed]
  rfl

theorem flat_saved {f : Folder} (flat : f.Flat) (m : Manifest) : (saved f m).Flat :=
  ((flat.put draftName m.content).drop draftName).put manifestName m.content

/-! ## Additions and removals -/

/-- What an addition returns and leaves among files. -/
theorem run_add {f : Folder} (flat : f.Flat) (s : Shelf) (name : String) (image : ByteArray) :
    (s.add name image).run f =
      ((.ok { id := s.manifest.nextId, name, size := image.size },
        ⟨s.manifest.add name image.size⟩),
        saved (f.put (imageName s.manifest.nextId) (.file image))
          (s.manifest.add name image.size)) := by
  have written := flat.write (imageName s.manifest.nextId) image
  have later := flat.put (imageName s.manifest.nextId) image
  simp only [add, Program.run, written, Program.settle, run_save later]

/-- What the removal of an entry returns and leaves among files. -/
theorem run_remove {f : Folder} (flat : f.Flat) {s : Shelf} {id : UInt64} {e : Entry}
    (listed : s.entry? id = some e) {image : ByteArray}
    (found : f.find? (imageName id) = some (.file image)) :
    (s.remove id).run f =
      ((.ok e, ⟨s.manifest.erase id⟩), saved (f.drop (imageName id)) (s.manifest.erase id)) := by
  have later := flat.drop (imageName id)
  simp only [remove, listed, Program.run, Folder.remove_file found, Program.settle,
    run_save later]

end Shelf

end Famicom

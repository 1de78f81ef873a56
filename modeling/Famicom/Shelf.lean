import Famicom.Journal
import Famicom.Shelf.Manifest.Reader
import Famicom.Storage.Folder

/-!
# The shelf

A shelf keeps cartridge images in a folder: one file for each image, named by its id, and a
manifest. Every change replaces the manifest in one step, by writing it under another name and
renaming it. Adding writes the image before the manifest names it; removing deletes the image before
the manifest forgets it.

* `openShelf`, `add`, `load` and `remove` are programs over the folder.
-/

namespace Famicom

open Storage

namespace Shelf

/-- Why an operation on a shelf fails. If its manifest is none, the message says why and where. -/
inductive Problem where
  | storage (refusal : Refusal)
  | manifest (reason : String)
  | unknownEntry (id : UInt64)
  deriving DecidableEq, Repr

def Problem.message : Problem → String
  | .storage r => "Library I/O error: " ++ r.message
  | .manifest reason => "Library index is unreadable: " ++ reason
  | .unknownEntry id => "No library entry with id " ++ toString id

end Shelf

open Famicom.Shelf

/-- An open shelf: what its manifest says. -/
structure Shelf where
  manifest : Manifest
  deriving DecidableEq, Repr

namespace Shelf

def manifestName : String := "index.json"

/-- The name under which a manifest is written before it replaces the old one. -/
def draftName : String := "index.json.tmp"

/-- The name of the file with an image. -/
def imageName (id : UInt64) : String := toString id ++ ".nes"

def entries (s : Shelf) : List Entry := s.manifest.entries

/-- The first entry with an id. -/
def entry? (s : Shelf) (id : UInt64) : Option Entry := s.manifest.find? id

/-- The manifest in the content of a file. -/
def decodeManifest (content : ByteArray) : Except Problem Manifest :=
  match String.fromUTF8? content with
  | none => .error (.storage .notText)
  | some text =>
    match Manifest.read text.toList with
    | .ok m => .ok m
    | .error c => .error (.manifest (c.message text.toList))

/-- Opens the shelf in a folder. A folder without a manifest, or with a path too long for one, is a
new shelf. -/
def openShelf : Program (Except Problem Shelf) :=
  .read manifestName fun
    | .ok content => .done ((decodeManifest content).map Shelf.mk)
    | .error .notFound | .error .nameTooLong => .done (.ok ⟨.blank⟩)
    | .error r => .done (.error (.storage r))

/-- Replaces the manifest in the folder. -/
def save {α : Type} (s : Shelf) (next : Except Refusal Unit → Program α) : Program α :=
  .write draftName s.manifest.content fun
    | .ok _ => .rename draftName manifestName next
    | .error r => next (.error r)

/-- Puts an image on the shelf. The shelf lists it even if its manifest could not be saved. -/
def add (s : Shelf) (name : String) (image : ByteArray) :
    Program (Except Problem Entry × Shelf) :=
  let entry : Entry := { id := s.manifest.nextId, name, size := image.size }
  let added : Shelf := ⟨s.manifest.add name image.size⟩
  .write (imageName entry.id) image fun
    | .error r => .done (.error (.storage r), s)
    | .ok _ => added.save fun
      | .ok _ => .done (.ok entry, added)
      | .error r => .done (.error (.storage r), added)

/-- The bytes of an image. -/
def load (s : Shelf) (id : UInt64) : Program (Except Problem ByteArray) :=
  match s.entry? id with
  | none => .done (.error (.unknownEntry id))
  | some _ => .read (imageName id) fun
    | .ok image => .done (.ok image)
    | .error r => .done (.error (.storage r))

/-- Takes an image off the shelf. It does not matter if its file is missing already. -/
def remove (s : Shelf) (id : UInt64) : Program (Except Problem Entry × Shelf) :=
  match s.entry? id with
  | none => .done (.error (.unknownEntry id), s)
  | some entry =>
    let removed : Shelf := ⟨s.manifest.erase id⟩
    let forget : Program (Except Problem Entry × Shelf) := removed.save fun
      | .ok _ => .done (.ok entry, removed)
      | .error r => .done (.error (.storage r), removed)
    .remove (imageName id) fun
      | .ok _ | .error .notFound => forget
      | .error r => .done (.error (.storage r), s)

/-! ## Events -/

/-- The events of having opened a shelf in a directory. -/
def openEvents (directory : String) : Except Problem Shelf → List Event
  | .ok s => [.shelfOpened directory s.entries.length]
  | .error _ => []

def addEvents : Except Problem Entry → List Event
  | .ok e => [.entryStored e.name e.id.toNat]
  | .error _ => []

def removeEvents : Except Problem Entry → List Event
  | .ok e => [.entryRemoved e.id.toNat e.name]
  | .error _ => []

end Shelf

end Famicom

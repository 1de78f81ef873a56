import Famicom.Storage.Folder

/-!
# Disks and paths

A disk is a tree of folders with a home, from which relative paths start. A path is text; its parts
are separated by slashes, a part of one dot stays where it is and a part of two dots goes up. Names
and paths have a limited length.

* `locate` finds the place a path names, checking the folders on the way.
* `createFolders` creates a folder and the folders it lies in.
* `run` runs a program over the folder at a path.
-/

namespace Famicom.Storage

/-- The folders of a disk, and the path of the one in which relative paths start. -/
structure Disk where
  root : Folder
  home : List String

namespace Path

/-- The parts between the slashes. -/
def parts (path : String) : List String :=
  (path.toList.splitOn '/').map String.ofList

def isRooted (path : String) : Bool := path.toList.head? == some '/'

/-- Whether the path ends in a slash. -/
def endsInSlash (path : String) : Bool := path.toList.getLast? == some '/'

/-- The most bytes that a name may have. -/
def nameLimit : Nat := 255

/-- The most bytes that a path may have. -/
def limit : Nat := 4095

/-- The bytes that are left for a name in the folder at a path. -/
def room (path : String) : Nat :=
  limit - (path.utf8ByteSize + if endsInSlash path then 0 else 1)

/-- Refuses a path that leads nowhere on any disk. -/
def check (path : String) : Except Refusal Unit :=
  if path.toList.contains '\x00' then .error .nullInPath
  else if path = "" then .error .notFound
  else if limit < path.utf8ByteSize then .error .nameTooLong
  else .ok ()

/-- Whether a part stays in its folder. -/
def stays (part : String) : Bool := part == "" || part == "."

/-- The parts of the path to the folder that a path lies in. Both lists begin with the last part;
what stays in its folder does not count at their beginning. -/
def above (parts : List String) : List String :=
  ((parts.dropWhile stays).drop 1).dropWhile stays

theorem length_above_le (part : String) (rest : List String) :
    (above (part :: rest)).length ≤ rest.length := by
  have first : ((part :: rest).dropWhile stays).length ≤ rest.length + 1 :=
    (List.dropWhile_sublist stays).length_le
  have second :=
    (List.dropWhile_sublist stays (l := ((part :: rest).dropWhile stays).drop 1)).length_le
  rw [List.length_drop] at second
  unfold above
  omega

/-- The part of a file name before its last dot; a dot in front does not count. -/
def stemOfName (name : List Char) : List Char :=
  let before := (name.reverse.dropWhile (· != '.')).drop 1
  if name = ['.', '.'] || before.isEmpty then name else before.reverse

/-- The name of the file without its extension, unless the path ends in a part of two dots or has
no parts. -/
def stem? (path : String) : Option String :=
  match ((parts path).filter fun part => !stays part).getLast? with
  | none | some ".." => none
  | some name => some (String.ofList (stemOfName name.toList))

end Path

namespace Folder

/-- What stands at a place below the folder; the folder itself stands at the empty place. -/
def descend (f : Folder) : List String → Option Node
  | [] => some (.folder f)
  | name :: rest =>
    match f.find? name, rest with
    | some node, [] => some node
    | some (.folder sub), rest => descend sub rest
    | _, _ => none

/-- The folder with something else at a place below it. -/
def graft (f : Folder) (node : Node) : List String → Folder
  | [] => match node with
    | .folder g => g
    | .file _ => f
  | [name] => f.put name node
  | name :: rest =>
    match f.find? name with
    | some (.folder sub) => f.put name (.folder (graft sub node rest))
    | _ => f

/-- The folder without what stands at a place below it. -/
def prune (f : Folder) : List String → Folder
  | [] => f
  | [name] => f.drop name
  | name :: rest =>
    match f.find? name with
    | some (.folder sub) => f.put name (.folder (prune sub rest))
    | _ => f

end Folder

namespace Disk

/-- A disk with nothing in its home. -/
def blank : Disk := { root := [("home", .folder [])], home := ["home"] }

/-- Where a path starts. -/
def origin (d : Disk) (path : String) : List String :=
  if Path.isRooted path then [] else d.home

/-- Looks up one part of a path in the folder at a place. What the part names may be missing. -/
def enter (d : Disk) (place : List String) (part : String) : Except Refusal (List String) :=
  match d.root.descend place with
  | none => .error .notFound
  | some (.file _) => .error .notFolder
  | some (.folder _) =>
    if Path.stays part then .ok place
    else if part = ".." then .ok place.dropLast
    else if Path.nameLimit < part.utf8ByteSize then .error .nameTooLong
    else .ok (place ++ [part])

/-- Follows the parts of a path from a place. Only the last part may be missing. -/
def follow (d : Disk) (place : List String) : List String → Except Refusal (List String)
  | [] => .ok place
  | part :: rest => do follow d (← d.enter place part) rest

/-- The place that a path names. -/
def locate (d : Disk) (path : String) : Except Refusal (List String) := do
  Path.check path
  d.follow (d.origin path) (Path.parts path)

/-- The folder in which the last part is looked up, and that part, which is empty if there are only
slashes. Slashes at the end do not count. -/
def locateLast (d : Disk) (origin parts : List String) : Except Refusal (List String × String) := do
  match parts.reverse.dropWhile (· == "") with
  | [] => return (← d.follow origin [""], "")
  | last :: before => return (← d.follow origin ("" :: before).reverse, last)

/-- The content of the file at a path. -/
def read (d : Disk) (path : String) : Except Refusal ByteArray := do
  let place ← d.locate path
  match d.root.descend place with
  | some (.file content) => return content
  | some (.folder _) => throw .isFolder
  | none => throw .notFound

/-- Creates the file at a path or replaces its content. -/
def write (d : Disk) (path : String) (content : ByteArray) : Except Refusal Disk := do
  Path.check path
  let (folder, last) ← d.locateLast (d.origin path) (Path.parts path)
  if Path.endsInSlash path then throw .isFolder
  let place ← d.enter folder last
  match d.root.descend place with
  | some (.folder _) => throw .isFolder
  | _ => return { d with root := d.root.graft (.file content) place }

/-- Deletes the file at a path. -/
def remove (d : Disk) (path : String) : Except Refusal Disk := do
  let place ← d.locate path
  match d.root.descend place with
  | some (.file _) => return { d with root := d.root.prune place }
  | some (.folder _) => throw .isFolder
  | none => throw .notFound

/-- Whether parts lead to a folder. -/
def hasFolder (d : Disk) (origin parts : List String) : Bool :=
  match d.follow origin parts with
  | .ok place =>
    match d.root.descend place with
    | some (.folder _) => true
    | _ => false
  | .error _ => false

/-- Creates the folder that parts lead to, in a folder that is there. -/
def createFolder (d : Disk) (origin parts : List String) : Except Refusal Disk := do
  let (folder, last) ← d.locateLast origin parts
  if Path.stays last || last == ".." then throw .alreadyExists
  let place ← d.enter folder last
  match d.root.descend place with
  | some _ => throw .alreadyExists
  | none => return { d with root := d.root.graft (.folder []) place }

/-- Creates the folder that parts lead to, and before it the folders it lies in, if they are
missing. The list begins with the last part. -/
def createFrom (d : Disk) (origin : List String) : List String → Except Refusal Disk
  | [] => .ok d
  | part :: rest =>
    let parts := (part :: rest).reverse
    let settle (e : Disk) (r : Refusal) : Except Refusal Disk :=
      if e.hasFolder origin parts then .ok e else .error r
    match d.createFolder origin parts with
    | .ok e => .ok e
    | .error .notFound =>
      match createFrom d origin (Path.above (part :: rest)) with
      | .error r => .error r
      | .ok e =>
        match e.createFolder origin parts with
        | .ok f => .ok f
        | .error r => settle e r
    | .error r => settle d r
termination_by parts => parts.length
decreasing_by
  have := Path.length_above_le part rest
  simp only [List.length_cons]
  omega

/-- Creates the folder at a path and the folders it lies in, where they are missing. -/
def createFolders (d : Disk) (path : String) : Except Refusal Disk := do
  Path.check path
  d.createFrom (d.origin path) (Path.parts path).reverse

/-- The folder at a path; empty if there is none. -/
def folder (d : Disk) (path : String) : Folder :=
  match d.locate path with
  | .ok place =>
    match d.root.descend place with
    | some (.folder f) => f
    | _ => []
  | .error _ => []

/-- The disk with another folder at a path. -/
def withFolder (d : Disk) (path : String) (f : Folder) : Disk :=
  match d.locate path with
  | .ok place => { d with root := d.root.graft (.folder f) place }
  | .error _ => d

/-- Runs a program over the folder at a path. A name is refused if its path would be too long. -/
def run {α : Type} (d : Disk) (path : String) (program : Program α) : α × Disk :=
  let r := (program.within (Path.room path)).run (d.folder path)
  (r.1, d.withFolder path r.2)

end Disk

end Famicom.Storage

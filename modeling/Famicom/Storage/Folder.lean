/-!
# Folders

A folder gives names to files and to other folders. Every operation either does what was asked or
refuses and leaves the folder alone.

A program over a folder is a tree of calls: each call says what it asks of the folder and how to go
on with the answer. Kept as data, one program can be run to its end, cut short after any call, or run
against a folder that refuses one of them.

* `find?_put`, `find?_drop`: a name that is put or dropped shows at that name and nowhere else.
* `Program.run` gives the result of a program and the folder it leaves.
* `Program.within` refuses the calls of a program whose names are too long.
-/

namespace Famicom.Storage

/-! ## Folders -/

/-- Why an operation is refused. A name or the path to it can be too long, a path can hold the
character with number zero, and a content can be no text. -/
inductive Refusal where
  | notFound
  | alreadyExists
  | notFolder
  | isFolder
  | nameTooLong
  | nullInPath
  | notText
  deriving DecidableEq, Repr

def Refusal.message : Refusal → String
  | .notFound => "No such file or directory (os error 2)"
  | .alreadyExists => "File exists (os error 17)"
  | .notFolder => "Not a directory (os error 20)"
  | .isFolder => "Is a directory (os error 21)"
  | .nameTooLong => "File name too long (os error 36)"
  | .nullInPath => "file name contained an unexpected NUL byte"
  | .notText => "stream did not contain valid UTF-8"

/-- What a name stands for. -/
inductive Node where
  | file (content : ByteArray)
  | folder (entries : List (String × Node))

abbrev Folder := List (String × Node)

namespace Folder

def find? (f : Folder) (name : String) : Option Node := f.lookup name

/-- The folder without a name. -/
def drop (f : Folder) (name : String) : Folder := f.filter fun p => p.1 != name

/-- The folder in which a name stands for something else than before. -/
def put (f : Folder) (name : String) (node : Node) : Folder := (name, node) :: drop f name

/-- The names in the folder, sorted. -/
def names (f : Folder) : List String := (f.map (·.1)).mergeSort fun a b => decide (a ≤ b)

theorem find?_drop (f : Folder) (a b : String) :
    find? (drop f a) b = if a = b then none else find? f b := by
  induction f with
  | nil => simp [find?, drop]
  | cons p f ih =>
    obtain ⟨c, n⟩ := p
    simp only [find?, drop, List.filter_cons, List.lookup_cons] at ih ⊢
    by_cases dropped : c = a
    · subst dropped
      simp only [bne_self_eq_false, Bool.false_eq_true, ↓reduceIte, ih]
      by_cases asked : c = b
      · simp [asked]
      · have : (b == c) = false := by simp [Ne.symm asked]
        simp [asked, this]
    · have differs : (c != a) = true := by simp [dropped]
      simp only [differs, ↓reduceIte, List.lookup_cons, ih]
      by_cases asked : b = c
      · subst asked
        simp [Ne.symm dropped]
      · have : (b == c) = false := by simp [asked]
        simp [this]

theorem find?_put (f : Folder) (a b : String) (node : Node) :
    find? (put f a node) b = if a = b then some node else find? f b := by
  have dropped := find?_drop f a b
  simp only [find?, put, List.lookup_cons] at dropped ⊢
  by_cases same : a = b
  · subst same; simp
  · have : (b == a) = false := by simp [Ne.symm same]
    simp [this, dropped, same]

/-- The content of a file. -/
def read (f : Folder) (name : String) : Except Refusal ByteArray :=
  match find? f name with
  | some (.file content) => .ok content
  | some (.folder _) => .error .isFolder
  | none => .error .notFound

/-- Creates a file or replaces its content. -/
def write (f : Folder) (name : String) (content : ByteArray) : Except Refusal Folder :=
  match find? f name with
  | some (.folder _) => .error .isFolder
  | _ => .ok (put f name (.file content))

/-- Deletes a file. -/
def remove (f : Folder) (name : String) : Except Refusal Folder :=
  match find? f name with
  | some (.file _) => .ok (drop f name)
  | some (.folder _) => .error .isFolder
  | none => .error .notFound

/-- Gives a file another name, in place of the file that had it. -/
def rename (f : Folder) (source target : String) : Except Refusal Folder :=
  match find? f source, find? f target with
  | none, _ => .error .notFound
  | some (.file _), some (.folder _) => .error .isFolder
  | some (.folder _), some (.file _) => .error .notFolder
  | some (.folder _), some (.folder _) => .error .alreadyExists
  | some node, _ => .ok (put (drop f source) target node)

end Folder

/-! ## Programs -/

inductive Program (α : Type) where
  | done (result : α)
  | read (name : String) (next : Except Refusal ByteArray → Program α)
  | write (name : String) (content : ByteArray) (next : Except Refusal Unit → Program α)
  | remove (name : String) (next : Except Refusal Unit → Program α)
  | rename (source target : String) (next : Except Refusal Unit → Program α)

namespace Program

variable {α : Type}

/-- The answer to a call that changes the folder, and the folder after it. A refused call changes
nothing. -/
def settle (f : Folder) : Except Refusal Folder → Except Refusal Unit × Folder
  | .ok g => (.ok (), g)
  | .error r => (.error r, f)

/-- Runs a program to its end. -/
def run : Program α → Folder → α × Folder
  | .done a, f => (a, f)
  | .read name next, f => (next (f.read name)).run f
  | .write name content next, f =>
    let r := settle f (f.write name content)
    (next r.1).run r.2
  | .remove name next, f =>
    let r := settle f (f.remove name)
    (next r.1).run r.2
  | .rename source target next, f =>
    let r := settle f (f.rename source target)
    (next r.1).run r.2

/-- The program whose calls are refused where a name has more than so many bytes. -/
def within (room : Nat) : Program α → Program α
  | .done a => .done a
  | .read name next =>
    if name.utf8ByteSize ≤ room then .read name fun r => (next r).within room
    else (next (.error .nameTooLong)).within room
  | .write name content next =>
    if name.utf8ByteSize ≤ room then .write name content fun r => (next r).within room
    else (next (.error .nameTooLong)).within room
  | .remove name next =>
    if name.utf8ByteSize ≤ room then .remove name fun r => (next r).within room
    else (next (.error .nameTooLong)).within room
  | .rename source target next =>
    if source.utf8ByteSize ≤ room && target.utf8ByteSize ≤ room then
      .rename source target fun r => (next r).within room
    else (next (.error .nameTooLong)).within room

end Program

end Famicom.Storage

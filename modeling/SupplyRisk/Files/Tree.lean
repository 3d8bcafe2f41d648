import SupplyRisk.Files.Path

/-!
# Files and directories

A `FileTree` holds the contents of files by their place, which is the list of names from the root.  Paths are
followed name by name, as an operating system does: every name on the way must be a directory, a point stays
and two points go up.
-/

namespace SupplyRisk

/-- Why the file system refuses an operation. -/
inductive FileFault where
  | notFound
  | exists
  | notDirectory
  | isDirectory
  /-- The bytes of a file are not text. -/
  | notText
  /-- Any other refusal, with its explanation. -/
  | other (message : String)
deriving DecidableEq

namespace FileFault

def message : FileFault → String
  | notFound => "No such file or directory (os error 2)"
  | «exists» => "File exists (os error 17)"
  | notDirectory => "Not a directory (os error 20)"
  | isDirectory => "Is a directory (os error 21)"
  | notText => "stream did not contain valid UTF-8"
  | other message => message

end FileFault

inductive FileEntry where
  | file (content : String)
  | directory
deriving DecidableEq

/-- The names from the root to a file or directory. -/
abbrev Place := List String

structure FileTree where
  entries : List (Place × FileEntry)
  /-- The directory from which relative paths are followed. -/
  current : Place

/-- The end of a path: a directory that is named by points or not at all, or a name in a directory. -/
inductive Destination where
  | directory (place : Place)
  | name (parent : Place) (name : String) (mustBeDirectory : Bool)

namespace FileTree

def entry? (t : FileTree) (place : Place) : Option FileEntry :=
  if place = [] then some .directory else t.entries.lookup place

/-- The tree with an entry at a place. -/
def put (t : FileTree) (place : Place) (entry : FileEntry) : FileTree :=
  { t with entries := (place, entry) :: t.entries.filter (fun e => e.1 ≠ place) }

def erase (t : FileTree) (place : Place) : FileTree :=
  { t with entries := t.entries.filter (fun e => e.1 ≠ place) }

/-- The directory that names lead to. -/
def descend (t : FileTree) : Place → List String → Except FileFault Place
  | here, [] => .ok here
  | here, name :: names =>
      if name = "." then t.descend here names
      else if name = ".." then t.descend here.dropLast names
      else
        match t.entry? (here ++ [name]) with
        | some .directory => t.descend (here ++ [name]) names
        | some (.file _) => .error .notDirectory
        | none => .error .notFound

/-- The names in a path. -/
def namesOf (p : FilePath) : List String :=
  (p.pieces.filter (· ≠ [])).map String.ofList

/-- Follows a path up to its last name. -/
def locate (t : FileTree) (p : FilePath) : Except FileFault Destination := do
  let start := if p.isAbsolute then [] else t.current
  let names := namesOf p
  match names.getLast? with
  | none => if p.isAbsolute then .ok (.directory start) else .error .notFound
  | some last =>
      let parent ← t.descend start names.dropLast
      if last = "." then .ok (.directory parent)
      else if last = ".." then .ok (.directory parent.dropLast)
      else .ok (.name parent last (p.text.toList.getLast? = some '/'))

/-- The contents of a file. -/
def read (t : FileTree) (p : FilePath) : Except FileFault String := do
  match ← t.locate p with
  | .directory _ => .error .isDirectory
  | .name parent name mustBeDirectory =>
      match t.entry? (parent ++ [name]) with
      | none => .error .notFound
      | some .directory => .error .isDirectory
      | some (.file content) => if mustBeDirectory then .error .notDirectory else .ok content

/-- The tree with new contents of a file, which is made if there is none. -/
def write (t : FileTree) (p : FilePath) (content : String) : Except FileFault FileTree := do
  match ← t.locate p with
  | .directory _ => .error .isDirectory
  | .name parent name mustBeDirectory =>
      if mustBeDirectory ∨ t.entry? (parent ++ [name]) = some .directory then .error .isDirectory
      else .ok (t.put (parent ++ [name]) (.file content))

/-- The tree with a new directory. -/
def createDirectory (t : FileTree) (p : FilePath) : Except FileFault FileTree := do
  match ← t.locate p with
  | .directory _ => .error .exists
  | .name parent name _ =>
      match t.entry? (parent ++ [name]) with
      | some _ => .error .exists
      | none => .ok (t.put (parent ++ [name]) .directory)

def isDirectory (t : FileTree) (p : FilePath) : Bool :=
  match t.locate p with
  | .ok (.directory _) => true
  | .ok (.name parent name _) => t.entry? (parent ++ [name]) = some .directory
  | .error _ => false

/-- Whether there is a file or directory at a path. -/
def «exists» (t : FileTree) (p : FilePath) : Bool :=
  match t.locate p with
  | .ok (.directory _) => true
  | .ok (.name parent name mustBeDirectory) =>
      match t.entry? (parent ++ [name]) with
      | some .directory => true
      | some (.file _) => !mustBeDirectory
      | none => false
  | .error _ => false

/-- The tree with the directories of a path, given its lineage; those that exist already are kept. -/
def createLineage (t : FileTree) : List FilePath → Except FileFault FileTree
  | [] => .error (.other "failed to create whole tree")
  | p :: parents =>
      if p.text = "" then .ok t
      else
        match t.createDirectory p with
        | .ok t => .ok t
        | .error .notFound => do
            let t ← t.createLineage parents
            match t.createDirectory p with
            | .ok t => .ok t
            | .error fault => if t.isDirectory p then .ok t else .error fault
        | .error fault => if t.isDirectory p then .ok t else .error fault

/-- The tree with the directories of a path. -/
def createDirectories (t : FileTree) (p : FilePath) : Except FileFault FileTree :=
  t.createLineage p.lineage

/-- The tree after a file was moved to another path, over a file that is there. -/
def rename (t : FileTree) (source target : FilePath) : Except FileFault FileTree := do
  let content ← t.read source
  let moved ← t.write target content
  match t.locate source, t.locate target with
  | .ok (.name parent name _), .ok (.name parent' name' _) =>
      if parent ++ [name] = parent' ++ [name'] then .ok moved else .ok (moved.erase (parent ++ [name]))
  | _, _ => .ok moved

/-- The tree with a file and the directories that it is in. -/
def addFile (t : FileTree) (p : FilePath) (content : String) : Except FileFault FileTree := do
  let t ← match p.parent? with
    | some parent => t.createDirectories parent
    | none => .ok t
  t.write p content

/-- The names that lead from a directory to a place below it. -/
def below? (directory place : Place) : Option Place :=
  if directory.isPrefixOf place then some (place.drop directory.length) else none

/-- The files below a directory, each with the path that leads there from it. -/
def filesBelow (t : FileTree) (directory : Place) : List (FilePath × String) :=
  t.entries.filterMap (fun e =>
    match e.2, below? directory e.1 with
    | .file content, some names => some (⟨String.intercalate "/" names⟩, content)
    | _, _ => none)

end FileTree

end SupplyRisk

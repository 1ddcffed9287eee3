import MarkLint.Files.Path

/-!
# Directory trees

The files that a run can see: a tree of directories and regular files, and the directory in which the run takes place.
-/

namespace MarkLint.Files

/-- A file with its octets, or a directory. -/
inductive Entry where
  | file (octets : List Nat)
  | folder (entries : List (String × Entry))
  deriving Inhabited

/-- Why a file cannot be opened. -/
inductive OpenFault where
  | notFound
  | notADirectory
  | isADirectory
  deriving Repr, DecidableEq

/-- The number and the wording of a fault. -/
def OpenFault.message : OpenFault → String
  | notFound => "[Errno 2] No such file or directory"
  | notADirectory => "[Errno 20] Not a directory"
  | isADirectory => "[Errno 21] Is a directory"

/-- A directory tree, and the names on the way from its root to the working directory. -/
structure Disk where
  root : Entry
  cwd : List String

/-- The entry with `e` in the place that names lead to; directories that are missing on the way are created. -/
def Entry.put (e : Entry) : List String → Entry → Entry
  | [], _ => e
  | _ :: _, .file octets => .file octets
  | name :: rest, .folder entries =>
    .folder ((name, Entry.put e rest ((entries.lookup name).getD (.folder [])))
      :: entries.filter fun other => other.1 ≠ name)

/-- Finds the entry that names lead to; `above` are the directories passed on the way, nearest first. -/
def walkNames (above : List Entry) (current : Entry) : List String → Except OpenFault Entry
  | [] => .ok current
  | name :: rest =>
    match current with
    | .file _ => .error .notADirectory
    | .folder entries =>
      if name = ".." then
        match above with
        | [] => walkNames [] current rest
        | parent :: further => walkNames further parent rest
      else match entries.lookup name with
        | some next => walkNames (current :: above) next rest
        | none => .error .notFound

/-- The names of a path without double dots; the one before a double dot goes with it. -/
def resolveNames (done : List String) : List String → List String
  | [] => done.reverse
  | name :: rest => if name = ".." then resolveNames (done.drop 1) rest else resolveNames (name :: done) rest

/-- The paths of all files below an entry, each from the path of the entry. -/
def filePaths (p : Path) : Entry → List Path
  | .file _ => [p]
  | .folder entries => filePathsIn p entries
where
  /-- The paths of all files below the entries of a directory. -/
  filePathsIn (p : Path) : List (String × Entry) → List Path
    | [] => []
    | (name, e) :: rest => filePaths (p.child name) e ++ filePathsIn p rest

namespace Disk

/-- The names from the root to a path. -/
def absoluteNames (d : Disk) (p : Path) : List String := if p.isAbsolute then p.parts else d.cwd ++ p.parts

/-- The entry at a path. -/
def find (d : Disk) (p : Path) : Except OpenFault Entry := walkNames [] d.root (d.absoluteNames p)

/-- The path as names from the root, without double dots. Two paths with the same names lead to one file. -/
def resolve (d : Disk) (p : Path) : List String := resolveNames [] (d.absoluteNames p)

/-- Is there a directory at the path? -/
def isFolder (d : Disk) (p : Path) : Bool :=
  match d.find p with
  | .ok (.folder _) => true
  | _ => false

/-- Is there a regular file at the path? -/
def isFile (d : Disk) (p : Path) : Bool :=
  match d.find p with
  | .ok (.file _) => true
  | _ => false

/-- The octets of the file at a path. -/
def readFile (d : Disk) (p : Path) : Except OpenFault (List Nat) :=
  match d.find p with
  | .ok (.file octets) => .ok octets
  | .ok (.folder _) => .error .isADirectory
  | .error e => .error e

/-- The paths of all regular files below a directory, each from the path of the directory. -/
def filesBelow (d : Disk) (p : Path) : List Path :=
  match d.find p with
  | .ok (.folder entries) => filePaths p (.folder entries)
  | _ => []

/-- The path of the working directory. -/
def cwdPath (d : Disk) : Path := ⟨"/", d.cwd⟩

end Disk
end MarkLint.Files

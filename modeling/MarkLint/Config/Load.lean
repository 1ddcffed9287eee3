import MarkLint.Config
import MarkLint.Files.Disk
import MarkLint.Text.Utf8
import MarkLint.Toml.Reader

/-!
# Finding the configuration

The configuration stands in the nearest `pyproject.toml`, in a directory or in one of those that enclose it.
-/

namespace MarkLint.Config

open MarkLint.Files

/-- Why a configuration cannot be loaded: its file is no text, an integer in it is too long to be read, or what should
be a table is none. -/
inductive LoadError where
  | notUtf8 (e : Text.DecodeError)
  | tooLong
  | shape (e : ShapeError)
  deriving Repr, DecidableEq

/-- The configuration in the octets of a file. A file that is not TOML counts as an empty one, with a warning. -/
def ofOctets (octets : List Nat) : Except LoadError (Config × List Warning) :=
  match Text.decodeUtf8 octets with
  | .error e => .error (.notUtf8 e)
  | .ok text =>
    match Toml.read text with
    | .error .malformed => .ok ({}, [.unreadable])
    | .error .tooLong => .error .tooLong
    | .ok document =>
      match ofDocument document with
      | .ok result => .ok result
      | .error e => .error (.shape e)

/-- The nearest configuration file, from the path `start` upwards. -/
def findFile? (disk : Disk) (start : Path) : Option Path :=
  ((start :: start.parents).map (·.child "pyproject.toml")).find? disk.isFile

/-- The configuration that holds at a path, and the warnings about its entries. -/
def load (disk : Disk) (start : Path) : Except LoadError (Config × List Warning) :=
  match findFile? disk start with
  | none => .ok ({}, [])
  | some path =>
    match disk.readFile path with
    | .ok octets => ofOctets octets
    | .error _ => .ok ({}, [.unreadable])

end MarkLint.Config

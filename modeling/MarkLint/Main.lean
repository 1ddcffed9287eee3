import MarkLint.Command

/-!
# The program

The files that a run can see are those that standard input lists, one path on each line. The rest is `Command.run`.
-/

namespace MarkLint.Main

open MarkLint.Files

/-- The lines of a stream up to its end. -/
partial def readLines (input : IO.FS.Stream) : IO (List String) := do
  let line ← input.getLine
  if line.isEmpty then return []
  return line.trimAscii.toString :: (← readLines input)

/-- Adds the file at a path to a directory tree; nothing happens if it cannot be read. -/
def addFile (cwd : Path) (root : Entry) (path : String) : IO Entry := do
  match ← (IO.FS.readBinFile path).toBaseIO with
  | .ok octets =>
    let names := resolveNames [] (cwd.join (Path.ofString path)).parts
    return Entry.put (.file (octets.toList.map UInt8.toNat)) names root
  | .error _ => return root

/-- What a run in the working directory can see. -/
def surroundings (paths : List String) : IO Command.Surroundings := do
  let cwd := Path.ofString (← IO.currentDir).toString
  let root ← paths.foldlM (addFile cwd) (Entry.put (.folder []) cwd.parts (.folder []))
  return ⟨⟨root, cwd.parts⟩, none⟩

/-- Tells how the program is used. -/
def usageText : String :=
  "usage: marklint check [--diff] [--format text|json] PATH... < LIST\n       marklint rules\n"

/-- Prints what a run leaves behind, and gives its exit code. -/
def finish : Command.Outcome → IO UInt32
  | .usage => do
    (← IO.getStderr).putStr usageText
    return 2
  | .finished o => do
    (← IO.getStdout).putStr o.stdout
    (← IO.getStderr).putStr o.stderr
    return o.exitCode.toUInt32
  | .brokeDown (.config _) => do
    (← IO.getStderr).putStr "error: the configuration cannot be read\n"
    return 1
  | .brokeDown (.tree _) => do
    (← IO.getStderr).putStr "error: a document cannot be read\n"
    return 1

end MarkLint.Main

/-- Runs the program. -/
def main (arguments : List String) : IO UInt32 := do
  let paths ← MarkLint.Main.readLines (← IO.getStdin)
  MarkLint.Main.finish (MarkLint.Command.run (← MarkLint.Main.surroundings paths) arguments)

import FluentRecords.CommandLine.Program

/-!
The program on a disk. What the arguments may name is read into a tree of files, the program runs on
the tree, and what it changed there is written back.
-/

namespace FluentRecords

namespace Disk

/-- What stands at a place on disk. A directory is what cannot be read because it is no file. -/
def look (place : Directory) : IO (Option FileEntry) := do
  match ← (IO.FS.readBinFile (FilePath.absoluteText place).toStringLossy).toBaseIO with
  | .ok bytes => pure (some (.file bytes.toList))
  | .error (.inappropriateType _ _ _) => pure (some .directory)
  | .error _ => pure none

/-- Goes one piece further and adds what stands there to the tree. -/
def visit (spot : FileTree × Directory) (piece : Text) : IO (FileTree × Directory) := do
  match spot.1.step spot.2 piece with
  | .error _ => pure spot
  | .ok place =>
    match ← look place with
    | some e => pure (spot.1.put place e, place)
    | none => pure (spot.1, place)

/-- Adds what stands along a path to the tree. -/
def survey (here : Directory) (tree : FileTree) (path : Text) : IO FileTree := do
  let start := if path.head? == some 47 then [] else here
  return (← (FilePath.pieces path).foldlM visit (tree, start)).1

/-- The paths that an argument may hold: all of it, or what follows an equals sign. -/
def pathsOf (argument : Text) : List Text :=
  [argument, (argument.dropWhile (· != 61)).tail]

/-- Puts an entry at a place on disk. -/
def store (place : Directory) (e : FileEntry) : IO Unit :=
  let path := (FilePath.absoluteText place).toStringLossy
  match e with
  | .file bytes => IO.FS.writeBinFile path ⟨bytes.toArray⟩
  | .directory => IO.FS.createDir path

/-- Runs the program in the current directory; the answer is its exit code. -/
def run (arguments : List String) : IO UInt32 := do
  let root := Text.ofString (← IO.currentDir).toString
  let here := (FilePath.ofText root).names
  let words := arguments.map Text.ofString
  let before ← (root :: words.flatMap pathsOf).foldlM (survey here) ⟨[]⟩
  let (e, after) := Program.run .user before here words
  (FileTree.changes before after []).forM fun (place, entry) => store place entry
  (← IO.getStdout).putStr e.out.toStringLossy
  (← IO.getStderr).putStr e.err.toStringLossy
  return e.code.toUInt32

end Disk

end FluentRecords

/-- The entry point. -/
def main (arguments : List String) : IO UInt32 :=
  FluentRecords.Disk.run arguments

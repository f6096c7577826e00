import LogosHooks.CommandLine.Output

/-!
The program on the files below the current directory.
-/
namespace LogosHooks

/-- Reads the entries of a directory into the tree, and those of the directories within it down to
the given depth. What cannot be read is passed over. -/
def readInto (tree : FileTree) (here : Path) (entries : Array IO.FS.DirEntry) : Nat → IO FileTree
  | 0 => return tree
  | depth + 1 =>
    entries.foldlM (fun tree entry => do
      let p := here ++ [entry.fileName.toList]
      try
        match (← entry.path.symlinkMetadata).type with
        | .dir => readInto (tree.makeDir p) p (← entry.path.readDir) depth
        | .file | .symlink => return tree.write p (← IO.FS.readBinFile entry.path).toList
        | .other => return tree
      catch _ => return tree) tree

def depthLimit : Nat := 64

def runHere (args : List String) : IO UInt32 := do
  let started ← IO.monoMsNow
  let tree ← readInto .empty [] (← (← IO.currentDir).readDir) depthLimit
  let outcome := CommandLine.run tree (args.map String.toList)
  for (p, content) in outcome.changes tree do
    IO.FS.writeBinFile (String.ofList p.toText) ⟨content.toArray⟩
  for note in outcome.notes do
    IO.eprintln (String.ofList note.message)
  let elapsed := (← IO.monoMsNow) - started
  IO.print (String.ofList (outcome.printed.text (some elapsed)))
  return outcome.exitCode.toUInt32

end LogosHooks

def main (args : List String) : IO UInt32 := LogosHooks.runHere args

import LogosHooks.Files.Tree
import LogosHooks.Hooks.Report

/-!
Finding headers. A single directory is searched for files with the extension `h`, and what is found
is put in the order of paths, name by name and byte by byte. Any other targets are taken as they
are, as far as they are files.
-/
namespace LogosHooks

structure HeaderSearch where
  /-- Headers named after a built-in type count too. -/
  withFrameworks : Bool := false
  /-- Directories within the directory are searched too. -/
  recursive : Bool := false
  nameFilter : Option NamePattern := none
deriving Repr

/-- The part of a file name before its last dot and the part behind it. A dot in front is no
separator. -/
def cutExtension (name : Text) : Text × Option Text :=
  match name.reverse.dropWhile (· != '.') with
  | '.' :: stem@(_ :: _) => (stem.reverse, some (name.reverse.takeWhile (· != '.')).reverse)
  | _ => (name, none)

namespace HeaderSearch

def wants (o : HeaderSearch) (name : Text) : Bool :=
  let (stem, extension) := cutExtension name
  extension == some ['h'] && (o.withFrameworks || !isBuiltinName stem) &&
    o.nameFilter.all (·.accepts name)

def reaches (o : HeaderSearch) (depth : Nat) : Bool := depth == 1 || (o.recursive && 1 < depth)

end HeaderSearch

/-- The order of paths: the first name that differs decides, and a path comes before those below
it. -/
def pathLE : Path → Path → Bool
  | [], _ => true
  | _ :: _, [] => false
  | a :: p, b :: q => if a = b then pathLE p q else Utf8.bytesLE a b

def FileTree.visited (tree : FileTree) (o : HeaderSearch) (dir : Path) : List Path :=
  tree.paths.filter fun p =>
    match List.isPrefixOf? dir p with
    | some below => o.reaches below.length
    | none => false

def HeaderSearch.headersAmong (o : HeaderSearch) (visited : List Path) : List Path :=
  (visited.filter fun p => o.wants p.fileName).mergeSort pathLE

def findHeaders (tree : FileTree) (o : HeaderSearch) (targets : List Text) : List Path :=
  match targets with
  | [target] =>
    match tree.resolve? target with
    | some p =>
      if tree.isDir p then o.headersAmong (tree.visited o p) else if tree.isFile p then [p] else []
    | none => []
  | _ => (targets.filterMap tree.resolve?).filter tree.isFile

def readUnits (tree : FileTree) (paths : List Path) : List HeaderUnit × List Path :=
  (paths.filterMap fun p =>
      (tree.read? p).map fun content => ⟨p.fileName, Utf8.decodeLossy content⟩,
    paths.filter fun p => !tree.isFile p)

end LogosHooks

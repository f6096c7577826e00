import LogosHooks.Text.Utf8

/-!
A tree of files. A path is the list of names that lead from the root of the tree to a file or a
directory. A directory exists if it was made, or if something lies in it, and never where a file
does. Names are texts, every file can be read and written, and there are no links. A path text
leads to nothing if it starts outside of the tree, with a slash, or leaves it.
-/
namespace LogosHooks

abbrev Path := List Text

namespace Path

def ofText (t : Text) : Path := (t.splitOn '/').filter fun name => name != [] && name != ['.']

def toText (p : Path) : Text := ['/'].intercalate p

def fileName (p : Path) : Text := (p.getLast?).getD []

def isDirAmong (madeDirs files : List Path) (p : Path) : Bool :=
  p.isEmpty || madeDirs.any p.isPrefixOf || files.any fun q => p.isPrefixOf q && p != q

section Directories

variable {madeDirs files : List Path} {p : Path}

theorem isDirAmong_eq_false_iff :
    p.isDirAmong madeDirs files = false ↔
      p ≠ [] ∧ (∀ d ∈ madeDirs, ¬ p <+: d) ∧ ∀ q ∈ files, p <+: q → p = q := by
  simp [isDirAmong, and_assoc]

theorem isDirAmong_subset {fewer : List Path} (hfewer : fewer ⊆ files)
    (h : p.isDirAmong madeDirs files = false) : p.isDirAmong madeDirs fewer = false := by
  rw [isDirAmong_eq_false_iff] at h ⊢
  exact ⟨h.1, h.2.1, fun q hq => h.2.2 q (hfewer hq)⟩

/-- A file that is no directory, and lies below no other file, makes no file a directory. -/
theorem isDirAmong_cons (hfiles : ∀ q ∈ files, q.isDirAmong madeDirs files = false)
    (hp : p.isDirAmong madeDirs files = false) (habove : ∀ q ∈ files, q <+: p → q = p) :
    ∀ q ∈ p :: files, q.isDirAmong madeDirs (p :: files) = false := by
  intro q hq
  rcases List.mem_cons.mp hq with rfl | hold
  · rw [isDirAmong_eq_false_iff] at hp ⊢
    exact ⟨hp.1, hp.2.1, List.forall_mem_cons.mpr ⟨fun _ => rfl, hp.2.2⟩⟩
  · have hnone := hfiles q hold
    rw [isDirAmong_eq_false_iff] at hnone ⊢
    exact ⟨hnone.1, hnone.2.1, List.forall_mem_cons.mpr ⟨habove q hold, hnone.2.2⟩⟩

end Directories

end Path

/-- What stands under one key does not hide what stands under another. -/
theorem lookup_filter_ne {α β : Type} [BEq α] [LawfulBEq α] {p q : α} (h : q ≠ p)
    (l : List (α × β)) : (l.filter (·.1 != p)).lookup q = l.lookup q := by
  induction l with
  | nil => rfl
  | cons entry rest ih =>
    obtain ⟨k, value⟩ := entry
    by_cases hk : k = p
    · subst hk
      have hq : (q == k) = false := by simpa using h
      simp [List.lookup_cons, hq, ih]
    · have hk' : (k != p) = true := by simpa using hk
      rw [List.filter_cons_of_pos (by simpa using hk')]
      simp only [List.lookup_cons, ih]

/-- Files with their contents, no two of them under one path, and directories. Where a file lies
there is no directory, so no file lies below another one. -/
structure FileTree where
  files : List (Path × Bytes)
  madeDirs : List Path
  nodup : (files.map (·.1)).Nodup
  not_dir : ∀ p ∈ files.map (·.1), p.isDirAmong madeDirs (files.map (·.1)) = false
deriving Repr

namespace FileTree

def empty : FileTree := ⟨[], [], by simp, by simp⟩

def paths (tree : FileTree) : List Path := tree.files.map (·.1)

def read? (tree : FileTree) (p : Path) : Option Bytes := tree.files.lookup p

def isFile (tree : FileTree) (p : Path) : Bool := (tree.read? p).isSome

def isDir (tree : FileTree) (p : Path) : Bool := p.isDirAmong tree.madeDirs tree.paths

def makeDir (tree : FileTree) (p : Path) : FileTree :=
  if h : ∀ q ∈ tree.paths, ¬ q <+: p then
    { tree with
      madeDirs := p :: tree.madeDirs
      not_dir := by
        intro q hq
        have hnone := tree.not_dir q hq
        rw [Path.isDirAmong_eq_false_iff] at hnone ⊢
        exact ⟨hnone.1, List.forall_mem_cons.mpr ⟨h q hq, hnone.2.1⟩, hnone.2.2⟩ }
  else tree

def hasRoom (tree : FileTree) (p : Path) : Bool :=
  !tree.isDir p && decide (∀ q ∈ tree.paths, q <+: p → q = p)

theorem hasRoom_iff {tree : FileTree} {p : Path} :
    tree.hasRoom p ↔ tree.isDir p = false ∧ ∀ q ∈ tree.paths, q <+: p → q = p := by
  simp [hasRoom]

/-- Gives the file under a path a content, whether or not there was such a file. Where a file cannot
lie, nothing is written. -/
def write (tree : FileTree) (p : Path) (content : Bytes) : FileTree :=
  if h : tree.hasRoom p then
    { files := (p, content) :: tree.files.filter (·.1 != p)
      madeDirs := tree.madeDirs
      nodup := by
        rw [List.map_cons, List.nodup_cons]
        constructor
        · simp
        · exact (List.Sublist.map _ List.filter_sublist).nodup tree.nodup
      not_dir := by
        obtain ⟨hdir, habove⟩ := hasRoom_iff.mp h
        have hfewer : p :: (tree.files.filter (·.1 != p)).map (·.1) ⊆ p :: tree.paths :=
          List.cons_subset_cons p (List.filter_sublist.map _).subset
        intro q hq
        exact Path.isDirAmong_subset hfewer
          (Path.isDirAmong_cons tree.not_dir hdir habove q (hfewer hq)) }
  else tree

theorem read?_write_self {tree : FileTree} {p : Path} (h : tree.hasRoom p) (content : Bytes) :
    (tree.write p content).read? p = some content := by
  simp [read?, write, h]

/-- No other file is touched. -/
theorem read?_write_of_ne (tree : FileTree) {p q : Path} (h : q ≠ p) (content : Bytes) :
    (tree.write p content).read? q = tree.read? q := by
  unfold write
  split
  · have hq : (q == p) = false := by simpa using h
    simp [read?, List.lookup_cons, hq, lookup_filter_ne h]
  · rfl

theorem madeDirs_write (tree : FileTree) (p : Path) (content : Bytes) :
    (tree.write p content).madeDirs = tree.madeDirs := by
  unfold write
  split <;> rfl

def enter? (tree : FileTree) (here : Path) (name : Text) : Option Path :=
  if !tree.isDir here then none
  else if name == [] || name == ['.'] then some here
  else if name == ['.', '.'] then if here.isEmpty then none else some here.dropLast
  else some (here ++ [name])

/-- The path that a text leads to from the root of the tree. All directories on the way have to
exist, and what the text leads to need not. -/
def resolve? (tree : FileTree) (t : Text) : Option Path :=
  if t.isEmpty || t.head? == some '/' then none
  else (t.splitOn '/').foldlM tree.enter? []

def isDirAt (tree : FileTree) (t : Text) : Bool := (tree.resolve? t).any tree.isDir

end FileTree
end LogosHooks

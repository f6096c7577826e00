import LogosHooks.Files.HeaderSearch
import Mathlib.Data.List.Basic

/-!
Trees of files that differ from another by the content of one file. Writing to that file again
leaves such a tree one, so a run that writes to a single file need not be followed file by file. A
file can be written where a path text leads to and no directory is: all that is above it are
directories. Headers that were found in the first tree are files in the second one too, and can be
read there.
-/
namespace LogosHooks

namespace FileTree

theorem isFile_iff_mem (tree : FileTree) (p : Path) :
    tree.isFile p ↔ p ∈ tree.paths := by
  simp [isFile, read?, paths, List.lookup_isSome_iff]

/-! ### Room for a file -/

section Room

variable {tree : FileTree} {p q : Path}

theorem isDir_nil (tree : FileTree) : tree.isDir [] := rfl

theorem isDir_of_isPrefix (hq : q <+: p) (h : tree.isDir p) : tree.isDir q := by
  simp only [isDir, Path.isDirAmong, Bool.or_eq_true, List.isEmpty_iff, List.any_eq_true,
    Bool.and_eq_true, List.isPrefixOf_iff_prefix, bne_iff_ne] at h ⊢
  rcases h with (rfl | ⟨d, hd, hp⟩) | ⟨r, hr, hp, hne⟩
  · exact Or.inl (Or.inl (List.prefix_nil.mp hq))
  · exact Or.inl (Or.inr ⟨d, hd, hq.trans hp⟩)
  · refine Or.inr ⟨r, hr, hq.trans hp, ?_⟩
    rintro rfl
    exact hne (hp.eq_of_length_le hq.length_le)

theorem hasRoom_of_isFile (h : tree.isFile p) : tree.hasRoom p := by
  have hp := (tree.isFile_iff_mem p).mp h
  refine hasRoom_iff.mpr ⟨tree.not_dir p hp, fun q hq hprefix => ?_⟩
  exact (Path.isDirAmong_eq_false_iff.mp (tree.not_dir q hq)).2.2 p hp hprefix

/-- No file is above what lies in a directory. -/
theorem hasRoom_of_isDir {here : Path} {name : Text} (hhere : tree.isDir here)
    (h : tree.isDir (here ++ [name]) = false) : tree.hasRoom (here ++ [name]) := by
  refine hasRoom_iff.mpr ⟨h, fun q hq hprefix => ?_⟩
  rcases List.prefix_concat_iff.mp hprefix with heq | habove
  · exact heq
  · have hdir : tree.isDir q := isDir_of_isPrefix habove hhere
    have hnot : tree.isDir q = false := tree.not_dir q hq
    rw [hnot] at hdir
    cases hdir

theorem enter?_eq_some {here : Path} {name : Text} (h : tree.enter? here name = some p) :
    tree.isDir p ∨ tree.isDir here ∧ p = here ++ [name] := by
  unfold enter? at h
  split at h
  · cases h
  · next hhere =>
    have hdir : tree.isDir here := by simpa using hhere
    split at h
    · cases h
      exact Or.inl hdir
    · split at h
      · split at h
        · cases h
        · cases h
          exact Or.inl (isDir_of_isPrefix (List.dropLast_prefix here) hdir)
      · cases h
        exact Or.inr ⟨hdir, rfl⟩

/-- A file can be written where a text leads to, unless there is a directory. -/
theorem hasRoom_of_resolve? {t : Text} (h : tree.resolve? t = some p) (hfile : ¬ tree.isDir p) :
    tree.hasRoom p := by
  unfold resolve? at h
  split at h
  · cases h
  · rcases List.eq_nil_or_concat (t.splitOn '/') with hnil | ⟨front, name, hnames⟩
    · rw [hnil] at h
      cases h
      exact absurd tree.isDir_nil hfile
    · -- only the last step can leave the directories
      rw [hnames, List.concat_eq_append, List.foldlM_append] at h
      obtain ⟨here, -, hlast⟩ := Option.bind_eq_some_iff.mp h
      simp only [List.foldlM_cons, List.foldlM_nil, bind_pure] at hlast
      rcases enter?_eq_some hlast with hdir | ⟨hhere, rfl⟩
      · exact absurd hdir hfile
      · exact hasRoom_of_isDir hhere (by simpa using hfile)

end Room

/-! ### Writing one file -/

/-- The second tree is the first with this content of one file, which may be a new one. -/
structure Updated (before after : FileTree) (p : Path) (content : Bytes) : Prop where
  self : after.read? p = some content
  others : ∀ q, q ≠ p → after.read? q = before.read? q
  dirs : after.madeDirs = before.madeDirs

theorem updated_write {tree : FileTree} {p : Path} (h : tree.hasRoom p) (content : Bytes) :
    Updated tree (tree.write p content) p content where
  self := read?_write_self h content
  others _ hq := tree.read?_write_of_ne hq content
  dirs := tree.madeDirs_write p content

namespace Updated

variable {before after : FileTree} {p : Path} {content : Bytes}

theorem isFile (h : Updated before after p content) : after.isFile p := by
  rw [FileTree.isFile, h.self, Option.isSome_some]

theorem write (h : Updated before after p content) (next : Bytes) :
    Updated before (after.write p next) p next where
  self := read?_write_self (hasRoom_of_isFile h.isFile) next
  others q hq := (after.read?_write_of_ne hq next).trans (h.others q hq)
  dirs := (after.madeDirs_write p next).trans h.dirs

theorem getD_read? (h : Updated before after p content) (q : Path) :
    (after.read? q).getD [] = if q = p then content else (before.read? q).getD [] := by
  by_cases hq : q = p
  · rw [if_pos hq, hq, h.self, Option.getD_some]
  · rw [if_neg hq, h.others q hq]

theorem isFile_of_isFile (h : Updated before after p content) {q : Path}
    (hfile : before.isFile q) : after.isFile q := by
  by_cases hq : q = p
  · rw [hq]
    exact h.isFile
  · rwa [FileTree.isFile, h.others q hq]

end Updated

theorem isFile_of_mem_visited {tree : FileTree} {o : HeaderSearch} {dir p : Path}
    (h : p ∈ tree.visited o dir) : tree.isFile p :=
  (tree.isFile_iff_mem p).mpr (List.mem_filter.mp h).1

end FileTree

theorem HeaderSearch.mem_of_mem_headersAmong {o : HeaderSearch} {visited : List Path} {p : Path}
    (h : p ∈ o.headersAmong visited) : p ∈ visited :=
  (List.mem_filter.mp (List.mem_mergeSort.mp h)).1

theorem isFile_of_mem_findHeaders {tree : FileTree} {o : HeaderSearch} {targets : List Text}
    {p : Path} (h : p ∈ findHeaders tree o targets) : tree.isFile p := by
  unfold findHeaders at h
  split at h
  · split at h
    · split at h
      · exact FileTree.isFile_of_mem_visited (HeaderSearch.mem_of_mem_headersAmong h)
      · split at h
        · next hfile =>
          rw [List.mem_singleton.mp h]
          exact hfile
        · exact absurd h List.not_mem_nil
    · exact absurd h List.not_mem_nil
  · exact (List.mem_filter.mp h).2

def HeaderUnit.ofFile (p : Path) (content : Bytes) : HeaderUnit :=
  ⟨p.fileName, Utf8.decodeLossy content⟩

/-- Headers that are files are all read, in their order. -/
theorem readUnits_of_isFile {tree : FileTree} {paths : List Path}
    (h : ∀ p ∈ paths, tree.isFile p) :
    readUnits tree paths = (paths.map fun p => .ofFile p ((tree.read? p).getD []), []) := by
  have hread : ∀ p ∈ paths, (tree.read? p).map (HeaderUnit.ofFile p) =
      some (HeaderUnit.ofFile p ((tree.read? p).getD [])) := by
    intro p hp
    obtain ⟨content, hcontent⟩ := Option.isSome_iff_exists.mp (h p hp)
    rw [hcontent]
    rfl
  have hunits : paths.filterMap (fun p => (tree.read? p).map (HeaderUnit.ofFile p)) =
      paths.map fun p => HeaderUnit.ofFile p ((tree.read? p).getD []) := by
    rw [List.filterMap_congr hread, List.filterMap_eq_map']
  have hunreadable : paths.filter (fun p => !tree.isFile p) = [] := by
    rw [List.filter_eq_nil_iff]
    intro p hp
    simp [h p hp]
  rw [← hunits, ← hunreadable]
  rfl

end LogosHooks

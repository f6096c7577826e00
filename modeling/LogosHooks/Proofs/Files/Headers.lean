import LogosHooks.Proofs.Files.Updates
import LogosHooks.Proofs.Text.ByteOrder
import Mathlib.Data.List.Sort

/-!
The headers found below a directory. A walk reports the files in any order; the headers among them
are put into the order of paths, in which no two paths are equal, so what is found does not depend
on the walk. A wider search finds the same headers in the same order, and others between them.
-/
namespace LogosHooks

/-! ### The order of paths -/

/-- Paths are compared name by name, and names byte by byte. -/
theorem pathLE_iff (p q : Path) : pathLE p q = true ↔ p.map Utf8.encode ≤ q.map Utf8.encode := by
  induction p generalizing q with
  | nil => simp [pathLE]
  | cons a p ih =>
    cases q with
    | nil => simp [pathLE]
    | cons b q =>
      rw [List.map_cons, List.map_cons, List.cons_le_cons_iff, pathLE]
      by_cases hab : a = b
      · subst hab
        simp [ih]
      · have hne : Utf8.encode a ≠ Utf8.encode b := fun h => hab (Utf8.encode_injective h)
        rw [if_neg hab, Utf8.bytesLE_iff]
        constructor
        · exact fun hle => Or.inl (Std.lt_of_le_of_ne hle hne)
        · rintro (hlt | ⟨heq, -⟩)
          · exact Std.le_of_lt hlt
          · exact absurd heq hne

def PathLT (p q : Path) : Prop := p.map Utf8.encode < q.map Utf8.encode

theorem map_encode_injective : Function.Injective (List.map Utf8.encode) :=
  List.map_injective_iff.mpr Utf8.encode_injective

theorem pathLE_trans (p q r : Path) (hpq : pathLE p q = true) (hqr : pathLE q r = true) :
    pathLE p r = true := by
  rw [pathLE_iff] at hpq hqr ⊢
  exact List.le_trans hpq hqr

theorem pathLE_total (p q : Path) : (pathLE p q || pathLE q p) = true := by
  rw [Bool.or_eq_true, pathLE_iff, pathLE_iff]
  exact List.le_total _ _

theorem pathLE_antisymm {p q : Path} (hpq : pathLE p q = true) (hqp : pathLE q p = true) :
    p = q := by
  rw [pathLE_iff] at hpq hqp
  exact map_encode_injective (List.le_antisymm hpq hqp)

theorem PathLT.ne {p q : Path} (h : PathLT p q) : p ≠ q := by
  rintro rfl
  exact List.lt_irrefl _ h

instance : Std.Asymm PathLT where
  asymm _ _ hpq hqp := List.lt_asymm hpq hqp

theorem pathLT_of_pathLE {p q : Path} (hle : pathLE p q = true) (hne : p ≠ q) : PathLT p q :=
  Std.lt_of_le_of_ne ((pathLE_iff p q).mp hle) fun h => hne (map_encode_injective h)

/-! ### Names of headers -/

theorem cutExtension_eq_iff {name stem extension : Text} (hdot : '.' ∉ extension) :
    cutExtension name = (stem, some extension) ↔ stem ≠ [] ∧ name = stem ++ '.' :: extension := by
  have hrev : ∀ c ∈ extension.reverse, (c != '.') = true := by
    intro c hc
    have hmem : c ∈ extension := List.mem_reverse.mp hc
    simp only [bne_iff_ne, ne_eq]
    rintro rfl
    exact hdot hmem
  constructor
  · intro h
    unfold cutExtension at h
    split at h
    · next c rest hdrop =>
      obtain ⟨hstem, hext⟩ := Prod.mk.inj h
      have hname : name.reverse = name.reverse.takeWhile (· != '.') ++ '.' :: c :: rest := by
        rw [← hdrop, List.takeWhile_append_dropWhile]
      subst hstem
      refine ⟨by simp, ?_⟩
      have hextension : extension.reverse = name.reverse.takeWhile (· != '.') := by
        rw [← Option.some.inj hext, List.reverse_reverse]
      rw [← hextension] at hname
      have hback := congrArg List.reverse hname
      simpa using hback
    · exact absurd (Prod.mk.inj h).2 (by simp)
  · rintro ⟨hne, rfl⟩
    have hback : (stem ++ '.' :: extension).reverse = extension.reverse ++ '.' :: stem.reverse := by
      simp
    have hdrop : (stem ++ '.' :: extension).reverse.dropWhile (· != '.') = '.' :: stem.reverse := by
      rw [hback, List.dropWhile_append_of_pos hrev]
      rfl
    have htake : (stem ++ '.' :: extension).reverse.takeWhile (· != '.') = extension.reverse := by
      rw [hback, List.takeWhile_append_of_pos hrev]
      simp
    obtain ⟨c, rest, hstem⟩ := List.exists_cons_of_ne_nil (List.reverse_ne_nil_iff.mpr hne)
    rw [cutExtension, hdrop, htake, hstem]
    change ((c :: rest).reverse, some extension.reverse.reverse) = _
    rw [← hstem, List.reverse_reverse, List.reverse_reverse]

namespace HeaderSearch

variable {o o' : HeaderSearch} {tree : FileTree} {dir : Path}

/-- The name of a header: a stem and the extension `h`, and the stem is no built-in name unless
those count too. A filter has to accept the whole name. -/
def IsHeaderName (o : HeaderSearch) (name : Text) : Prop :=
  ∃ stem, stem ≠ [] ∧ name = stem ++ ".h".toList ∧
    (o.withFrameworks = true ∨ isBuiltinName stem = false) ∧
    ∀ f ∈ o.nameFilter, f.accepts name = true

theorem wants_iff (name : Text) : o.wants name = true ↔ o.IsHeaderName name := by
  unfold wants IsHeaderName
  have hfilter : o.nameFilter.all (·.accepts name) = true ↔
      ∀ f ∈ o.nameFilter, f.accepts name = true := by
    cases o.nameFilter <;> simp
  obtain ⟨⟨stem, extension⟩, hcut⟩ : ∃ pieces, cutExtension name = pieces := ⟨_, rfl⟩
  rw [hcut, Bool.and_eq_true, Bool.and_eq_true, hfilter, beq_iff_eq, Bool.or_eq_true,
    Bool.not_eq_true', and_assoc]
  constructor
  · rintro ⟨rfl, hstem, haccepts⟩
    obtain ⟨hne, hname⟩ := (cutExtension_eq_iff (by decide)).mp hcut
    exact ⟨stem, hne, hname, hstem, haccepts⟩
  · rintro ⟨stem', hne, hname, hstem, haccepts⟩
    have heq := (cutExtension_eq_iff (by decide)).mpr ⟨hne, hname⟩
    obtain ⟨rfl, rfl⟩ := Prod.mk.inj (hcut.symm.trans heq)
    exact ⟨rfl, hstem, haccepts⟩

def Reaches (o : HeaderSearch) (dir p : Path) : Prop :=
  ∃ below, p = dir ++ below ∧ below ≠ [] ∧ (o.recursive = true ∨ below.length = 1)

theorem mem_visited_iff {p : Path} :
    p ∈ tree.visited o dir ↔ tree.isFile p = true ∧ o.Reaches dir p := by
  rw [FileTree.visited, List.mem_filter, ← tree.isFile_iff_mem]
  refine and_congr_right fun _ => ?_
  cases hbelow : List.isPrefixOf? dir p with
  | none =>
    have hno : ∀ below, p ≠ dir ++ below := fun below h =>
      absurd (List.isPrefixOf?_eq_some_iff_append_eq.mpr h.symm) (by simp [hbelow])
    simp [Reaches, hno]
  | some below =>
    obtain rfl := List.isPrefixOf?_eq_some_iff_append_eq.mp hbelow
    have hdepth : o.reaches below.length = true ↔
        below ≠ [] ∧ (o.recursive = true ∨ below.length = 1) := by
      rw [reaches, Bool.or_eq_true, Bool.and_eq_true, beq_iff_eq, decide_eq_true_iff,
        ← List.length_pos_iff]
      constructor
      · rintro (hone | ⟨hrec, hlong⟩)
        · exact ⟨by omega, Or.inr hone⟩
        · exact ⟨by omega, Or.inl hrec⟩
      · rintro ⟨hpos, hrec | hone⟩
        · rcases Nat.lt_or_ge 1 below.length with hlong | hshort
          · exact Or.inr ⟨hrec, hlong⟩
          · exact Or.inl (by omega)
        · exact Or.inl hone
    change o.reaches below.length = true ↔ _
    simp [Reaches, hdepth]

theorem nodup_visited (tree : FileTree) (o : HeaderSearch) (dir : Path) :
    (tree.visited o dir).Nodup :=
  tree.nodup.filter _

/-- What a walk reports: each file within reach once, and no other file. Directories may be reported
as well. -/
structure IsWalk (o : HeaderSearch) (tree : FileTree) (dir : Path) (entries : List Path) :
    Prop where
  once : (entries.filter tree.isFile).Nodup
  mem_iff : ∀ p, tree.isFile p = true → (p ∈ entries ↔ o.Reaches dir p)

/-- The second search looks at least as far, and lets all names pass that the first one does. -/
structure Within (o o' : HeaderSearch) : Prop where
  recursive : o.recursive = true → o'.recursive = true
  withFrameworks : o.withFrameworks = true → o'.withFrameworks = true
  nameFilter : o'.nameFilter = none ∨ o'.nameFilter = o.nameFilter

theorem Within.isHeaderName (h : o.Within o') {name : Text} (hname : o.IsHeaderName name) :
    o'.IsHeaderName name := by
  obtain ⟨stem, hne, hstem, hbuiltin, haccepts⟩ := hname
  refine ⟨stem, hne, hstem, hbuiltin.imp_left h.withFrameworks, fun f hf => ?_⟩
  rcases h.nameFilter with hnone | hsame
  · rw [hnone] at hf
    cases hf
  · exact haccepts f (hsame ▸ hf)

theorem Within.reaches (h : o.Within o') {p : Path} (hp : o.Reaches dir p) : o'.Reaches dir p := by
  obtain ⟨below, rfl, hne, hdepth⟩ := hp
  exact ⟨below, rfl, hne, hdepth.imp_left h.recursive⟩

/-! ### Headers in order -/

theorem pairwise_headersAmong {visited : List Path} (h : visited.Nodup) :
    (o.headersAmong visited).Pairwise PathLT := by
  have hsorted := List.pairwise_mergeSort pathLE_trans pathLE_total
    (visited.filter fun p => o.wants p.fileName)
  have hnodup : (o.headersAmong visited).Nodup :=
    (List.mergeSort_perm _ _).nodup_iff.mpr (h.filter _)
  exact (hsorted.and hnodup).imp fun ⟨hle, hne⟩ => pathLT_of_pathLE hle hne

theorem mem_headersAmong_iff {visited : List Path} {p : Path} :
    p ∈ o.headersAmong visited ↔ p ∈ visited ∧ o.IsHeaderName p.fileName := by
  rw [headersAmong, List.mem_mergeSort, List.mem_filter, wants_iff]

/-- The order in which files are visited does not matter. -/
theorem headersAmong_perm {visited visited' : List Path} (h : visited.Perm visited') :
    o.headersAmong visited = o.headersAmong visited' := by
  have hsorted : ∀ l : List Path, (o.headersAmong l).Pairwise fun p q => pathLE p q = true :=
    fun l => List.pairwise_mergeSort pathLE_trans pathLE_total _
  apply List.Perm.eq_of_pairwise (fun _ _ _ _ => pathLE_antisymm) (hsorted _) (hsorted _)
  exact (List.mergeSort_perm _ _).trans ((h.filter _).trans (List.mergeSort_perm _ _).symm)

theorem headersAmong_of_isWalk {entries : List Path} (h : o.IsWalk tree dir entries) :
    o.headersAmong (entries.filter tree.isFile) = o.headersAmong (tree.visited o dir) := by
  apply headersAmong_perm
  apply (List.perm_ext_iff_of_nodup h.once (nodup_visited tree o dir)).mpr
  intro p
  rw [List.mem_filter, mem_visited_iff]
  constructor
  · rintro ⟨hp, hfile⟩
    exact ⟨hfile, (h.mem_iff p hfile).mp hp⟩
  · rintro ⟨hfile, hp⟩
    exact ⟨(h.mem_iff p hfile).mpr hp, hfile⟩

theorem Within.headersAmong_sublist (h : o.Within o') :
    (o.headersAmong (tree.visited o dir)).Sublist (o'.headersAmong (tree.visited o' dir)) := by
  have hlt := pairwise_headersAmong (o := o) (nodup_visited tree o dir)
  have hlt' := pairwise_headersAmong (o := o') (nodup_visited tree o' dir)
  have hsubset : o.headersAmong (tree.visited o dir) ⊆ o'.headersAmong (tree.visited o' dir) := by
    intro p hp
    obtain ⟨hvisited, hname⟩ := mem_headersAmong_iff.mp hp
    obtain ⟨hfile, hreach⟩ := mem_visited_iff.mp hvisited
    exact mem_headersAmong_iff.mpr
      ⟨mem_visited_iff.mpr ⟨hfile, h.reaches hreach⟩, h.isHeaderName hname⟩
  have hnodup : (o.headersAmong (tree.visited o dir)).Nodup := hlt.imp PathLT.ne
  exact List.sublist_of_subperm_of_pairwise (List.subperm_of_subset hnodup hsubset) hlt hlt'

end HeaderSearch

theorem findHeaders_of_isDir {tree : FileTree} {o : HeaderSearch} {target : Text} {dir : Path}
    (htarget : tree.resolve? target = some dir) (hdir : tree.isDir dir = true) :
    findHeaders tree o [target] = o.headersAmong (tree.visited o dir) := by
  simp only [findHeaders, htarget, hdir, if_true]

/-- The headers below a directory come in the order of their paths, each once, whatever the order in
which a walk reports the files. They are the files within reach with the name of a header, and a
wider search finds more of them without changing their order. -/
theorem findHeaders_directory {tree : FileTree} {o : HeaderSearch} {target : Text} {dir : Path}
    (htarget : tree.resolve? target = some dir) (hdir : tree.isDir dir = true) :
    (∀ entries, o.IsWalk tree dir entries →
      o.headersAmong (entries.filter tree.isFile) = findHeaders tree o [target]) ∧
    (findHeaders tree o [target]).Pairwise PathLT ∧
    (∀ p, p ∈ findHeaders tree o [target] ↔
      tree.isFile p = true ∧ o.Reaches dir p ∧ o.IsHeaderName p.fileName) ∧
    ∀ o' : HeaderSearch, o.Within o' →
      (findHeaders tree o [target]).Sublist (findHeaders tree o' [target]) := by
  have hfind : ∀ o' : HeaderSearch,
      findHeaders tree o' [target] = o'.headersAmong (tree.visited o' dir) :=
    fun _ => findHeaders_of_isDir htarget hdir
  simp only [hfind]
  refine ⟨fun _ hwalk => HeaderSearch.headersAmong_of_isWalk hwalk,
    HeaderSearch.pairwise_headersAmong (HeaderSearch.nodup_visited tree o dir), fun p => ?_,
    fun _ hwithin => hwithin.headersAmong_sublist⟩
  rw [HeaderSearch.mem_headersAmong_iff, HeaderSearch.mem_visited_iff, and_assoc]

theorem findHeaders_directory_include :
    let header := ["include".toList, "Door.h".toList]
    let hidden := ["include".toList, ".h".toList]
    let nested := ["include".toList, "Door".toList, "Lock.old.h".toList]
    let tree : FileTree := ⟨[(header, []), (hidden, []), (nested, [])], [], by decide, by decide⟩
    let direct : HeaderSearch := {}
    let deep : HeaderSearch := { recursive := true }
    (tree.resolve? "include".toList = some ["include".toList] ∧
      tree.isDir ["include".toList] = true ∧
      deep.IsWalk tree ["include".toList] [nested, ["include".toList], header, hidden] ∧
      direct.Within deep) ∧
    deep.headersAmong ([nested, ["include".toList], header, hidden].filter tree.isFile) =
      findHeaders tree deep ["include".toList] ∧
    (findHeaders tree deep ["include".toList]).Pairwise PathLT ∧
    hidden ∉ findHeaders tree deep ["include".toList] ∧
    (findHeaders tree direct ["include".toList]).Sublist
      (findHeaders tree deep ["include".toList]) := by
  intro header hidden nested tree direct deep
  have htarget : tree.resolve? "include".toList = some ["include".toList] := by decide
  have hdir : tree.isDir ["include".toList] = true := by decide
  have hwithin : direct.Within deep := ⟨by decide, by decide, Or.inl rfl⟩
  have hwalk : deep.IsWalk tree ["include".toList]
      [nested, ["include".toList], header, hidden] := by
    refine ⟨by decide, fun p hp => ?_⟩
    have hmem : p ∈ [header, hidden, nested] := (tree.isFile_iff_mem p).mp hp
    have hreach : deep.Reaches ["include".toList] p := by
      simp only [List.mem_cons, List.not_mem_nil, or_false] at hmem
      rcases hmem with rfl | rfl | rfl
      · exact ⟨["Door.h".toList], rfl, by decide, Or.inl rfl⟩
      · exact ⟨[".h".toList], rfl, by decide, Or.inl rfl⟩
      · exact ⟨["Door".toList, "Lock.old.h".toList], rfl, by decide, Or.inl rfl⟩
    have hall : ∀ q ∈ [header, hidden, nested],
        q ∈ [nested, ["include".toList], header, hidden] := by decide
    exact iff_of_true (hall p hmem) hreach
  obtain ⟨hsame, hsorted, hmem, -⟩ := findHeaders_directory (o := deep) htarget hdir
  have hhidden : ¬ deep.IsHeaderName (Path.fileName hidden) := by
    rw [← HeaderSearch.wants_iff]
    decide
  exact ⟨⟨htarget, hdir, hwalk, hwithin⟩, hsame _ hwalk, hsorted,
    fun h => hhidden ((hmem _).mp h).2.2,
    (findHeaders_directory (o := direct) htarget hdir).2.2.2 deep hwithin⟩

end LogosHooks

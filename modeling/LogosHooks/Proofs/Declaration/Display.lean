import LogosHooks.Proofs.Declaration.Accepted

/-!
The display of a method that was read. Arguments are shown one behind the other with single spaces
between them, and the words of the display are those of its arguments. Showing a method adds no
semicolon to what it was read from, and begins no comment.
-/
namespace LogosHooks

open Text SegmentStage

namespace Text

theorem words_unwords_flatMap (ts : List Text) : words (unwords ts) = ts.flatMap words := by
  induction ts with
  | nil => exact words_nil
  | cons t ts ih =>
    by_cases hne : ts = []
    · subst hne
      rw [unwords_singleton, List.flatMap_singleton]
    · rw [unwords_cons hne, words_append (breaksFront_cons rfl _), words_cons_blank rfl, ih,
        List.flatMap_cons]

theorem exists_unwords_concat (ts : List Text) (t : Text) :
    ∃ front, unwords (ts ++ [t]) = front ++ t := by
  by_cases hne : ts = []
  · exact ⟨[], by rw [hne, List.nil_append, unwords_singleton, List.nil_append]⟩
  · exact ⟨unwords ts ++ [' '], by rw [unwords_concat hne]; simp⟩

end Text

/-! ### Arguments -/

namespace Argument

def displayAll (as : List Argument) : Text := unwords (as.map display)

theorem display_eq (a : Argument) :
    a.display = argumentText a.keyword [] a.type.display (' ' :: a.name) := by
  simp [display, argumentText]

theorem words_displayAll (as : List Argument) :
    words (displayAll as) = as.flatMap fun a => words a.display := by
  rw [displayAll, words_unwords_flatMap, List.flatMap_map]

theorem words_display {a : Argument} (ha : a.Accepted) :
    words a.display = words (argumentText a.keyword [] a.type.display []) ++ [a.name] := by
  rw [display_eq]
  exact words_argumentText_gap isGap_space (by simp) ha.name

theorem displayAll_nil : displayAll [] = [] := rfl

/-- Without a keyword, the display of the first argument begins with a colon. -/
theorem exists_displayAll_cons {as : List Argument} (hne : as ≠ [])
    (hfirst : ∀ a ∈ as.head?, a.keyword = []) : ∃ rest, displayAll as = ':' :: rest := by
  obtain ⟨a, later, rfl⟩ := List.exists_cons_of_ne_nil hne
  obtain ⟨rest, hrest⟩ : ∃ rest, a.display = ':' :: rest := by
    rw [display, hfirst a rfl]
    exact ⟨_, rfl⟩
  by_cases hlater : later.map display = []
  · exact ⟨rest, by rw [displayAll, List.map_cons, hlater, unwords_singleton, hrest]⟩
  · rw [displayAll, List.map_cons, unwords_cons hlater, hrest]
    exact ⟨_, rfl⟩

/-- The display of all arguments ends with the last name. -/
theorem exists_displayAll_concat (as : List Argument) (a : Argument) :
    ∃ front, displayAll (as ++ [a]) = front ++ ") ".toList ++ a.name := by
  obtain ⟨front, hfront⟩ := exists_unwords_concat (as.map display) a.display
  refine ⟨front ++ (a.keyword ++ ":(".toList ++ a.type.display), ?_⟩
  rw [displayAll, List.map_append, List.map_singleton, hfront, display]
  simp

theorem Accepted.uncommented_display {a : Argument} (ha : a.Accepted) : Uncommented a.display := by
  obtain ⟨tail, hdisplay, htail, -⟩ := a.type.exists_display_eq
  have hslash : '/' ∉ tail := htail.not_mem (by decide) rfl
  have htype : Uncommented a.type.display := by
    rw [hdisplay, uncommented_append_iff_left hslash]
    exact ha.type.uncommented
  have hkeyword : '/' ∉ a.keyword := ha.keyword.not_mem isIdentifierChar_slash
  rw [display_eq, argumentText, uncommented_append_iff_right hkeyword,
    uncommented_cons_of_ne_iff (by decide), List.nil_append, uncommented_cons_of_ne_iff (by decide),
    uncommented_append_cons_iff (by decide), uncommented_cons_of_ne_iff (by decide)]
  exact ⟨htype, ha.name_uncommented⟩

theorem uncommented_displayAll {as : List Argument} (has : ∀ a ∈ as, a.Accepted) :
    Uncommented (displayAll as) := by
  apply uncommented_unwords
  intro t ht
  obtain ⟨a, ha, rfl⟩ := List.mem_map.mp ht
  exact (has a ha).uncommented_display

end Argument

/-! ### Methods -/

namespace Method

def shownEllipsis (m : Method) : Text := if m.isVariadic then ", ...".toList else []

theorem display_eq (m : Method) :
    m.display = m.sign :: ([] ++ '(' :: (m.returnType.display ++ ')' ::
      (' ' :: m.selector ++ (Argument.displayAll m.arguments ++ m.shownEllipsis)))) := by
  simp [display, Argument.displayAll, shownEllipsis]

theorem not_mem_shownEllipsis (m : Method) {c : Char} (hc : c ∉ ", ...".toList) :
    c ∉ m.shownEllipsis := by
  unfold shownEllipsis
  split
  · exact hc
  · simp

theorem Accepted.uncommented_display {m : Method} (hm : m.Accepted) : Uncommented m.display := by
  obtain ⟨tail, hdisplay, htail, -⟩ := m.returnType.exists_display_eq
  have hslash : '/' ∉ tail := htail.not_mem (by decide) rfl
  have htype : Uncommented m.returnType.display := by
    rw [hdisplay, uncommented_append_iff_left hslash]
    exact hm.returnType.uncommented
  have hsign : m.sign ≠ '/' := m.sign_ne (by decide) (by decide)
  have hhead : ∀ c ∈ (Argument.displayAll m.arguments).head?, c ≠ '/' := by
    by_cases hne : m.arguments = []
    · simp [hne, Argument.displayAll_nil]
    · obtain ⟨rest, hrest⟩ := Argument.exists_displayAll_cons hne hm.first_keyword
      simp [hrest]
  rw [display_eq, uncommented_cons_of_ne_iff hsign, List.nil_append,
    uncommented_cons_of_ne_iff (by decide), uncommented_append_cons_iff (by decide),
    List.cons_append, uncommented_cons_of_ne_iff (by decide), ← List.append_assoc,
    uncommented_append_iff_left (m.not_mem_shownEllipsis (by decide)), uncommented_append_iff hhead]
  exact ⟨htype, hm.selector_uncommented, Argument.uncommented_displayAll hm.arguments⟩

/-- The arguments end in a character of the last name. -/
theorem isBlank_getLast?_displayAll {as : List Argument} (has : ∀ a ∈ as, a.Accepted) :
    ∀ c ∈ (Argument.displayAll as).getLast?, isBlank c = false := by
  rcases List.eq_nil_or_concat as with rfl | ⟨init, a, rfl⟩
  · simp [Argument.displayAll_nil]
  · rw [List.concat_eq_append] at has ⊢
    obtain ⟨front, hfront⟩ := Argument.exists_displayAll_concat init a
    have hname := (has a (by simp)).name
    rw [hfront, List.getLast?_append_of_ne_nil _ hname.1]
    exact hname.tight.2

theorem isBlank_getLast?_append {s t : Text} (hs : ∀ c ∈ s.getLast?, isBlank c = false)
    (ht : ∀ c ∈ t.getLast?, isBlank c = false) : ∀ c ∈ (s ++ t).getLast?, isBlank c = false := by
  by_cases hne : t = []
  · rwa [hne, List.append_nil]
  · rwa [List.getLast?_append_of_ne_nil _ hne]

theorem Accepted.isBlank_getLast?_arguments {m : Method} (hm : m.Accepted) :
    ∀ c ∈ (Argument.displayAll m.arguments ++ m.shownEllipsis).getLast?, isBlank c = false := by
  apply isBlank_getLast?_append (isBlank_getLast?_displayAll hm.arguments)
  unfold shownEllipsis
  split
  · intro c hc
    obtain rfl : c = '.' := by simpa using hc.symm
    rfl
  · simp

theorem Accepted.isBlank_getLast?_display {m : Method} (hm : m.Accepted) :
    ∀ c ∈ m.display.getLast?, isBlank c = false := by
  have hsplit : m.display = m.sign :: '(' :: (m.returnType.display ++ ") ".toList) ++
      (m.selector ++ (Argument.displayAll m.arguments ++ m.shownEllipsis)) := by
    rw [display_eq]
    simp
  have hne : m.selector ++ (Argument.displayAll m.arguments ++ m.shownEllipsis) ≠ [] := by
    simp [hm.selector.1]
  rw [hsplit, List.getLast?_append_of_ne_nil _ hne]
  exact isBlank_getLast?_append hm.selector.tight.2 hm.isBlank_getLast?_arguments

end Method

/-! ### Semicolons -/

/-- Only blanks and stars are lost when a type is read and shown. -/
theorem DeclaredType.count_display_ofText {c : Char} (hc : isBlank c = false) (hstar : c ≠ '*')
    (t : Text) : (ofText t).display.count c = t.count c := by
  obtain ⟨body, tail, rfl, htail, -, heq⟩ := exists_body_of_ofText t
  obtain ⟨tail', hdisplay, htail', -⟩ := (ofText (body ++ tail)).exists_display_eq
  have hspace : c ≠ ' ' := by
    rintro rfl
    exact absurd hc (by decide)
  rw [hdisplay, heq, List.count_append, List.count_append,
    List.count_eq_zero.mpr (htail.not_mem hstar hc),
    List.count_eq_zero.mpr (htail'.not_mem hstar hc), count_unwords hspace, count_flatten_words hc]

namespace Argument

theorem CutFrom.count_display {a : Argument} {segment : Text} (h : a.CutFrom segment) :
    a.display.count ';' = segment.count ';' := by
  obtain ⟨front, gap, inside, behind, rfl, hcut⟩ := h
  have hgap : gap.count ';' = 0 := List.count_eq_zero.mpr (hcut.gap.not_mem rfl)
  have hkey : (trim front).count ';' = front.count ';' := count_trim rfl front
  have hname : (trim behind).count ';' = behind.count ';' := count_trim rfl behind
  have htype := DeclaredType.count_display_ofText (c := ';') rfl (by decide) inside
  rw [display, hcut.keyword_eq, hcut.type_eq, hcut.name_eq, argumentText]
  simp [List.count_append, hgap, hkey, hname, htype]

theorem count_displayAll {t : Text} {as : List Argument} (h : readArguments t = .ok as) :
    (displayAll as).count ';' = t.count ';' := by
  obtain ⟨out, hout, hcuts, -⟩ := exists_segments_of_readArguments h
  have hflat : (as.map display).flatten.count ';' = (out.flatMap words).flatten.count ';' := by
    clear h hout
    induction hcuts with
    | nil => rfl
    | @cons a s as out ha _ ih =>
      rw [List.map_cons, List.flatten_cons, List.count_append, ih, ha.count_display,
        List.flatMap_cons, List.flatten_append, List.count_append, count_flatten_words rfl]
  rw [displayAll, count_unwords (by decide), hflat, (words_of_segments hout).1,
    count_flatten_words rfl]

end Argument

/-- Showing a method adds no semicolon to the code that it was read from. -/
theorem Method.count_display_le {line : Text} {m : Method} (h : readMethod line = .ok m) :
    m.display.count ';' ≤ (declarationCode line).count ';' := by
  obtain ⟨parts, arguments, hparts, harguments, rfl⟩ := readMethod_eq_ok_iff.mp h
  obtain ⟨sign, gap, inside, front, tail, hcut⟩ := readMethodParts_eq_ok_iff.mp hparts
  have htype := DeclaredType.count_display_ofText (c := ';') rfl (by decide) (trim inside)
  have hinside : (trim inside).count ';' = inside.count ';' := count_trim rfl inside
  have hfront : (trim front).count ';' = front.count ';' := count_trim rfl front
  have htail : (trim tail).count ';' = tail.count ';' := count_trim rfl tail
  have hargs := Argument.count_displayAll harguments
  have hle := hcut.argumentsText_isPrefix.sublist.count_le ';'
  have hdots : ∀ m : Method, m.shownEllipsis.count ';' = 0 := fun m =>
    List.count_eq_zero.mpr (m.not_mem_shownEllipsis (by decide))
  have hcode : (gap ++ '(' :: (inside ++ ')' :: (front ++ tail))).count ';' ≤
      (declarationCode line).count ';' := by
    rw [hcut.code_eq]
    exact List.count_le_count_cons
  rw [display_eq, List.count_cons_of_ne (sign_ne _ (by decide) (by decide))]
  simp [List.count_append, hdots, hargs, hcut.returnText_eq, hcut.selector_eq, htype, hinside,
    hfront] at hcode ⊢
  omega

end LogosHooks

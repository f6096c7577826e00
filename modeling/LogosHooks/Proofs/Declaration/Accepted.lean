import LogosHooks.Proofs.Declaration.Spelling

/-!
What every method that is read from a line looks like, however odd the line is. The selector and the
names of the arguments are words of any characters, the types are in normal form with balanced
parentheses, and no piece has the beginning of a comment in it.
-/
namespace LogosHooks

open Text SegmentStage

theorem Text.Uncommented.trim {t : Text} (ht : Uncommented t) : Uncommented (trim t) := by
  obtain ⟨front, back, -, -, hsplit, -⟩ := exists_gaps_trim t
  exact ht.mono ⟨front, back, hsplit.symm⟩

theorem DeclaredType.wellFormed_ofText {t : Text} (hbalanced : Balanced t)
    (hcode : Uncommented t) : (ofText t).WellFormed := by
  refine ⟨isNormal_ofText t, (balanced_name_ofText_iff t).mpr hbalanced, ?_⟩
  obtain ⟨body, tail, rfl, -, -, heq⟩ := exists_body_of_ofText t
  rw [heq]
  exact uncommented_unwords_words (hcode.mono (List.prefix_append body tail).isInfix)

namespace Argument

structure Accepted (a : Argument) : Prop where
  keyword : IsKeyword a.keyword
  type : a.type.WellFormed
  type_named : a.type.name ≠ []
  name : IsWord a.name
  name_uncommented : Uncommented a.name

theorem CutFrom.accepted {a : Argument} {segment : Text} (h : a.CutFrom segment)
    (hcode : Uncommented segment) : a.Accepted := by
  obtain ⟨front, gap, inside, behind, rfl, hcut⟩ := h
  have hinside : Uncommented inside :=
    hcode.mono ⟨front ++ ':' :: (gap ++ ['(']), ')' :: behind, by simp [argumentText]⟩
  have hbehind : Uncommented behind :=
    hcode.mono ⟨front ++ ':' :: (gap ++ '(' :: (inside ++ [')'])), [], by simp [argumentText]⟩
  exact {
    keyword := hcut.keyword
    type := hcut.type_eq ▸ DeclaredType.wellFormed_ofText hcut.balanced hinside
    type_named := hcut.type_named
    name := hcut.name
    name_uncommented := hcut.name_eq ▸ hbehind.trim
  }

/-- The name is the end of the last word of the segment. -/
theorem CutFrom.exists_words_eq {a : Argument} {segment : Text} (h : a.CutFrom segment) :
    ∃ ws v, words segment = ws ++ [v ++ a.name] := by
  obtain ⟨front, gap, inside, behind, rfl, hcut⟩ := h
  obtain ⟨gap', back, -, hback, hbehind, -⟩ := exists_gaps_trim behind
  rw [← hcut.name_eq] at hbehind
  have hsplit : argumentText front gap inside behind =
      front ++ ':' :: (gap ++ '(' :: (inside ++ ')' :: gap')) ++ a.name ++ back := by
    rw [hbehind]
    simp [argumentText]
  rw [hsplit, words_append_gap hback]
  exact exists_words_append_word _ hcut.name

theorem forall₂_of_ofSegments {out : List Text} {as : List Argument}
    (h : ofSegments out = .ok as) :
    List.Forall₂ CutFrom as out ∧ ∀ a ∈ as.tail, a.keyword ≠ [] := by
  cases out with
  | nil =>
    cases h
    exact ⟨.nil, by simp⟩
  | cons s out =>
    rw [ofSegments, bind_eq_ok_iff] at h
    obtain ⟨a, ha, h⟩ := h
    obtain ⟨later, hlater, has⟩ := bind_eq_ok_iff.mp h
    cases has
    have hcuts : List.Forall₂ (fun b s => b.keyword ≠ [] ∧ b.CutFrom s) later out := by
      refine (forall₂_of_mapM hlater).imp fun b s hb => ?_
      obtain ⟨hcut, hfirst⟩ := ofSegment_eq_ok_iff.mp hb
      exact ⟨fun hkey => absurd (hfirst hkey) (by simp), hcut⟩
    obtain ⟨hkeys, hcuts⟩ := (List.forall₂_and_left later out).mp hcuts
    exact ⟨.cons (ofSegment_eq_ok_iff.mp ha).1 hcuts, hkeys⟩

/-- The segments that the arguments are read from, one by one. -/
theorem exists_segments_of_readArguments {t : Text} {as : List Argument}
    (h : readArguments t = .ok as) :
    ∃ out, segments t = .ok out ∧ List.Forall₂ CutFrom as out ∧ ∀ a ∈ as.tail, a.keyword ≠ [] := by
  obtain ⟨out, hout, has⟩ := bind_eq_ok_iff.mp h
  exact ⟨out, hout, forall₂_of_ofSegments has⟩

/-- Arguments that are read from code are accepted, whatever they are. -/
theorem accepted_of_readArguments {t : Text} {as : List Argument} (h : readArguments t = .ok as)
    (hcode : Uncommented t) : ∀ a ∈ as, a.Accepted := by
  intro a ha
  obtain ⟨out, hout, hcuts, -⟩ := exists_segments_of_readArguments h
  obtain ⟨hwords, hsegments⟩ := words_of_segments hout
  obtain ⟨s, hs, hcut⟩ := exists_mem_of_forall₂ hcuts ha
  apply hcut.accepted
  rw [← (hsegments s hs).2]
  refine uncommented_unwords fun w hw => hcode.mono (infix_of_mem_words ?_)
  rw [← hwords]
  exact List.mem_flatMap.mpr ⟨s, hs, hw⟩

theorem IsSegment.head?_eq {s w : Text} {ws : List Text} (hs : IsSegment s)
    (hwords : words s = w :: ws) (hw : w ≠ []) : s.head? = w.head? := by
  obtain ⟨c, w, rfl⟩ := List.exists_cons_of_ne_nil hw
  rw [← hs.2, hwords]
  by_cases hws : ws = []
  · rw [hws, unwords_singleton]
  · rw [unwords_cons hws]
    rfl

/-- A text that begins with a colon gives at least one argument, and the first has no keyword. -/
theorem exists_first_of_readArguments {rest : Text} {as : List Argument}
    (h : readArguments (':' :: rest) = .ok as) :
    ∃ a later, as = a :: later ∧ a.keyword = [] := by
  obtain ⟨out, hout, hcuts, -⟩ := exists_segments_of_readArguments h
  obtain ⟨hwords, hsegments⟩ := words_of_segments hout
  have hcolon : isBlank ':' = false := rfl
  obtain ⟨v, ws, hfirst⟩ := exists_words_word_append (isWord_singleton hcolon) rest
  rw [List.singleton_append, ← hwords] at hfirst
  cases hcuts with
  | nil => simp at hfirst
  | @cons a s as out ha has =>
    have hs := hsegments s List.mem_cons_self
    obtain ⟨w, ws', hw⟩ := List.exists_cons_of_ne_nil hs.words_ne_nil
    rw [List.flatMap_cons, hw, List.cons_append, List.cons.injEq] at hfirst
    have hhead : s.head? = some ':' := by
      rw [IsSegment.head?_eq hs hw (by simp [hfirst.1]), hfirst.1]
      rfl
    obtain ⟨front, gap, inside, behind, rfl, hcut⟩ := ha
    have hfront : front = [] := by
      cases front with
      | nil => rfl
      | cons c front =>
        have hc : c = ':' := by simpa [argumentText] using hhead
        exact absurd List.mem_cons_self (hc ▸ hcut.colonless)
    exact ⟨a, as, rfl, by rw [hcut.keyword_eq, hfront]; rfl⟩

/-- The last name is the end of the text. -/
theorem suffix_of_readArguments {t : Text} {as : List Argument} {a : Argument}
    (h : readArguments t = .ok as) (hlast : ∀ c ∈ t.getLast?, isBlank c = false)
    (ha : as.getLast? = some a) : a.name <:+ t := by
  obtain ⟨out, hout, hcuts, -⟩ := exists_segments_of_readArguments h
  obtain ⟨hwords, -⟩ := words_of_segments hout
  obtain ⟨init, rfl⟩ := List.getLast?_eq_some_iff.mp ha
  have hrev := List.forall₂_reverse_iff.mpr hcuts
  rw [List.reverse_concat, List.forall₂_cons_left_iff] at hrev
  obtain ⟨s, front, hcut, -, hsplit⟩ := hrev
  obtain ⟨ws, v, hs⟩ := hcut.exists_words_eq
  have hsplit := List.reverse_eq_cons_iff.mp hsplit
  have hlastWord : words t = (front.reverse.flatMap words ++ ws) ++ [v ++ a.name] := by
    rw [← hwords, hsplit, List.flatMap_append, List.flatMap_singleton, hs, List.append_assoc]
  exact (List.suffix_append v a.name).trans (suffix_of_words_eq_concat hlastWord hlast)

end Argument

namespace Method

structure Accepted (m : Method) : Prop where
  returnType : m.returnType.WellFormed
  returnType_shown : m.returnType.name ≠ [] ∨ m.returnType.isPointer = true
  selector : IsWord m.selector
  selector_colonless : ':' ∉ m.selector
  selector_uncommented : Uncommented m.selector
  arguments : ∀ a ∈ m.arguments, a.Accepted
  first_keyword : ∀ a ∈ m.arguments.head?, a.keyword = []
  later_keyword : ∀ a ∈ m.arguments.tail, a.keyword ≠ []
  variadic : m.isVariadic = true → m.arguments ≠ []
  dotless : m.isVariadic = false → ∀ a ∈ m.arguments.getLast?, ¬ ",...".toList <:+ a.name

end Method

namespace MethodParts.Cut

variable {parts : MethodParts} {code gap inside front tail : Text} {sign : Char}

/-- The text of the arguments is empty or begins with a colon. It is not empty if it had dots. -/
theorem argumentsText_cases (h : parts.Cut code sign gap inside front tail) :
    (parts.argumentsText = [] ∧ parts.isVariadic = false) ∨
      ∃ rest, parts.argumentsText = ':' :: rest := by
  have hcut := h.arguments_eq
  cases tail with
  | nil =>
    have hnil : cutEllipsis (trim []) = ([], false) := by decide
    rw [hnil, Prod.mk.injEq] at hcut
    exact Or.inl ⟨hcut.1.symm, hcut.2.symm⟩
  | cons c tail =>
    obtain rfl : c = ':' := h.tail_colon c rfl
    obtain ⟨rest, hrest⟩ := exists_trim_cons (c := ':') rfl tail
    obtain ⟨text, isVariadic, htext⟩ := exists_cutEllipsis_cons (c := ':') rfl (by decide) rest
    rw [hrest, htext, Prod.mk.injEq] at hcut
    exact Or.inr ⟨text, hcut.1.symm⟩

theorem argumentsText_isPrefix (h : parts.Cut code sign gap inside front tail) :
    parts.argumentsText <+: trim tail := by
  rcases cutEllipsis_cases (trim tail) with ⟨text, gap₁, gap₂, -, -, hsplit, hcut⟩ | hkeep
  · rw [h.arguments_eq, Prod.mk.injEq] at hcut
    rw [hcut.1]
    exact ⟨_, hsplit.symm⟩
  · rw [h.arguments_eq, Prod.mk.injEq] at hkeep
    rw [hkeep.1]

/-- Without dots, the text of the arguments is all that stands behind the selector. -/
theorem argumentsText_eq (h : parts.Cut code sign gap inside front tail)
    (hdots : parts.isVariadic = false) :
    parts.argumentsText = trim tail ∧ ¬ ",...".toList <:+ trim tail := by
  rcases cutEllipsis_cases (trim tail) with ⟨text, gap₁, gap₂, -, -, hsplit, hcut⟩ | hkeep
  · rw [h.arguments_eq, Prod.mk.injEq, hdots] at hcut
    simp at hcut
  · refine ⟨?_, not_suffix_of_cutEllipsis hkeep⟩
    rw [h.arguments_eq, Prod.mk.injEq] at hkeep
    exact hkeep.1

/-- The first argument has no keyword, and dots stand behind an argument. -/
theorem arguments_cases (h : parts.Cut code sign gap inside front tail)
    {as : List Argument} (has : readArguments parts.argumentsText = .ok as) :
    (∀ a ∈ as.head?, a.keyword = []) ∧ (parts.isVariadic = true → as ≠ []) := by
  rcases h.argumentsText_cases with ⟨hnil, hdots⟩ | ⟨rest, hcolon⟩
  · rw [hnil, Argument.readArguments_nil] at has
    cases has
    exact ⟨by simp, by simp [hdots]⟩
  · rw [hcolon] at has
    obtain ⟨a, later, rfl, hkey⟩ := Argument.exists_first_of_readArguments has
    exact ⟨by simpa using hkey, by simp⟩

end MethodParts.Cut

/-- All that holds of the method that is read from a line. -/
theorem accepted_of_readMethod {line : Text} {m : Method} (h : readMethod line = .ok m) :
    m.Accepted := by
  obtain ⟨parts, arguments, hparts, harguments, rfl⟩ := readMethod_eq_ok_iff.mp h
  obtain ⟨sign, gap, inside, front, tail, hcut⟩ := readMethodParts_eq_ok_iff.mp hparts
  have hcode := uncommented_declarationCode line
  rw [hcut.code_eq] at hcode
  have hinside : Uncommented inside :=
    hcode.mono ⟨sign :: (gap ++ ['(']), ')' :: (front ++ tail), by simp⟩
  have hfront : Uncommented front :=
    hcode.mono ⟨sign :: (gap ++ '(' :: (inside ++ [')'])), tail, by simp⟩
  have htail : Uncommented tail :=
    hcode.mono ⟨sign :: (gap ++ '(' :: (inside ++ ')' :: front)), [], by simp⟩
  have htype : DeclaredType.ofText parts.returnText = .ofText inside := by
    rw [hcut.returnText_eq, DeclaredType.ofText_trim]
  have htext : Uncommented parts.argumentsText :=
    htail.trim.mono hcut.argumentsText_isPrefix.isInfix
  have hcolon : ':' ∉ trim front := fun hmem => hcut.colonless (mem_of_mem_trim hmem)
  have hdotless : parts.isVariadic = false →
      ∀ a ∈ arguments.getLast?, ¬ ",...".toList <:+ a.name := by
    intro hdots a ha hsuffix
    obtain ⟨htext, hnot⟩ := hcut.argumentsText_eq hdots
    have hlast := fun h => Argument.suffix_of_readArguments harguments h ha
    rw [htext] at hlast
    exact hnot (hsuffix.trans (hlast (isBlank_getLast?_trimRight _)))
  obtain ⟨-, -, -, hlater⟩ := Argument.exists_segments_of_readArguments harguments
  exact {
    returnType := htype ▸ DeclaredType.wellFormed_ofText hcut.balanced hinside
    returnType_shown := by
      rw [htype, ← DeclaredType.trim_ne_nil_iff, ← hcut.returnText_eq]
      exact hcut.returnText_ne_nil
    selector := hcut.selector
    selector_colonless := hcut.selector_eq ▸ hcolon
    selector_uncommented := hcut.selector_eq ▸ hfront.trim
    arguments := Argument.accepted_of_readArguments harguments htext
    first_keyword := (hcut.arguments_cases harguments).1
    later_keyword := hlater
    variadic := (hcut.arguments_cases harguments).2
    dotless := hdotless
  }

end LogosHooks

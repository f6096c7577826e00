import LogosHooks.Declaration.Line
import LogosHooks.Proofs.Text.Lines
import LogosHooks.Proofs.Text.Spacing

/-!
The code of a line, without its comment, its semicolon and the blanks at its end. Code has no `//`
in it and ends in no blank, and it can be found again under every line end that may be written
behind it.
-/
namespace LogosHooks

open Text

namespace Text

def Uncommented (t : Text) : Prop := ¬ "//".toList <:+: t

instance (t : Text) : Decidable (Uncommented t) := inferInstanceAs (Decidable (¬ _))

theorem Uncommented.mono {s t : Text} (ht : Uncommented t) (hst : s <:+: t) :
    Uncommented s := fun h => ht (h.trans hst)

theorem uncommented_cons_iff {c : Char} {t : Text} :
    Uncommented (c :: t) ↔ ¬ "//".toList <+: c :: t ∧ Uncommented t := by
  rw [Uncommented, List.infix_cons_iff, not_or, Uncommented]

theorem uncommented_cons_of_ne_iff {c : Char} (hc : c ≠ '/') (t : Text) :
    Uncommented (c :: t) ↔ Uncommented t := by
  rw [uncommented_cons_iff]
  refine and_iff_right fun h => ?_
  obtain ⟨rest, hrest⟩ := h
  exact hc (List.cons.inj hrest).1.symm

theorem uncommented_of_not_mem {t : Text} (ht : '/' ∉ t) : Uncommented t := fun h =>
  ht (h.subset (by simp))

/-- A character other than a slash parts a text. -/
theorem uncommented_append_cons_iff {c : Char} (hc : c ≠ '/') (s t : Text) :
    Uncommented (s ++ c :: t) ↔ Uncommented s ∧ Uncommented t := by
  induction s with
  | nil =>
    rw [List.nil_append, uncommented_cons_of_ne_iff hc]
    exact (and_iff_right (uncommented_of_not_mem (by simp))).symm
  | cons d s ih =>
    rw [List.cons_append, uncommented_cons_iff, ih, uncommented_cons_iff, ← and_assoc]
    have hfront : "//".toList <+: d :: (s ++ c :: t) ↔ "//".toList <+: d :: s := by
      constructor
      · rintro ⟨rest, hrest⟩
        cases s with
        | nil =>
          have hsecond := congrArg (fun l : Text => l[1]?) hrest
          simp at hsecond
          exact absurd hsecond.symm hc
        | cons e s =>
          obtain ⟨rfl, htail⟩ := List.cons.inj hrest
          obtain ⟨rfl, -⟩ := List.cons.inj htail
          exact ⟨s, rfl⟩
      · intro h
        exact h.trans (List.prefix_append (d :: s) (c :: t))
    rw [hfront]

theorem uncommented_append_iff_left {s t : Text} (ht : '/' ∉ t) :
    Uncommented (s ++ t) ↔ Uncommented s := by
  cases t with
  | nil => rw [List.append_nil]
  | cons c t =>
    rw [List.mem_cons, not_or] at ht
    rw [uncommented_append_cons_iff (Ne.symm ht.1)]
    exact and_iff_left (uncommented_of_not_mem ht.2)

theorem uncommented_append_iff_right {s t : Text} (hs : '/' ∉ s) :
    Uncommented (s ++ t) ↔ Uncommented t := by
  induction s with
  | nil => rfl
  | cons c s ih =>
    rw [List.mem_cons, not_or] at hs
    rw [List.cons_append, uncommented_cons_of_ne_iff (Ne.symm hs.1), ih hs.2]

theorem uncommented_append_iff {s t : Text} (ht : ∀ c ∈ t.head?, c ≠ '/') :
    Uncommented (s ++ t) ↔ Uncommented s ∧ Uncommented t := by
  cases t with
  | nil =>
    rw [List.append_nil]
    exact (and_iff_left (uncommented_of_not_mem (by simp))).symm
  | cons c t =>
    have hc : c ≠ '/' := ht c rfl
    rw [uncommented_append_cons_iff hc, uncommented_cons_of_ne_iff hc]

theorem uncommented_append_of_breaksFront {s t : Text} (ht : BreaksFront t) :
    Uncommented (s ++ t) ↔ Uncommented s ∧ Uncommented t := by
  apply uncommented_append_iff
  rintro c hc rfl
  exact absurd (ht '/' hc) (by decide)

theorem uncommented_unwords {ws : List Text} (hws : ∀ w ∈ ws, Uncommented w) :
    Uncommented (unwords ws) := by
  induction ws with
  | nil => exact uncommented_of_not_mem (by simp [unwords])
  | cons w ws ih =>
    have hw := hws w List.mem_cons_self
    have hrest := ih fun v hv => hws v (List.mem_cons_of_mem w hv)
    by_cases hne : ws = []
    · subst hne
      rwa [unwords_singleton]
    · rw [unwords_cons hne]
      exact (uncommented_append_cons_iff (by decide) _ _).mpr ⟨hw, hrest⟩

theorem uncommented_unwords_words {t : Text} (ht : Uncommented t) :
    Uncommented (unwords (words t)) :=
  uncommented_unwords fun _ hw => ht.mono (infix_of_mem_words hw)

theorem uncommented_before (t : Text) : Uncommented (before "//".toList t) := by
  induction t with
  | nil => exact uncommented_of_not_mem (by simp [before])
  | cons c rest ih =>
    unfold before
    split
    · exact uncommented_of_not_mem (by simp)
    · next h =>
      refine uncommented_cons_iff.mpr ⟨fun hfront => h ?_, ih⟩
      rw [List.isPrefixOf_iff_prefix]
      exact hfront.trans ((List.prefix_cons_inj c).mpr (before_isPrefix _ rest))

theorem before_of_uncommented {t : Text} (ht : Uncommented t) : before "//".toList t = t := by
  induction t with
  | nil => rfl
  | cons c rest ih =>
    obtain ⟨hfront, hrest⟩ := uncommented_cons_iff.mp ht
    unfold before
    rw [if_neg (by rwa [List.isPrefixOf_iff_prefix]), ih hrest]

/-- A comment begins at its two slashes, unless there is a third one in front of them. -/
theorem before_append_comment {t comment : Text} (ht : Uncommented t)
    (hlast : t.getLast? ≠ some '/') (hcomment : "//".toList <+: comment) :
    before "//".toList (t ++ comment) = t := by
  induction t with
  | nil =>
    obtain ⟨rest, rfl⟩ := hcomment
    rfl
  | cons c rest ih =>
    obtain ⟨hfront, hrest⟩ := uncommented_cons_iff.mp ht
    have hnot : ¬ "//".toList <+: c :: (rest ++ comment) := by
      rintro ⟨more, hmore⟩
      cases rest with
      | nil =>
        obtain ⟨rfl, -⟩ := List.cons.inj hmore
        exact hlast rfl
      | cons d rest =>
        obtain ⟨rfl, htail⟩ := List.cons.inj hmore
        obtain ⟨rfl, -⟩ := List.cons.inj htail
        exact hfront ⟨rest, rfl⟩
    have hrestlast : rest.getLast? ≠ some '/' := by
      intro h
      exact hlast (@List.mem_getLast?_append_of_mem_getLast? _ [c] _ _ h)
    rw [List.cons_append]
    unfold before
    rw [if_neg (by rwa [List.isPrefixOf_iff_prefix]), ih hrest hrestlast]

end Text

/-! ### The code of a line -/

/-- What may stand behind a declaration on its line: blanks, a semicolon and a comment. -/
def IsLineEnd (t : Text) : Prop :=
  ∃ front semicolon back comment, IsGap front ∧ (semicolon = [] ∨ semicolon = [';']) ∧
    IsGap back ∧ (comment = [] ∨ "//".toList <+: comment) ∧
    t = front ++ semicolon ++ back ++ comment

theorem isLineEnd_nil : IsLineEnd [] :=
  ⟨[], [], [], [], isGap_nil, Or.inl rfl, isGap_nil, Or.inl rfl, rfl⟩

theorem getD_cutSuffix?_of_ne {t : Text} {c : Char} (hlast : t.getLast? ≠ some c) :
    (cutSuffix? [c] t).getD t = t := by
  have hnone : cutSuffix? [c] t = none := by
    rw [cutSuffix?_eq_none_iff]
    rintro front rfl
    exact hlast (List.getLast?_concat ..)
  rw [hnone]
  rfl

theorem getD_cutSuffix?_isPrefix (ending t : Text) : (cutSuffix? ending t).getD t <+: t := by
  cases h : cutSuffix? ending t with
  | none => exact List.prefix_refl t
  | some front => exact ⟨ending, cutSuffix?_eq_some_iff.mp h⟩

theorem trimRight_isPrefix (t : Text) : trimRight t <+: t := by
  obtain ⟨gap, -, h⟩ := exists_trimRight_append_gap t
  exact ⟨gap, h.symm⟩

theorem declarationCode_isPrefix_before (line : Text) :
    declarationCode line <+: before "//".toList line :=
  (trimRight_isPrefix _).trans ((getD_cutSuffix?_isPrefix _ _).trans (trimRight_isPrefix _))

theorem uncommented_declarationCode (line : Text) : Uncommented (declarationCode line) :=
  (uncommented_before line).mono (declarationCode_isPrefix_before line).isInfix

/-- The blanks and the semicolon behind code are no part of it. -/
theorem trimRight_cutSemicolon {code front semicolon back : Text} (hfront : IsGap front)
    (hsemicolon : semicolon = [] ∨ semicolon = [';']) (hback : IsGap back)
    (hlast : ∀ c ∈ code.getLast?, isBlank c = false ∧ c ≠ ';') :
    trimRight ((cutSuffix? [';'] (trimRight (code ++ front ++ semicolon ++ back))).getD
      (trimRight (code ++ front ++ semicolon ++ back))) = code := by
  have hcode : trimRight code = code := trimRight_eq_self fun c hc => (hlast c hc).1
  rw [trimRight_append_gap hback]
  -- the second trimming is idle without a semicolon
  rcases hsemicolon with rfl | rfl
  · have hne : code.getLast? ≠ some ';' := fun h => (hlast ';' h).2 rfl
    rw [List.append_nil, trimRight_append_gap hfront, hcode, getD_cutSuffix?_of_ne hne, hcode]
  · rw [trimRight_concat rfl, cutSuffix?_append, Option.getD_some, trimRight_append_gap hfront,
      hcode]

/-- Code is found again under a line end. -/
theorem declarationCode_append {code tail : Text} (hcode : Uncommented code)
    (hlast : ∀ c ∈ code.getLast?, isBlank c = false ∧ c ≠ '/' ∧ c ≠ ';') (htail : IsLineEnd tail) :
    declarationCode (code ++ tail) = code := by
  obtain ⟨front, semicolon, back, comment, hfront, hsemicolon, hback, hcomment, rfl⟩ := htail
  have hslash : '/' ∉ front ++ semicolon ++ back := by
    have hf := hfront.not_mem (c := '/') rfl
    have hb := hback.not_mem (c := '/') rfl
    rcases hsemicolon with rfl | rfl <;> simp [hf, hb]
  have hplain : Uncommented (code ++ (front ++ semicolon ++ back)) :=
    (uncommented_append_iff_left hslash).mpr hcode
  have hbefore : before "//".toList (code ++ (front ++ semicolon ++ back) ++ comment) =
      code ++ (front ++ semicolon ++ back) := by
    rcases hcomment with rfl | hcomment
    · rw [List.append_nil, before_of_uncommented hplain]
    · refine before_append_comment hplain (fun hmem => ?_) hcomment
      rw [List.getLast?_append] at hmem
      cases hend : (front ++ semicolon ++ back).getLast? with
      | none =>
        rw [hend, Option.none_or] at hmem
        exact (hlast '/' hmem).2.1 rfl
      | some c =>
        rw [hend, Option.some_or] at hmem
        exact hslash (List.mem_of_mem_getLast? (hend.trans hmem))
  have hassoc : code ++ (front ++ semicolon ++ back) = code ++ front ++ semicolon ++ back := by
    simp only [List.append_assoc]
  rw [declarationCode, ← List.append_assoc, hbefore, hassoc]
  exact trimRight_cutSemicolon hfront hsemicolon hback fun c hc =>
    ⟨(hlast c hc).1, (hlast c hc).2.2⟩

theorem declarationCode_append_semicolon {t : Text} (ht : Uncommented (t ++ [';'])) :
    declarationCode (t ++ [';']) = trimRight t := by
  rw [declarationCode, before_of_uncommented ht, trimRight_concat rfl, cutSuffix?_append]
  rfl

theorem declarationCode_eq_self {code : Text} (hcode : Uncommented code)
    (hlast : ∀ c ∈ code.getLast?, isBlank c = false ∧ c ≠ ';') : declarationCode code = code := by
  have h := trimRight_cutSemicolon isGap_nil (Or.inl rfl) isGap_nil hlast
  rw [declarationCode, before_of_uncommented hcode]
  simpa using h

end LogosHooks

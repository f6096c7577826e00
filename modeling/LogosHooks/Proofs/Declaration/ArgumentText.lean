import LogosHooks.Proofs.Declaration.Segments
import LogosHooks.Proofs.DeclaredType.NormalForm

/-!
A text `keyword:(type) name` is read as one segment, however it is spaced: the parentheses of its
type hold the words together, and the name is joined to them unless it has a colon in it. The
segment is read as the argument that the text spells.
-/
namespace LogosHooks

open Text

namespace Text

def IsKeyword (t : Text) : Prop := ∀ c ∈ t, isIdentifierChar c = true

theorem IsKeyword.not_mem {t : Text} (ht : IsKeyword t) {c : Char}
    (hc : isIdentifierChar c = false) : c ∉ t := by
  intro hmem
  simp [ht c hmem] at hc

theorem isBlank_of_isIdentifierChar {c : Char} (hc : isIdentifierChar c = true) :
    isBlank c = false := by
  by_contra hblank
  have hnot := isIdentifierChar_eq_false_of_isBlank (by simpa using hblank)
  simp [hc] at hnot

theorem IsKeyword.isBlank {t : Text} (ht : IsKeyword t) : ∀ c ∈ t, isBlank c = false :=
  fun c hc => isBlank_of_isIdentifierChar (ht c hc)

theorem isIdentifierChar_colon : isIdentifierChar ':' = false := by decide +kernel

theorem isIdentifierChar_open : isIdentifierChar '(' = false := by decide +kernel

theorem isIdentifierChar_close : isIdentifierChar ')' = false := by decide +kernel

theorem isIdentifierChar_slash : isIdentifierChar '/' = false := by decide +kernel

theorem isIdentifierChar_semicolon : isIdentifierChar ';' = false := by decide +kernel

theorem leavesOpen_unwords (ws : List Text) :
    leavesOpen (unwords ws) = decide (ws.flatten.count ')' < ws.flatten.count '(') := by
  rw [leavesOpen, count_unwords (by decide), count_unwords (by decide)]

theorem leavesOpen_unwords_words (t : Text) :
    leavesOpen (unwords (words t)) = decide (t.count ')' < t.count '(') := by
  rw [leavesOpen_unwords, count_flatten_words rfl, count_flatten_words rfl]

end Text

namespace SegmentStage

def Pending (stage : SegmentStage) (segment : Text) : Prop :=
  stage = .keyword segment ∨ stage = .unclosed segment

theorem Pending.next {stage : SegmentStage} {segment : Text} (h : stage.Pending segment)
    (word : Text) : stage.next word = settle (unwords [segment, word]) := by
  rw [unwords_cons (by simp), unwords_singleton]
  rcases h with rfl | rfl <;> rfl

/-- While parentheses are open, all words go into one segment. -/
theorem Pending.advance {stage : SegmentStage} {segment : Text} (h : stage.Pending segment)
    {ws : List Text} (hne : ws ≠ [])
    (hopen : ∀ us vs, ws = us ++ vs → us ≠ [] → vs ≠ [] →
      leavesOpen (unwords (segment :: us)) = true) :
    stage.advance ws = settle (unwords (segment :: ws)) := by
  induction ws generalizing stage segment with
  | nil => exact absurd rfl hne
  | cons w ws ih =>
    by_cases hws : ws = []
    · subst hws
      rw [advance_singleton, h.next]
    · have hfirst : leavesOpen (unwords [segment, w]) = true := hopen [w] ws rfl (by simp) hws
      have hjoin : ∀ us : List Text, us ≠ [] →
          unwords (unwords [segment, w] :: us) = unwords (segment :: w :: us) := by
        intro us hus
        rw [unwords_cons hus, unwords_cons (by simp), unwords_singleton, unwords_cons (by simp),
          unwords_cons hus]
        simp
      have hnext : (stage.next w).1 = [] ∧ (stage.next w).2.Pending (unwords [segment, w]) := by
        rw [h.next, settle, if_pos hfirst]
        exact ⟨rfl, Or.inr rfl⟩
      have hrest := ih hnext.2 hws fun us vs hsplit hus hvs => by
        rw [hjoin us hus]
        exact hopen (w :: us) vs (by rw [hsplit, List.cons_append]) (by simp) hvs
      rw [SegmentStage.advance, hnext.1, hrest, hjoin ws hws]
      rfl

/-- A list of words is one segment if it cannot end earlier. -/
theorem advance_idle {ws : List Text} (hne : ws ≠ [])
    (hcolon : ∀ w, ws = [w] → endsIn ':' w = false)
    (hopen : ∀ us vs, ws = us ++ vs → us ≠ [] → vs ≠ [] →
      leavesOpen (unwords us) = true ∨ ∃ w, us = [w] ∧ endsIn ':' w = true) :
    idle.advance ws = settle (unwords ws) := by
  cases ws with
  | nil => exact absurd rfl hne
  | cons w ws =>
    by_cases hws : ws = []
    · subst hws
      rw [advance_singleton, unwords_singleton]
      change start w = settle w
      rw [start, hcolon w rfl]
      rfl
    · have hstart : (start w).1 = [] ∧ (start w).2.Pending w := by
        rcases hopen [w] ws rfl (by simp) hws with hleft | ⟨v, hv, hend⟩
        · rw [unwords_singleton] at hleft
          rw [start, settle, hleft]
          split
          · exact ⟨rfl, Or.inl rfl⟩
          · exact ⟨rfl, Or.inr rfl⟩
        · obtain ⟨rfl, -⟩ := List.cons.inj hv
          rw [start, hend]
          exact ⟨rfl, Or.inl rfl⟩
      have hrest := hstart.2.advance hws fun us vs hsplit hus hvs => by
        rcases hopen (w :: us) vs (by rw [hsplit, List.cons_append]) (by simp) hvs with
          hleft | ⟨v, hv, -⟩
        · exact hleft
        · exact absurd (List.cons.inj hv).2 hus
      rw [SegmentStage.advance]
      change ((start w).1 ++ _, _) = _
      rw [hstart.1]
      exact hrest

/-- A keyword and the beginning of its type have one more parenthesis open than closed at least. -/
theorem leavesOpen_of_flatten {key n y : Text} {us : List Text} (hkey : ')' ∉ key)
    (hn : StaysOpen n) (hy : y <+: n) (hus : us.flatten = key ++ ':' :: '(' :: y) :
    leavesOpen (unwords us) = true := by
  have hle := hn y hy
  have hclose : key.count ')' = 0 := List.count_eq_zero.mpr hkey
  rw [leavesOpen_unwords, decide_eq_true_eq, hus]
  simp only [List.count_append, hclose, List.count_cons_self,
    List.count_cons_of_ne (show ':' ≠ ')' by decide),
    List.count_cons_of_ne (show ':' ≠ '(' by decide),
    List.count_cons_of_ne (show '(' ≠ ')' by decide)]
  omega

/-- Words that reach beyond the keyword, but not to the end of the type, leave its parentheses
open. -/
theorem leavesOpen_or_keyword {key n x : Text} {us : List Text} (hkey : ')' ∉ key)
    (hn : StaysOpen n) (hus : ∀ u ∈ us, u ≠ []) (hfirst : ∃ v vs, us = (key ++ ':' :: v) :: vs)
    (hall : us.flatten ++ x = key ++ ':' :: '(' :: n) :
    leavesOpen (unwords us) = true ∨ ∃ w, us = [w] ∧ endsIn ':' w = true := by
  obtain ⟨v, vs, rfl⟩ := hfirst
  simp only [List.flatten_cons, List.append_assoc, List.cons_append, List.append_cancel_left_eq,
    List.cons.injEq, true_and] at hall
  -- either the words stop at the colon, or they go on with the parenthesis of the type
  by_cases hmore : v ++ vs.flatten = []
  · right
    obtain ⟨rfl, hvs⟩ := List.append_eq_nil_iff.mp hmore
    have hnil : vs = [] := by
      cases vs with
      | nil => rfl
      | cons u vs =>
        rw [List.flatten_cons, List.append_eq_nil_iff] at hvs
        exact absurd hvs.1 (hus u (by simp))
    subst hnil
    exact ⟨_, rfl, by simp [endsIn]⟩
  · left
    obtain ⟨y, hy⟩ : ∃ y, v ++ vs.flatten = '(' :: y := by
      cases hv : v ++ vs.flatten with
      | nil => exact absurd hv hmore
      | cons c y =>
        rw [← List.append_assoc, hv, List.cons_append, List.cons.injEq] at hall
        exact ⟨y, by rw [hall.1]⟩
    have hstart : y <+: n := by
      rw [← List.append_assoc, hy, List.cons_append, List.cons.injEq] at hall
      exact ⟨x, hall.2⟩
    refine leavesOpen_of_flatten hkey hn hstart ?_
    rw [List.flatten_cons, List.append_assoc, List.cons_append, hy]

def argumentText (key gap inside tail : Text) : Text :=
  key ++ ':' :: (gap ++ '(' :: (inside ++ ')' :: tail))

section Argument

variable {key gap inside tail name : Text}

theorem filter_argumentText (hkey : IsKeyword key) (hgap : IsGap gap)
    (htail : ∀ c ∈ tail, isBlank c = false) :
    (argumentText key gap inside tail).filter (!isBlank ·) =
      key ++ ':' :: '(' :: (inside.filter (!isBlank ·) ++ ')' :: tail) := by
  have hkeyFilter := filter_of_forall_not_blank hkey.isBlank
  have hcolon : isBlank ':' = false := rfl
  have hopen : isBlank '(' = false := rfl
  have hclose : isBlank ')' = false := rfl
  simp [argumentText, List.filter_append, hkeyFilter, hgap.filter_eq_nil,
    filter_of_forall_not_blank htail, hcolon, hopen, hclose]

theorem words_argumentText_ne_nil : words (argumentText key gap inside tail) ≠ [] := by
  intro h
  have hmem : ':' ∈ argumentText key gap inside tail := by simp [argumentText]
  exact (words_eq_nil_iff.mp h).not_mem rfl hmem

/-- The first word begins with the keyword and its colon. -/
theorem exists_words_keyword_cons (hkey : ∀ c ∈ key, isBlank c = false) (t : Text) :
    ∃ v ws, words (key ++ ':' :: t) = (key ++ ':' :: v) :: ws := by
  have hword : IsWord (key ++ [':']) := by
    refine ⟨by simp, fun c hc => ?_⟩
    rcases List.mem_append.mp hc with h | h
    · exact hkey c h
    · exact List.mem_singleton.mp h ▸ rfl
  have hsplit : key ++ ':' :: t = key ++ [':'] ++ t := by simp
  obtain ⟨v, ws, hwords⟩ := exists_words_word_append hword t
  exact ⟨v, ws, by rw [hsplit, hwords, List.append_assoc, List.singleton_append]⟩

/-- The last word ends with the parenthesis of the type and what follows it. -/
theorem exists_words_argumentText_concat (key gap inside : Text)
    (htail : ∀ c ∈ tail, isBlank c = false) :
    ∃ ws v, words (argumentText key gap inside tail) = ws ++ [v ++ ')' :: tail] := by
  have hword : IsWord (')' :: tail) := by
    refine ⟨by simp, fun c hc => ?_⟩
    rcases List.mem_cons.mp hc with rfl | h
    · rfl
    · exact htail c h
  have hsplit : argumentText key gap inside tail =
      key ++ ':' :: (gap ++ '(' :: inside) ++ ')' :: tail := by simp [argumentText]
  rw [hsplit]
  exact exists_words_append_word _ hword

/-- The words in front of the last one leave the type open, or they are the keyword alone. -/
theorem leavesOpen_of_words_argumentText (hkey : IsKeyword key) (hgap : IsGap gap)
    (hinside : Balanced inside) (htail : ∀ c ∈ tail, isBlank c = false) {us vs : List Text}
    (hsplit : words (argumentText key gap inside tail) = us ++ vs) (hus : us ≠ [])
    (hvs : vs ≠ []) : leavesOpen (unwords us) = true ∨ ∃ w, us = [w] ∧ endsIn ':' w = true := by
  obtain ⟨v, ws, hfirst⟩ :=
    exists_words_keyword_cons hkey.isBlank (gap ++ '(' :: (inside ++ ')' :: tail))
  rw [← argumentText] at hfirst
  obtain ⟨init, v', hlast⟩ := exists_words_argumentText_concat key gap inside htail
  have hvslast : ∃ vs', vs = vs' ++ [v' ++ ')' :: tail] := by
    rcases List.eq_nil_or_concat vs with rfl | ⟨vs', u, rfl⟩
    · exact absurd rfl hvs
    · rw [hlast, List.concat_eq_append, ← List.append_assoc] at hsplit
      obtain ⟨-, hu⟩ := List.append_inj' hsplit rfl
      exact ⟨vs', by rw [List.concat_eq_append, hu]⟩
  obtain ⟨vs', rfl⟩ := hvslast
  have husfirst : ∃ v vs, us = (key ++ ':' :: v) :: vs := by
    cases us with
    | nil => exact absurd rfl hus
    | cons u us =>
      rw [hfirst, List.cons_append, List.cons.injEq] at hsplit
      exact ⟨v, us, by rw [hsplit.1]⟩
  have husne : ∀ u ∈ us, u ≠ [] := fun u hu =>
    (isWord_of_mem_words (hsplit ▸ List.mem_append_left _ hu)).1
  refine leavesOpen_or_keyword (x := vs'.flatten ++ v') (hkey.not_mem isIdentifierChar_close)
    (staysOpen_filter hinside.staysOpen) husne husfirst ?_
  have hflat := flatten_words (argumentText key gap inside tail)
  rw [filter_argumentText hkey hgap htail, hsplit] at hflat
  simp only [List.flatten_append, List.flatten_cons, List.flatten_nil, List.append_nil] at hflat
  have hclosed : us.flatten ++ (vs'.flatten ++ v') ++ ')' :: tail =
      key ++ ':' :: '(' :: inside.filter (!isBlank ·) ++ ')' :: tail := by
    simpa using hflat
  exact List.append_cancel_right hclosed

/-- A keyword and a type, with or without a name right behind it, hold together. -/
theorem advance_argumentText (hkey : IsKeyword key) (hgap : IsGap gap) (hinside : Balanced inside)
    (htail : ∀ c ∈ tail, isBlank c = false ∧ c ≠ ':') :
    idle.advance (words (argumentText key gap inside tail)) =
      settle (unwords (words (argumentText key gap inside tail))) := by
  have hblank : ∀ c ∈ tail, isBlank c = false := fun c hc => (htail c hc).1
  apply advance_idle words_argumentText_ne_nil
  · intro w hw
    obtain ⟨init, v, hlast⟩ := exists_words_argumentText_concat key gap inside hblank
    rw [hlast] at hw
    cases init with
    | nil =>
      obtain ⟨rfl, -⟩ := List.cons.inj hw
      have hne : (')' :: tail).getLast? ≠ some ':' := by
        intro h
        rcases List.mem_cons.mp (List.mem_of_mem_getLast? h) with h | h
        · exact absurd h (by decide)
        · exact (htail ':' h).2 rfl
      simpa [endsIn, List.getLast?_append] using hne
    | cons u init => simp at hw
  · exact fun us vs => leavesOpen_of_words_argumentText hkey hgap hinside hblank

theorem count_argumentText (hkey : IsKeyword key) (hgap : IsGap gap) (hinside : Balanced inside)
    (hopen : '(' ∉ tail) (hclose : ')' ∉ tail) :
    (argumentText key gap inside tail).count ')' =
      (argumentText key gap inside tail).count '(' := by
  have hko := List.count_eq_zero.mpr (hkey.not_mem isIdentifierChar_open)
  have hkc := List.count_eq_zero.mpr (hkey.not_mem isIdentifierChar_close)
  have hgo := List.count_eq_zero.mpr (hgap.not_mem (c := '(') rfl)
  have hgc := List.count_eq_zero.mpr (hgap.not_mem (c := ')') rfl)
  have hto := List.count_eq_zero.mpr hopen
  have htc := List.count_eq_zero.mpr hclose
  have hbal := hinside.count_eq
  simp [argumentText, List.count_append, hko, hkc, hgo, hgc, hto, htc, hbal]

theorem settle_argumentText (hkey : IsKeyword key) (hgap : IsGap gap) (hinside : Balanced inside)
    (hopen : '(' ∉ tail) (hclose : ')' ∉ tail) :
    settle (unwords (words (argumentText key gap inside tail))) =
      if endsIn ')' (unwords (words (argumentText key gap inside tail))) then
        ([], .typed (unwords (words (argumentText key gap inside tail))))
      else ([unwords (words (argumentText key gap inside tail))], idle) := by
  have hsettled : leavesOpen (unwords (words (argumentText key gap inside tail))) = false := by
    rw [leavesOpen_unwords_words, count_argumentText hkey hgap hinside hopen hclose]
    simp
  rw [settle, hsettled]
  rfl

/-- Behind its type, a segment waits for its name. -/
theorem advance_type (hkey : IsKeyword key) (hgap : IsGap gap) (hinside : Balanced inside) :
    idle.advance (words (argumentText key gap inside [])) =
      ([], .typed (unwords (words (argumentText key gap inside [])))) := by
  have hend : endsIn ')' (unwords (words (argumentText key gap inside []))) = true := by
    have hsplit : argumentText key gap inside [] =
        key ++ ':' :: (gap ++ '(' :: inside) ++ [')'] := by simp [argumentText]
    rw [endsIn, hsplit, getLast?_unwords_words_concat _ rfl]
    rfl
  rw [advance_argumentText hkey hgap hinside (by simp),
    settle_argumentText hkey hgap hinside (by simp) (by simp), if_pos hend]

/-- A name right behind the type completes the segment, if it has no parentheses. -/
theorem advance_type_name (hkey : IsKeyword key) (hgap : IsGap gap) (hinside : Balanced inside)
    (hname : IsWord name) (hcolon : ':' ∉ name) (hopen : '(' ∉ name) (hclose : ')' ∉ name) :
    idle.advance (words (argumentText key gap inside name)) =
      ([unwords (words (argumentText key gap inside name))], idle) := by
  have hend : endsIn ')' (unwords (words (argumentText key gap inside name))) = false := by
    rcases List.eq_nil_or_concat name with rfl | ⟨init, c, rfl⟩
    · exact absurd rfl hname.1
    · rw [List.concat_eq_append] at hname hclose ⊢
      have hsplit : argumentText key gap inside (init ++ [c]) =
          key ++ ':' :: (gap ++ '(' :: (inside ++ ')' :: init)) ++ [c] := by simp [argumentText]
      rw [endsIn, hsplit, getLast?_unwords_words_concat _ (hname.2 c (by simp))]
      have hne : c ≠ ')' := fun h => hclose (by simp [h])
      simpa using hne
  have htail : ∀ c ∈ name, isBlank c = false ∧ c ≠ ':' := fun c hc =>
    ⟨hname.2 c hc, fun h => hcolon (h ▸ hc)⟩
  rw [advance_argumentText hkey hgap hinside htail,
    settle_argumentText hkey hgap hinside hopen hclose, hend]
  rfl

theorem words_argumentText_gap {gap' : Text} (hgap' : IsGap gap') (hne : gap' ≠ [])
    (hname : IsWord name) :
    words (argumentText key gap inside (gap' ++ name)) =
      words (argumentText key gap inside []) ++ [name] := by
  have hsplit : argumentText key gap inside (gap' ++ name) =
      argumentText key gap inside [] ++ gap' ++ name := by simp [argumentText]
  rw [hsplit, words_append_gap_append hgap' hne, words_of_isWord hname]

/-- A name behind a gap completes the segment, whatever it is made of, colons apart. -/
theorem advance_type_gap_name {gap' : Text} (hkey : IsKeyword key) (hgap : IsGap gap)
    (hinside : Balanced inside) (hgap' : IsGap gap') (hne : gap' ≠ []) (hname : IsWord name)
    (hcolon : ':' ∉ name) :
    idle.advance (words (argumentText key gap inside (gap' ++ name))) =
      ([unwords (words (argumentText key gap inside (gap' ++ name)))], idle) := by
  have hcontains : name.contains ':' = false := by simpa using hcolon
  have hnext : ∀ s : Text, (typed s).next name = ([extend s name], idle) := by
    intro s
    simp only [SegmentStage.next, hcontains]
    rfl
  rw [words_argumentText_gap hgap' hne hname, advance_append, advance_type hkey hgap hinside,
    advance_singleton, hnext, unwords_concat words_argumentText_ne_nil]
  rfl

/-- A word with a colon behind the type leaves the segment without a name. -/
theorem advance_type_colon (hkey : IsKeyword key) (hgap : IsGap gap) (hinside : Balanced inside)
    (hcolon : ':' ∈ name) (rest : List Text) :
    ∃ out : List Text × SegmentStage,
      idle.advance (words (argumentText key gap inside []) ++ name :: rest) =
        (unwords (words (argumentText key gap inside [])) :: out.1, out.2) := by
  have hcontains : name.contains ':' = true := by simpa using hcolon
  have hnext : ∀ s : Text, (typed s).next name = (s :: (start name).1, (start name).2) := by
    intro s
    simp only [SegmentStage.next, hcontains]
    rfl
  refine ⟨((start name).1 ++ ((start name).2.advance rest).1, ((start name).2.advance rest).2), ?_⟩
  rw [advance_append, advance_type hkey hgap hinside, advance, hnext]
  rfl

end Argument

end SegmentStage
end LogosHooks

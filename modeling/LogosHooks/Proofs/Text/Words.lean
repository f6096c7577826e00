import LogosHooks.Text.Blank
import Mathlib.Data.List.Basic
import Mathlib.Data.List.TakeWhile

/-!
How a text falls into words and gaps. The first word of a text can be split off together with the
gap in front of it, and induction on the words of a text goes through this split.
-/
namespace LogosHooks.Text

/-- Blanks only, perhaps none at all. -/
def IsGap (t : Text) : Prop := ∀ c ∈ t, isBlank c = true

instance (t : Text) : Decidable (IsGap t) :=
  decidable_of_iff (t.all isBlank = true) List.all_eq_true

def IsWord (t : Text) : Prop := t ≠ [] ∧ ∀ c ∈ t, isBlank c = false

def Tight (t : Text) : Prop :=
  (∀ c ∈ t.head?, isBlank c = false) ∧ ∀ c ∈ t.getLast?, isBlank c = false

def BreaksFront (t : Text) : Prop := ∀ c ∈ t.head?, isBlank c = true

theorem isGap_nil : IsGap [] := by simp [IsGap]

theorem isGap_space : IsGap [' '] := by
  intro c hc
  rw [List.mem_singleton.mp hc]
  rfl

theorem IsGap.append {s t : Text} (hs : IsGap s) (ht : IsGap t) : IsGap (s ++ t) := by
  intro c hc
  rcases List.mem_append.mp hc with h | h
  · exact hs c h
  · exact ht c h

theorem IsGap.eq_nil {gap : Text} (hgap : IsGap gap)
    (hlast : ∀ c ∈ gap.getLast?, isBlank c = false) : gap = [] := by
  by_contra hne
  have hc := hlast _ (List.getLast?_eq_some_getLast hne)
  simp [hgap _ (List.getLast_mem hne)] at hc

theorem IsGap.breaksFront_append {gap t : Text} (hgap : IsGap gap) (hne : gap ≠ []) :
    BreaksFront (gap ++ t) := by
  cases gap with
  | nil => exact absurd rfl hne
  | cons c rest =>
    intro d hd
    simp only [List.cons_append, List.head?_cons, Option.mem_some_iff] at hd
    exact hd ▸ hgap c List.mem_cons_self

theorem IsGap.not_mem {gap : Text} (hgap : IsGap gap) {c : Char} (hc : isBlank c = false) :
    c ∉ gap := by
  intro hmem
  simp [hgap c hmem] at hc

theorem isWord_singleton {c : Char} (hc : isBlank c = false) : IsWord [c] :=
  ⟨by simp, fun d hd => List.mem_singleton.mp hd ▸ hc⟩

theorem IsWord.tight {w : Text} (hw : IsWord w) : Tight w :=
  ⟨fun c hc => hw.2 c (List.mem_of_mem_head? hc),
    fun c hc => hw.2 c (List.mem_of_mem_getLast? hc)⟩

theorem tight_nil : Tight [] := by simp [Tight]

theorem IsWord.head?_append {w : Text} (hw : IsWord w) (t : Text) :
    ∀ c ∈ (w ++ t).head?, isBlank c = false := by
  cases w with
  | nil => exact absurd rfl hw.1
  | cons d w => exact hw.tight.1

theorem IsWord.not_breaksFront_append {w : Text} (hw : IsWord w) (t : Text) :
    ¬ BreaksFront (w ++ t) := by
  intro h
  cases w with
  | nil => exact hw.1 rfl
  | cons d w =>
    have hd := h d (by simp)
    simp [hw.2 d List.mem_cons_self] at hd

/-! ### Trimming -/

theorem trimLeft_gap_append {gap : Text} (hgap : IsGap gap) (t : Text) :
    trimLeft (gap ++ t) = trimLeft t :=
  List.dropWhile_append_of_pos hgap

theorem trimRight_append_gap {gap : Text} (hgap : IsGap gap) (t : Text) :
    trimRight (t ++ gap) = trimRight t := by
  have hrev : ∀ c ∈ gap.reverse, isBlank c = true := fun c hc => hgap c (List.mem_reverse.mp hc)
  simp only [trimRight, List.reverse_append, List.dropWhile_append_of_pos hrev]

theorem trimLeft_eq_self {t : Text} (h : ∀ c ∈ t.head?, isBlank c = false) : trimLeft t = t := by
  cases t with
  | nil => rfl
  | cons c rest => exact List.dropWhile_cons_of_neg (by simp [h c (by simp)])

theorem trimRight_eq_self {t : Text} (h : ∀ c ∈ t.getLast?, isBlank c = false) :
    trimRight t = t := by
  have hrev : trimLeft t.reverse = t.reverse := trimLeft_eq_self (by simpa using h)
  have := congrArg List.reverse hrev
  simpa [trimRight, trimLeft] using this

theorem trimRight_concat {c : Char} (hc : isBlank c = false) (t : Text) :
    trimRight (t ++ [c]) = t ++ [c] := by
  apply trimRight_eq_self
  intro d hd
  rw [List.getLast?_concat, Option.mem_some_iff] at hd
  exact hd ▸ hc

theorem Tight.trim_eq {t : Text} (h : Tight t) : trim t = t := by
  rw [trim, trimLeft_eq_self h.1, trimRight_eq_self h.2]

theorem trim_of_isGap {gap : Text} (hgap : IsGap gap) : trim gap = [] := by
  have h := trimLeft_gap_append hgap []
  simp only [List.append_nil] at h
  rw [trim, h]
  rfl

/-- Trimming takes a gap off each end. -/
theorem trim_gap_append_gap {front back t : Text} (hfront : IsGap front) (hback : IsGap back)
    (ht : Tight t) : trim (front ++ t ++ back) = t := by
  cases t with
  | nil =>
    rw [List.append_nil]
    exact trim_of_isGap (hfront.append hback)
  | cons c rest =>
    have hhead : ∀ d ∈ (c :: rest ++ back).head?, isBlank d = false := ht.1
    rw [trim, List.append_assoc, trimLeft_gap_append hfront, trimLeft_eq_self hhead,
      trimRight_append_gap hback, trimRight_eq_self ht.2]

theorem isBlank_head?_trimLeft (t : Text) : ∀ c ∈ (trimLeft t).head?, isBlank c = false := by
  intro c hc
  have h := List.head?_dropWhile_not isBlank t
  rw [← trimLeft, Option.mem_def.mp hc] at h
  exact h

theorem isBlank_getLast?_trimRight (t : Text) :
    ∀ c ∈ (trimRight t).getLast?, isBlank c = false := by
  intro c hc
  apply isBlank_head?_trimLeft t.reverse
  simpa [trimRight, trimLeft] using hc

/-- What trimming takes off is a gap in front. -/
theorem exists_gap_append_trimLeft (t : Text) : ∃ gap, IsGap gap ∧ t = gap ++ trimLeft t :=
  ⟨t.takeWhile isBlank, fun _ hc => List.mem_takeWhile_imp hc,
    List.takeWhile_append_dropWhile.symm⟩

theorem exists_trimRight_append_gap (t : Text) : ∃ gap, IsGap gap ∧ t = trimRight t ++ gap := by
  obtain ⟨gap, hgap, ht⟩ := exists_gap_append_trimLeft t.reverse
  refine ⟨gap.reverse, fun c hc => hgap c (List.mem_reverse.mp hc), ?_⟩
  have h := congrArg List.reverse ht
  simpa [trimRight, trimLeft] using h

/-- A text is what trimming leaves, with a gap at each end. -/
theorem exists_gaps_trim (t : Text) :
    ∃ front back, IsGap front ∧ IsGap back ∧ t = front ++ trim t ++ back ∧ Tight (trim t) := by
  obtain ⟨front, hfront, hf⟩ := exists_gap_append_trimLeft t
  obtain ⟨back, hback, hb⟩ := exists_trimRight_append_gap (trimLeft t)
  refine ⟨front, back, hfront, hback, ?_, ?_, isBlank_getLast?_trimRight _⟩
  · rw [List.append_assoc, trim, ← hb, ← hf]
  · intro c hc
    apply isBlank_head?_trimLeft t
    rw [hb]
    cases htrim : trimRight (trimLeft t) with
    | nil => simp [trim, htrim] at hc
    | cons d rest => simpa [trim, htrim] using hc

theorem mem_of_mem_trim {t : Text} {c : Char} (hc : c ∈ trim t) : c ∈ t := by
  obtain ⟨front, back, -, -, ht, -⟩ := exists_gaps_trim t
  rw [ht]
  simp [hc]

theorem exists_trim_cons {c : Char} (hc : isBlank c = false) (t : Text) :
    ∃ rest, trim (c :: t) = c :: rest := by
  obtain ⟨gap, hgap, ht⟩ := exists_trimRight_append_gap (c :: t)
  rw [trim, trimLeft_eq_self (by simp [hc])]
  cases htrim : trimRight (c :: t) with
  | nil =>
    rw [htrim, List.nil_append] at ht
    have hblank := hgap c (ht ▸ List.mem_cons_self)
    simp [hc] at hblank
  | cons d rest =>
    rw [htrim, List.cons_append, List.cons.injEq] at ht
    exact ⟨rest, by rw [ht.1]⟩

/-! ### Words -/

theorem words_cons_blank {c : Char} (hc : isBlank c = true) (t : Text) :
    words (c :: t) = words t := by
  simpa [words_nil] using words_append_blank [] t hc

theorem words_gap_append {gap : Text} (hgap : IsGap gap) (t : Text) :
    words (gap ++ t) = words t := by
  induction gap with
  | nil => rfl
  | cons c rest ih =>
    rw [List.cons_append, words_cons_blank (hgap c List.mem_cons_self)]
    exact ih fun d hd => hgap d (List.mem_cons_of_mem c hd)

theorem words_of_isGap {gap : Text} (hgap : IsGap gap) : words gap = [] := by
  simpa [words_nil] using words_gap_append hgap []

/-- A word in front is the first word if nothing of what follows belongs to it. -/
theorem words_word_append {w t : Text} (hw : IsWord w) (ht : BreaksFront t) :
    words (w ++ t) = w :: words t := by
  cases t with
  | nil => rw [List.append_nil, words_of_forall_not_blank hw.1 hw.2, words_nil]
  | cons c rest =>
    have hc : isBlank c = true := ht c (by simp)
    rw [words_append_blank w rest hc, words_cons_blank hc, words_of_forall_not_blank hw.1 hw.2]
    rfl

/-- The words on both sides of a gap do not depend on each other. -/
theorem words_append {s t : Text} (ht : BreaksFront t) : words (s ++ t) = words s ++ words t := by
  cases t with
  | nil => simp [words_nil]
  | cons c rest =>
    have hc : isBlank c = true := ht c (by simp)
    rw [words_append_blank s rest hc, words_cons_blank hc]

theorem words_append_gap_append {s gap : Text} (hgap : IsGap gap) (hne : gap ≠ []) (t : Text) :
    words (s ++ gap ++ t) = words s ++ words t := by
  rw [List.append_assoc, words_append (hgap.breaksFront_append hne), words_gap_append hgap]

theorem words_append_gap {s gap : Text} (hgap : IsGap gap) : words (s ++ gap) = words s := by
  cases gap with
  | nil => rw [List.append_nil]
  | cons c rest =>
    have hbreak := hgap.breaksFront_append (t := []) (by simp)
    rw [List.append_nil] at hbreak
    rw [words_append hbreak, words_of_isGap hgap, List.append_nil]

/-- A text that does not begin with a blank begins with a word. -/
theorem exists_word_append {t : Text} (hne : t ≠ []) (hhead : ∀ c ∈ t.head?, isBlank c = false) :
    ∃ w rest, IsWord w ∧ BreaksFront rest ∧ t = w ++ rest := by
  refine ⟨t.takeWhile (!isBlank ·), t.dropWhile (!isBlank ·), ⟨?_, ?_⟩, ?_,
    List.takeWhile_append_dropWhile.symm⟩
  · cases t with
    | nil => exact absurd rfl hne
    | cons c rest => simp [hhead c (by simp)]
  · intro c hc
    simpa using List.mem_takeWhile_imp hc
  · intro c hc
    have hnot := List.head?_dropWhile_not (!isBlank ·) t
    rw [Option.mem_def.mp hc] at hnot
    simpa using hnot

/-- Either a text has no word, or its first word can be split off together with the gap in front. -/
theorem isGap_or_exists_word (t : Text) :
    IsGap t ∨ ∃ gap w rest, IsGap gap ∧ IsWord w ∧ BreaksFront rest ∧ t = gap ++ w ++ rest := by
  obtain ⟨gap, hgap, ht⟩ := exists_gap_append_trimLeft t
  by_cases hne : trimLeft t = []
  · rw [hne, List.append_nil] at ht
    exact Or.inl (ht ▸ hgap)
  · obtain ⟨w, rest, hw, hrest, heq⟩ := exists_word_append hne (isBlank_head?_trimLeft t)
    rw [heq, ← List.append_assoc] at ht
    exact Or.inr ⟨gap, w, rest, hgap, hw, hrest, ht⟩

theorem words_gap_append_word_append {gap w rest : Text} (hgap : IsGap gap) (hw : IsWord w)
    (hrest : BreaksFront rest) : words (gap ++ w ++ rest) = w :: words rest := by
  rw [List.append_assoc, words_gap_append hgap, words_word_append hw hrest]

theorem words_eq_nil_iff {t : Text} : words t = [] ↔ IsGap t := by
  constructor
  · intro h
    rcases isGap_or_exists_word t with hgap | ⟨gap, w, rest, hgap, hw, hrest, rfl⟩
    · exact hgap
    · rw [words_gap_append_word_append hgap hw hrest] at h
      simp at h
  · exact words_of_isGap

/-- The first word of a text, with what stands around it. -/
theorem exists_split_of_words_eq_cons {t w : Text} {ws : List Text} (h : words t = w :: ws) :
    ∃ gap rest, IsGap gap ∧ IsWord w ∧ BreaksFront rest ∧ t = gap ++ w ++ rest ∧
      words rest = ws := by
  rcases isGap_or_exists_word t with hgap | ⟨gap, v, rest, hgap, hv, hrest, rfl⟩
  · rw [words_of_isGap hgap] at h
    simp at h
  · rw [words_gap_append_word_append hgap hv hrest, List.cons.injEq] at h
    obtain ⟨rfl, rfl⟩ := h
    exact ⟨gap, rest, hgap, hv, hrest, rfl, rfl⟩

/-- Induction over the words of a text, with the gaps between them. -/
theorem words_induction {motive : Text → Prop} (gap : ∀ t, IsGap t → motive t)
    (word : ∀ front w rest, IsGap front → IsWord w → BreaksFront rest → motive rest →
      motive (front ++ w ++ rest)) (t : Text) : motive t := by
  have aux : ∀ ws : List Text, ∀ t, words t = ws → motive t := by
    intro ws
    induction ws with
    | nil => exact fun t h => gap t (words_eq_nil_iff.mp h)
    | cons v vs ih =>
      intro t h
      obtain ⟨front, rest, hfront, hv, hrest, rfl, hvs⟩ := exists_split_of_words_eq_cons h
      exact word front v rest hfront hv hrest (ih rest hvs)
  exact aux (words t) t rfl

theorem isWord_of_mem_words {t w : Text} (h : w ∈ words t) : IsWord w := by
  induction t using words_induction with
  | gap t ht => simp [words_of_isGap ht] at h
  | word front v rest hfront hv hrest ih =>
    rw [words_gap_append_word_append hfront hv hrest] at h
    rcases List.mem_cons.mp h with rfl | h
    · exact hv
    · exact ih h

theorem words_of_isWord {w : Text} (hw : IsWord w) : words w = [w] :=
  words_of_forall_not_blank hw.1 hw.2

theorem IsWord.append {v w : Text} (hv : IsWord v) (hw : IsWord w) : IsWord (v ++ w) := by
  refine ⟨by simp [hv.1], fun c hc => ?_⟩
  rcases List.mem_append.mp hc with h | h
  · exact hv.2 c h
  · exact hw.2 c h

/-- A word in front belongs to the first word. -/
theorem exists_words_word_append {w : Text} (hw : IsWord w) (t : Text) :
    ∃ v ws, words (w ++ t) = (w ++ v) :: ws := by
  by_cases hbreak : BreaksFront t
  · exact ⟨[], words t, by rw [words_word_append hw hbreak, List.append_nil]⟩
  · have hhead : ∀ c ∈ t.head?, isBlank c = false := by
      cases t with
      | nil => simp
      | cons d t => simpa [BreaksFront] using hbreak
    have hne : t ≠ [] := by
      rintro rfl
      exact hbreak (by simp [BreaksFront])
    obtain ⟨v, rest, hv, hrest, rfl⟩ := exists_word_append hne hhead
    exact ⟨v, words rest, by rw [← List.append_assoc, words_word_append (hw.append hv) hrest]⟩

/-- A word at the end belongs to the last word. -/
theorem exists_words_append_word (s : Text) {w : Text} (hw : IsWord w) :
    ∃ ws v, words (s ++ w) = ws ++ [v ++ w] := by
  induction s using words_induction with
  | gap s hs => exact ⟨[], [], by rw [words_gap_append hs, words_of_isWord hw]; rfl⟩
  | word front v rest hfront hv hrest ih =>
    by_cases hne : rest = []
    · subst hne
      refine ⟨[], v, ?_⟩
      rw [List.append_nil, List.append_assoc, words_gap_append hfront,
        words_of_isWord (hv.append hw), List.nil_append]
    · have hbreak : BreaksFront (rest ++ w) := by
        cases rest with
        | nil => exact absurd rfl hne
        | cons c rest => exact hrest
      obtain ⟨ws, u, hws⟩ := ih
      refine ⟨v :: ws, u, ?_⟩
      rw [List.append_assoc, words_gap_append_word_append hfront hv hbreak, hws, List.cons_append]

/-- A word stands in the text in one piece. -/
theorem infix_of_mem_words {t w : Text} (h : w ∈ words t) : w <:+: t := by
  induction t using words_induction with
  | gap t ht => simp [words_of_isGap ht] at h
  | word front v rest hfront hv hrest ih =>
    rw [words_gap_append_word_append hfront hv hrest] at h
    rcases List.mem_cons.mp h with rfl | h
    · exact ⟨front, rest, rfl⟩
    · exact (ih h).trans (List.suffix_append _ rest).isInfix

/-- The last word ends the text, if no blank does. -/
theorem suffix_of_words_eq_concat {t w : Text} {ws : List Text} (h : words t = ws ++ [w])
    (hlast : ∀ c ∈ t.getLast?, isBlank c = false) : w <:+ t := by
  induction t using words_induction generalizing ws with
  | gap t ht =>
    rw [words_of_isGap ht] at h
    simp at h
  | word front v rest hfront hv hrest ih =>
    have hrestlast : ∀ c ∈ rest.getLast?, isBlank c = false := fun c hc =>
      hlast c (List.mem_getLast?_append_of_mem_getLast? hc)
    rw [words_gap_append_word_append hfront hv hrest] at h
    cases ws with
    | nil =>
      obtain ⟨rfl, hgap⟩ := List.cons.inj h
      rw [(words_eq_nil_iff.mp hgap).eq_nil hrestlast, List.append_nil]
      exact List.suffix_append front v
    | cons u ws =>
      exact (ih (List.cons.inj h).2 hrestlast).trans (List.suffix_append (front ++ v) rest)

theorem IsGap.filter_eq_nil {gap : Text} (hgap : IsGap gap) : gap.filter (!isBlank ·) = [] :=
  List.filter_eq_nil_iff.mpr fun c hc => by simp [hgap c hc]

theorem filter_of_forall_not_blank {t : Text} (ht : ∀ c ∈ t, isBlank c = false) :
    t.filter (!isBlank ·) = t :=
  List.filter_eq_self.mpr fun c hc => by simp [ht c hc]

/-- The words are the text without its blanks. -/
theorem flatten_words (t : Text) : (words t).flatten = t.filter (!isBlank ·) := by
  induction t using words_induction with
  | gap t ht => rw [words_of_isGap ht, ht.filter_eq_nil, List.flatten_nil]
  | word front w rest hfront hw hrest ih =>
    rw [words_gap_append_word_append hfront hw hrest, List.flatten_cons, ih]
    simp only [List.filter_append, hfront.filter_eq_nil, filter_of_forall_not_blank hw.2,
      List.nil_append]

/-- Only blanks are lost when a text is cut into words. -/
theorem count_flatten_words {c : Char} (hc : isBlank c = false) (t : Text) :
    (words t).flatten.count c = t.count c := by
  rw [flatten_words, List.count_filter (by simp [hc])]

theorem hasBlank_eq_false_iff {t : Text} : hasBlank t = false ↔ ∀ c ∈ t, isBlank c = false := by
  simp [hasBlank]

theorem trim_of_words_eq_singleton {t w : Text} (h : words t = [w]) : trim t = w := by
  obtain ⟨front, rest, hfront, hw, -, rfl, hrest⟩ := exists_split_of_words_eq_cons h
  exact trim_gap_append_gap hfront (words_eq_nil_iff.mp hrest) hw.tight

theorem words_trim (t : Text) : words (trim t) = words t := by
  obtain ⟨front, back, hfront, hback, ht, -⟩ := exists_gaps_trim t
  have h := congrArg words ht
  rw [words_append_gap hback, words_gap_append hfront] at h
  exact h.symm

theorem count_trim {c : Char} (hc : isBlank c = false) (t : Text) :
    (trim t).count c = t.count c := by
  rw [← count_flatten_words hc, words_trim, count_flatten_words hc]

end LogosHooks.Text

import LogosHooks.Proofs.Text.Lines
import LogosHooks.Proofs.Text.Words

/-!
Texts with the same words. `unwords` puts single spaces between words, and `squeeze` puts one in the
place of each gap. The two agree on a text without blanks at its ends, and `squeeze` can be done
piece by piece, so that what is read from the words of a text can be found in its pieces.
-/
namespace LogosHooks.Text

theorem unwords_singleton (w : Text) : unwords [w] = w := List.intercalate_singleton

theorem unwords_cons {w : Text} {ws : List Text} (hws : ws ≠ []) :
    unwords (w :: ws) = w ++ ' ' :: unwords ws := by
  rw [unwords, List.intercalate_cons_of_ne_nil hws]
  simp [unwords]

theorem unwords_concat {ws : List Text} (hws : ws ≠ []) (w : Text) :
    unwords (ws ++ [w]) = unwords ws ++ ' ' :: w := by
  induction ws with
  | nil => exact absurd rfl hws
  | cons v vs ih =>
    by_cases hvs : vs = []
    · subst hvs
      rw [List.cons_append, List.nil_append, unwords_cons (by simp), unwords_singleton,
        unwords_singleton]
    · rw [List.cons_append, unwords_cons (by simp), ih hvs, unwords_cons hvs]
      simp

theorem breaksFront_cons {c : Char} (hc : isBlank c = true) (t : Text) : BreaksFront (c :: t) := by
  intro d hd
  rw [List.head?_cons, Option.mem_some_iff] at hd
  exact hd ▸ hc

theorem words_unwords {ws : List Text} (hws : ∀ w ∈ ws, IsWord w) : words (unwords ws) = ws := by
  induction ws with
  | nil => exact words_nil
  | cons w ws ih =>
    have hw : IsWord w := hws w List.mem_cons_self
    have htail : ∀ v ∈ ws, IsWord v := fun v hv => hws v (List.mem_cons_of_mem w hv)
    by_cases hne : ws = []
    · subst hne
      rw [unwords_singleton, words_of_isWord hw]
    · rw [unwords_cons hne, words_word_append hw (breaksFront_cons rfl _), words_cons_blank rfl,
        ih htail]

theorem count_unwords {c : Char} (hc : c ≠ ' ') (ws : List Text) :
    (unwords ws).count c = ws.flatten.count c := count_intercalate_of_ne hc ws

theorem getLast?_unwords_concat (ws : List Text) {w : Text} (hw : w ≠ []) :
    (unwords (ws ++ [w])).getLast? = w.getLast? := by
  cases ws with
  | nil => rw [List.nil_append, unwords_singleton]
  | cons v vs =>
    obtain ⟨c, hc⟩ := Option.isSome_iff_exists.mp (List.getLast?_isSome.mpr hw)
    rw [unwords_concat (by simp)]
    simp [List.getLast?_cons, hc]

theorem getLast?_unwords_words_concat (s : Text) {c : Char} (hc : isBlank c = false) :
    (unwords (words (s ++ [c]))).getLast? = some c := by
  obtain ⟨ws, v, hws⟩ := exists_words_append_word s (isWord_singleton hc)
  rw [hws, getLast?_unwords_concat ws (by simp), List.getLast?_concat]

/-! ### Single spaces in the place of gaps -/

/-- Every gap becomes a single space, also at the ends. -/
def squeeze : Text → Text
  | [] => []
  | c :: rest =>
    if isBlank c then
      if (squeeze rest).head? = some ' ' then squeeze rest else ' ' :: squeeze rest
    else c :: squeeze rest

theorem squeeze_cons_of_not_blank {c : Char} (hc : isBlank c = false) (t : Text) :
    squeeze (c :: t) = c :: squeeze t := by
  simp [squeeze, hc]

theorem squeeze_append_cons (s t : Text) {c : Char} (hc : isBlank c = false) :
    squeeze (s ++ c :: t) = squeeze s ++ c :: squeeze t := by
  have hspace : c ≠ ' ' := by
    rintro rfl
    exact absurd hc (by decide)
  induction s with
  | nil => exact squeeze_cons_of_not_blank hc t
  | cons d s ih =>
    have hhead : (squeeze s ++ c :: squeeze t).head? = some ' ' ↔
        (squeeze s).head? = some ' ' := by
      cases squeeze s with
      | nil => simp [hspace]
      | cons e r => simp
    simp only [List.cons_append, squeeze, ih, hhead]
    split
    · split <;> rfl
    · rfl

theorem squeeze_append_of_forall_not_blank {w : Text} (hw : ∀ c ∈ w, isBlank c = false)
    (t : Text) : squeeze (w ++ t) = w ++ squeeze t := by
  induction w with
  | nil => rfl
  | cons c w ih =>
    rw [List.cons_append, squeeze_cons_of_not_blank (hw c List.mem_cons_self),
      ih fun d hd => hw d (List.mem_cons_of_mem c hd), List.cons_append]

theorem squeeze_of_forall_not_blank {w : Text} (hw : ∀ c ∈ w, isBlank c = false) :
    squeeze w = w := by
  simpa [squeeze] using squeeze_append_of_forall_not_blank hw []

theorem head?_squeeze_of_not_blank {t : Text} (ht : ∀ c ∈ t.head?, isBlank c = false) :
    (squeeze t).head? = t.head? := by
  cases t with
  | nil => rfl
  | cons c rest => rw [squeeze_cons_of_not_blank (ht c (by simp))]; rfl

theorem squeeze_gap_append {gap t : Text} (hgap : IsGap gap) (hne : gap ≠ [])
    (ht : ∀ c ∈ t.head?, isBlank c = false) : squeeze (gap ++ t) = ' ' :: squeeze t := by
  have hhead : (squeeze t).head? ≠ some ' ' := by
    rw [head?_squeeze_of_not_blank ht]
    intro hspace
    exact absurd (ht ' ' hspace) (by decide)
  induction gap with
  | nil => exact absurd rfl hne
  | cons c gap ih =>
    have hc : isBlank c = true := hgap c List.mem_cons_self
    by_cases hrest : gap = []
    · subst hrest
      simp [squeeze, hc, hhead]
    · have h := ih (fun d hd => hgap d (List.mem_cons_of_mem c hd)) hrest
      simp [squeeze, hc, h]

theorem squeeze_gap {gap : Text} (hgap : IsGap gap) :
    squeeze gap = if gap = [] then [] else [' '] := by
  by_cases hne : gap = []
  · subst hne
    rfl
  · have h := squeeze_gap_append (t := []) hgap hne (by simp)
    simpa [squeeze, hne] using h

theorem isGap_squeeze {gap : Text} (hgap : IsGap gap) : IsGap (squeeze gap) := by
  rw [squeeze_gap hgap]
  split
  · exact isGap_nil
  · exact isGap_space

theorem breaksFront_squeeze {t : Text} (ht : BreaksFront t) : BreaksFront (squeeze t) := by
  cases t with
  | nil => exact ht
  | cons c rest =>
    have hc : isBlank c = true := ht c (by simp)
    intro d hd
    simp only [squeeze, hc, if_true] at hd
    split at hd
    · next h =>
      rw [h, Option.mem_some_iff] at hd
      exact hd ▸ rfl
    · rw [List.head?_cons, Option.mem_some_iff] at hd
      exact hd ▸ rfl

/-- Squeezing keeps the words. -/
theorem words_squeeze (t : Text) : words (squeeze t) = words t := by
  induction t using words_induction with
  | gap t ht => rw [words_of_isGap ht, words_of_isGap (isGap_squeeze ht)]
  | word front w rest hfront hw hrest ih =>
    have hsplit : squeeze (front ++ (w ++ rest)) = squeeze front ++ (w ++ squeeze rest) := by
      rw [← squeeze_append_of_forall_not_blank hw.2]
      by_cases hne : front = []
      · subst hne
        rfl
      · rw [squeeze_gap_append hfront hne (hw.head?_append rest), squeeze_gap hfront, if_neg hne]
        rfl
    rw [words_gap_append_word_append hfront hw hrest, List.append_assoc, hsplit,
      words_gap_append (isGap_squeeze hfront), words_word_append hw (breaksFront_squeeze hrest), ih]

/-- Behind a word, the gaps of a text become the spaces between its words. -/
theorem append_squeeze {t : Text} (hfront : BreaksFront t)
    (hlast : ∀ c ∈ t.getLast?, isBlank c = false) (w : Text) :
    w ++ squeeze t = unwords (w :: words t) := by
  induction t using words_induction generalizing w with
  | gap t hgap =>
    rw [hgap.eq_nil hlast, words_nil, unwords_singleton, squeeze, List.append_nil]
  | word front v rest hgap hv hrest ih =>
    have hgapne : front ≠ [] := by
      rintro rfl
      exact hv.not_breaksFront_append rest hfront
    rw [words_gap_append_word_append hgap hv hrest, unwords_cons (by simp), List.append_assoc,
      squeeze_gap_append hgap hgapne (hv.head?_append rest),
      squeeze_append_of_forall_not_blank hv.2,
      ih hrest fun c hc => hlast c (List.mem_getLast?_append_of_mem_getLast? hc)]

/-- Without blanks at the ends, squeezing is the same as putting the words together again. -/
theorem unwords_words {t : Text} (ht : Tight t) : unwords (words t) = squeeze t := by
  by_cases hne : t = []
  · subst hne
    rfl
  · obtain ⟨w, rest, hw, hrest, rfl⟩ := exists_word_append hne ht.1
    rw [words_word_append hw hrest, squeeze_append_of_forall_not_blank hw.2,
      append_squeeze hrest fun c hc => ht.2 c (List.mem_getLast?_append_of_mem_getLast? hc)]

end LogosHooks.Text

import LogosHooks.DeclaredType.Basic
import LogosHooks.Proofs.Text.Balance
import Mathlib.Data.List.DropRight
import Mathlib.Data.List.Induction

/-!
The normal form of types. A spelling is a text with a tail of stars and blanks; reading it keeps the
words of the text and counts the stars of the tail. What is read is in normal form, and a type in
normal form is read back from its display.
-/
namespace LogosHooks.DeclaredType

open Text

/-- The name is words joined by single spaces, and does not end with a star. -/
def IsNormal (ty : DeclaredType) : Prop :=
  unwords (words ty.name) = ty.name ∧ ty.name.getLast? ≠ some '*'

instance (ty : DeclaredType) : Decidable ty.IsNormal := inferInstanceAs (Decidable (_ ∧ _))

def IsStarTail (t : Text) : Prop := ∀ c ∈ t, c = '*' ∨ isBlank c = true

def addStars (stars : Fin 256) (count : Nat) : Fin 256 :=
  ⟨min (stars.val + count) 255, by omega⟩

theorem addStars_zero (stars : Fin 256) : addStars stars 0 = stars := by
  have h := stars.isLt
  apply Fin.ext
  simp only [addStars]
  omega

theorem addStars_zero_val (stars : Fin 256) : addStars 0 stars.val = stars := by
  have hlt := stars.isLt
  apply Fin.ext
  simp only [addStars, Fin.val_zero]
  omega

theorem addStars_succ (stars : Fin 256) (count : Nat) :
    addStars (addStar stars) count = addStars stars (count + 1) := by
  apply Fin.ext
  simp only [addStars, val_addStar]
  omega

theorem ofReversed_starTail_append {tail : Text} (htail : IsStarTail tail) (stars : Fin 256)
    (rest : Text) :
    ofReversed stars (tail ++ rest) = ofReversed (addStars stars (tail.count '*')) rest := by
  induction tail generalizing stars with
  | nil => rw [List.count_nil, addStars_zero, List.nil_append]
  | cons c tail ih =>
    have hrest : IsStarTail tail := fun d hd => htail d (List.mem_cons_of_mem c hd)
    rw [List.cons_append]
    by_cases hc : c = '*'
    · subst hc
      rw [ofReversed, if_pos rfl, ih hrest, addStars_succ, List.count_cons_self]
    · have hblank : isBlank c = true := (htail c List.mem_cons_self).resolve_left hc
      rw [ofReversed, if_neg hc, if_pos hblank, ih hrest, List.count_cons_of_ne hc]

theorem ofReversed_reverse {body : Text} (hbody : (unwords (words body)).getLast? ≠ some '*')
    (stars : Fin 256) : ofReversed stars body.reverse = ⟨unwords (words body), stars⟩ := by
  induction body using List.reverseRecOn with
  | nil => rfl
  | append_singleton body c ih =>
    rw [List.reverse_concat, ofReversed]
    by_cases hblank : isBlank c = true
    · have hgap : IsGap [c] := fun d hd => List.mem_singleton.mp hd ▸ hblank
      have hc : c ≠ '*' := by
        rintro rfl
        exact absurd hblank (by decide)
      rw [words_append_gap hgap] at hbody ⊢
      rw [if_neg hc, if_pos hblank, ih hbody]
    · have hc : c ≠ '*' := by
        rintro rfl
        exact hbody (getLast?_unwords_words_concat body (by decide))
      rw [if_neg hc, if_neg hblank, ← List.reverse_concat, List.reverse_reverse]

/-- What a spelling is read as, its tail of stars given. -/
theorem ofText_append {body tail : Text} (htail : IsStarTail tail)
    (hbody : (unwords (words body)).getLast? ≠ some '*') :
    ofText (body ++ tail) = ⟨unwords (words body), addStars 0 (tail.count '*')⟩ := by
  have hrev : IsStarTail tail.reverse := fun c hc => htail c (List.mem_reverse.mp hc)
  rw [ofText, List.reverse_append, ofReversed_starTail_append hrev, List.count_reverse,
    ofReversed_reverse hbody]

theorem getLast?_unwords_words_ne_star {body : Text}
    (hbody : ∀ c ∈ body.getLast?, c ≠ '*' ∧ isBlank c = false) :
    (unwords (words body)).getLast? ≠ some '*' := by
  rcases List.eq_nil_or_concat body with rfl | ⟨init, c, rfl⟩
  · simp [words_nil, unwords]
  · rw [List.concat_eq_append] at hbody ⊢
    have hc := hbody c (List.getLast?_concat ..)
    rw [getLast?_unwords_words_concat init hc.2]
    exact fun h => hc.1 (Option.some.inj h)

/-! ### The longest tail -/

def isStarOrBlank (c : Char) : Bool := c == '*' || isBlank c

def starTail (t : Text) : Text := t.rtakeWhile isStarOrBlank

def nameText (t : Text) : Text := t.rdropWhile isStarOrBlank

def trailingStars (t : Text) : Nat := (starTail t).count '*'

theorem nameText_append_starTail (t : Text) : nameText t ++ starTail t = t :=
  List.rdropWhile_append_rtakeWhile

theorem isStarTail_iff {t : Text} : IsStarTail t ↔ ∀ c ∈ t, isStarOrBlank c = true := by
  simp [IsStarTail, isStarOrBlank]

theorem isStarTail_starTail (t : Text) : IsStarTail (starTail t) :=
  isStarTail_iff.mpr fun _ hc => List.mem_rtakeWhile_imp hc

theorem getLast?_nameText (t : Text) :
    ∀ c ∈ (nameText t).getLast?, c ≠ '*' ∧ isBlank c = false := by
  intro c hc
  obtain ⟨hne, rfl⟩ := List.mem_getLast?_eq_getLast hc
  have hlast : ¬ isStarOrBlank ((nameText t).getLast hne) = true :=
    List.rdropWhile_last_not isStarOrBlank t hne
  simpa [isStarOrBlank] using hlast

/-- A spelling is read as the words in front of its longest tail and the stars in it. -/
theorem ofText_eq (t : Text) :
    ofText t = ⟨unwords (words (nameText t)), addStars 0 (trailingStars t)⟩ := by
  have h := ofText_append (isStarTail_starTail t)
    (getLast?_unwords_words_ne_star (getLast?_nameText t))
  rwa [nameText_append_starTail] at h

/-- Every spelling is its words and its tail of stars. -/
theorem exists_body_of_ofText (t : Text) :
    ∃ body tail, t = body ++ tail ∧ IsStarTail tail ∧
      (∀ c ∈ body.getLast?, c ≠ '*' ∧ isBlank c = false) ∧
      ofText t = ⟨unwords (words body), addStars 0 (tail.count '*')⟩ :=
  ⟨nameText t, starTail t, (nameText_append_starTail t).symm, isStarTail_starTail t,
    getLast?_nameText t, ofText_eq t⟩

theorem words_unwords_words (t : Text) : words (unwords (words t)) = words t :=
  words_unwords fun _ => isWord_of_mem_words

theorem isNormal_ofText (t : Text) : (ofText t).IsNormal := by
  rw [ofText_eq]
  exact ⟨by rw [words_unwords_words], getLast?_unwords_words_ne_star (getLast?_nameText t)⟩

theorem isStarTail_replicate (n : Nat) : IsStarTail (List.replicate n '*') := fun _ hc =>
  Or.inl (List.eq_of_mem_replicate hc)

/-- The display is the name, with a tail that has all the stars. -/
theorem exists_display_eq (ty : DeclaredType) :
    ∃ tail, ty.display = ty.name ++ tail ∧ IsStarTail tail ∧ tail.count '*' = ty.stars.val := by
  by_cases hp : ty.isPointer = true
  · refine ⟨' ' :: List.replicate ty.stars.val '*', by simp [display, hp], ?_, ?_⟩
    · intro c hc
      rcases List.mem_cons.mp hc with rfl | hc
      · exact Or.inr rfl
      · exact isStarTail_replicate _ c hc
    · rw [List.count_cons_of_ne (by decide), List.count_replicate_self]
  · refine ⟨[], by simp [display, hp], by simp [IsStarTail], ?_⟩
    simp only [isPointer, decide_eq_true_eq] at hp
    rw [List.count_nil]
    omega

/-- A type in normal form is read back from its display. -/
theorem ofText_display {ty : DeclaredType} (h : ty.IsNormal) : ofText ty.display = ty := by
  obtain ⟨tail, hdisplay, htail, hcount⟩ := exists_display_eq ty
  have hbody : (unwords (words ty.name)).getLast? ≠ some '*' := by
    rw [h.1]
    exact h.2
  rw [hdisplay, ofText_append htail hbody, hcount, h.1, addStars_zero_val]

/-! ### Balance -/

theorem IsStarTail.not_mem {tail : Text} (htail : IsStarTail tail) {c : Char} (hstar : c ≠ '*')
    (hc : isBlank c = false) : c ∉ tail := by
  intro hmem
  rcases htail c hmem with h | h
  · exact hstar h
  · simp [hc] at h

theorem balanced_append_starTail_iff {body tail : Text} (htail : IsStarTail tail) :
    Balanced (body ++ tail) ↔ Balanced body :=
  balanced_append_iff (htail.not_mem (by decide) (by decide))
    (htail.not_mem (by decide) (by decide))

theorem balanced_display_iff (ty : DeclaredType) : Balanced ty.display ↔ Balanced ty.name := by
  obtain ⟨tail, hdisplay, htail, -⟩ := exists_display_eq ty
  rw [hdisplay, balanced_append_starTail_iff htail]

/-- A spelling is balanced if the type is. -/
theorem balanced_name_ofText_iff (t : Text) : Balanced (ofText t).name ↔ Balanced t := by
  obtain ⟨body, tail, rfl, htail, -, heq⟩ := exists_body_of_ofText t
  rw [heq, balanced_append_starTail_iff htail]
  exact balanced_congr (words_unwords_words body)

/-! ### Gaps in spellings -/

/-- The blanks at the ends of a spelling do not matter. -/
theorem ofText_gap_append_gap {front back : Text} (hfront : IsGap front) (hback : IsGap back)
    (t : Text) : ofText (front ++ t ++ back) = ofText t := by
  obtain ⟨body, tail, rfl, htail, hbody, heq⟩ := exists_body_of_ofText t
  have hlonger : IsStarTail (tail ++ back) := by
    intro c hc
    rcases List.mem_append.mp hc with h | h
    · exact htail c h
    · exact Or.inr (hback c h)
  have hcount : (tail ++ back).count '*' = tail.count '*' := by
    rw [List.count_append, List.count_eq_zero.mpr (hback.not_mem rfl), Nat.add_zero]
  have hsplit : front ++ (body ++ tail) ++ back = front ++ body ++ (tail ++ back) := by
    simp only [List.append_assoc]
  have hname : (unwords (words (front ++ body))).getLast? ≠ some '*' := by
    rw [words_gap_append hfront]
    exact getLast?_unwords_words_ne_star hbody
  rw [hsplit, ofText_append hlonger hname, words_gap_append hfront, hcount, heq]

theorem ofText_trim (t : Text) : ofText (trim t) = ofText t := by
  obtain ⟨front, back, hfront, hback, ht, -⟩ := exists_gaps_trim t
  have h := ofText_gap_append_gap hfront hback (trim t)
  rw [← ht] at h
  exact h.symm

/-- A spelling has something in it exactly if the type has a name or a star. -/
theorem trim_ne_nil_iff (t : Text) :
    trim t ≠ [] ↔ (ofText t).name ≠ [] ∨ (ofText t).isPointer = true := by
  constructor
  · intro hne
    by_contra hempty
    rw [not_or, not_not] at hempty
    obtain ⟨body, tail, rfl, htail, -, heq⟩ := exists_body_of_ofText t
    rw [heq] at hempty
    have hname : unwords (words body) = [] := hempty.1
    have hstars : ¬ 0 < min (0 + tail.count '*') 255 := fun h => hempty.2 (decide_eq_true h)
    have hbody : IsGap body := by
      rw [← words_eq_nil_iff, ← words_unwords_words, hname, words_nil]
    have hcount : tail.count '*' = 0 := by omega
    have hgap : IsGap (body ++ tail) := by
      refine hbody.append fun c hc => (htail c hc).resolve_left ?_
      rintro rfl
      exact List.count_eq_zero.mp hcount hc
    exact hne (trim_of_isGap hgap)
  · intro hshown hnil
    rw [← ofText_trim, hnil] at hshown
    rcases hshown with hname | hstars
    · exact hname rfl
    · exact absurd hstars (by decide)

theorem isStarTail_squeeze {tail : Text} (htail : IsStarTail tail) :
    IsStarTail (squeeze tail) ∧ (squeeze tail).count '*' = tail.count '*' := by
  have hcount := count_flatten_words (c := '*') rfl
  refine ⟨fun c hc => ?_, by rw [← hcount, words_squeeze, hcount]⟩
  by_cases hblank : isBlank c = true
  · exact Or.inr hblank
  · have hmem : c ∈ tail := by
      have hcount := count_flatten_words (c := c) (by simpa using hblank)
      rw [← List.count_pos_iff, ← hcount, ← words_squeeze, hcount, List.count_pos_iff]
      exact hc
    exact htail c hmem

/-- The width of the gaps in a spelling does not matter. -/
theorem ofText_squeeze (t : Text) : ofText (squeeze t) = ofText t := by
  obtain ⟨body, tail, rfl, htail, hbody, heq⟩ := exists_body_of_ofText t
  obtain ⟨hstail, hcount⟩ := isStarTail_squeeze htail
  rw [heq]
  rcases List.eq_nil_or_concat body with rfl | ⟨init, c, rfl⟩
  · have h := @ofText_append [] _ hstail (by simp [words_nil, unwords])
    rw [List.nil_append] at h ⊢
    rw [h, hcount]
  · rw [List.concat_eq_append] at hbody ⊢
    have hc := hbody c (List.getLast?_concat ..)
    have hsplit : squeeze (init ++ [c] ++ tail) = squeeze (init ++ [c]) ++ squeeze tail := by
      rw [List.append_assoc, List.singleton_append, squeeze_append_cons _ _ hc.2,
        squeeze_append_cons _ _ hc.2]
      simp [squeeze]
    have hname := getLast?_unwords_words_ne_star hbody
    rw [hsplit, ofText_append hstail (by rw [words_squeeze]; exact hname), words_squeeze, hcount]

end LogosHooks.DeclaredType

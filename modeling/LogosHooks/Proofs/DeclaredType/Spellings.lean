import LogosHooks.DeclaredType.Registry
import LogosHooks.Proofs.DeclaredType.NormalForm

/-!
When two spellings stand for the same type. The longest end of stars and blanks is cut off a
spelling: the words in front of it are the name, and its stars are counted, up to 255 of them.
Nothing else of a spelling matters, so its words and stars tell whether the type is known and
whether it is `void`.
-/
namespace LogosHooks.DeclaredType

open Text

/-- The last word of the name, which tells whether the type is known. Without words it is empty. -/
def baseWord (t : Text) : Text := (words (nameText t)).getLast?.getD []

theorem starTail_append {tail : Text} (htail : IsStarTail tail) (t : Text) :
    starTail (t ++ tail) = starTail t ++ tail := by
  have hrev : ∀ c ∈ tail.reverse, isStarOrBlank c = true := fun c hc =>
    isStarTail_iff.mp htail c (List.mem_reverse.mp hc)
  simp only [starTail, List.rtakeWhile, List.reverse_append, List.takeWhile_append_of_pos hrev,
    List.reverse_reverse]

/-- The ends made of stars and blanks are the ends of the longest one. -/
theorem suffix_starTail_iff {s t : Text} : s <:+ starTail t ↔ s <:+ t ∧ IsStarTail s := by
  constructor
  · intro h
    exact ⟨h.trans (List.rtakeWhile_suffix _ t), fun c hc => isStarTail_starTail t c (h.subset hc)⟩
  · rintro ⟨⟨front, rfl⟩, hs⟩
    rw [starTail_append hs]
    exact List.suffix_append _ s

theorem addStars_zero_left_inj {m n : Nat} :
    addStars 0 m = addStars 0 n ↔ min m 255 = min n 255 := by
  simp [addStars]

theorem ofText_eq_ofText_iff (t u : Text) :
    ofText t = ofText u ↔ words (nameText t) = words (nameText u) ∧
      min (trailingStars t) 255 = min (trailingStars u) 255 := by
  rw [ofText_eq, ofText_eq, DeclaredType.mk.injEq, addStars_zero_left_inj]
  constructor
  · rintro ⟨hname, hstars⟩
    have hwords := congrArg words hname
    rw [words_unwords_words, words_unwords_words] at hwords
    exact ⟨hwords, hstars⟩
  · rintro ⟨hwords, hstars⟩
    exact ⟨congrArg unwords hwords, hstars⟩

/-- Words joined by single spaces are split at the spaces again. -/
theorem splitOn_unwords {ws : List Text} (hws : ∀ w ∈ ws, IsWord w) (hne : ws ≠ []) :
    (unwords ws).splitOn ' ' = ws := by
  refine List.splitOn_intercalate ' ' (fun w hw hmem => ?_) hne
  have hspace := (hws w hw).2 ' ' hmem
  exact absurd hspace (by decide)

theorem lastWord_ofText (t : Text) : (ofText t).lastWord = baseWord t := by
  rw [ofText_eq, lastWord, baseWord]
  by_cases hne : words (nameText t) = []
  · rw [hne]
    rfl
  · rw [splitOn_unwords (fun _ => isWord_of_mem_words) hne]

theorem stars_ofText (t : Text) : (ofText t).stars.val = min (trailingStars t) 255 := by
  rw [ofText_eq]
  change min (0 + trailingStars t) 255 = min (trailingStars t) 255
  rw [Nat.zero_add]

theorem isPointer_ofText (t : Text) : (ofText t).isPointer = true ↔ 0 < trailingStars t := by
  rw [isPointer, decide_eq_true_eq, stars_ofText]
  omega

theorem isVoid_ofText (t : Text) :
    (ofText t).isVoid = true ↔ baseWord t = "void".toList ∧ trailingStars t = 0 := by
  rw [isVoid, Bool.and_eq_true, beq_iff_eq, lastWord_ofText, Bool.not_eq_true',
    ← Bool.not_eq_true, isPointer_ofText, Nat.not_lt, Nat.le_zero]

theorem knows_ofText (registry : Registry) (t : Text) :
    registry.knows (ofText t) = true ↔
      isBuiltinName (baseWord t) = true ∨ baseWord t ∈ registry.added := by
  rw [Registry.knows, Registry.containsName, lastWord_ofText, Bool.or_eq_true,
    List.contains_iff_mem]

/-- The longest end of stars and blanks of a spelling holds the stars that are counted, and the
words in front of it are the name. So the display is another spelling of the type, spellings stand
for the same type exactly if they agree in these words and in the stars as far as they are counted,
the last of the words tells whether the type is known, and it is `void` only without a star. -/
theorem ofText_normal_form (t : Text) :
    (nameText t ++ starTail t = t ∧ ∀ s, s <:+ starTail t ↔ s <:+ t ∧ IsStarTail s) ∧
    (ofText t).name = unwords (words (nameText t)) ∧
    (ofText t).stars.val = min (trailingStars t) 255 ∧
    ofText (ofText t).display = ofText t ∧
    (∀ u, ofText t = ofText u ↔ words (nameText t) = words (nameText u) ∧
      min (trailingStars t) 255 = min (trailingStars u) 255) ∧
    (ofText t).lastWord = baseWord t ∧
    (∀ registry : Registry, registry.knows (ofText t) = true ↔
      isBuiltinName (baseWord t) = true ∨ baseWord t ∈ registry.added) ∧
    ((ofText t).isVoid = true ↔ baseWord t = "void".toList ∧ trailingStars t = 0) := by
  refine ⟨⟨nameText_append_starTail t, fun _ => suffix_starTail_iff⟩, ?_, stars_ofText t,
    ofText_display (isNormal_ofText t), ofText_eq_ofText_iff t, lastWord_ofText t,
    fun r => knows_ofText r t, isVoid_ofText t⟩
  rw [ofText_eq]

example : ofText " NSError** ".toList = ⟨"NSError".toList, 2⟩ := by decide +kernel

end LogosHooks.DeclaredType

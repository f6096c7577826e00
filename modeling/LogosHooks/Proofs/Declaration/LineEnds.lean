import LogosHooks.Proofs.Declaration.Code

/-!
What may be written behind a line without changing what is read from it. Blanks may follow every
line, and a comment may follow a line that declares a member, unless a slash stands right in front
of it.
-/
namespace LogosHooks

open Text

/-- The line declares nothing: it is neither the start of a class nor a property nor a method. -/
def IsFiller (line : Text) : Prop :=
  isClassLine line = false ∧ isPropertyLine line = false ∧ isMethodLine line = false

instance (line : Text) : Decidable (IsFiller line) := inferInstanceAs (Decidable (_ ∧ _))

def reading (line : Text) : Bool × Except LineFault Line := (isClassLine line, Line.read line)

theorem isFiller_iff_reading {line : Text} :
    IsFiller line ↔ reading line = (false, .ok .other) := by
  unfold IsFiller reading Line.read
  cases isClassLine line with
  | true => simp
  | false =>
    cases isPropertyLine line with
    | true => cases readPropertyParts line <;> simp [Functor.map, Except.map]
    | false =>
      cases isMethodLine line with
      | true => cases readMethodParts line <;> simp [Functor.map, Except.map]
      | false => simp [pure, Except.pure]

/-! ### Blanks -/

theorem isPrefixOf_append_gap {marker gap : Text} (hmarker : hasBlank marker = false)
    (hgap : IsGap gap) (line : Text) :
    marker.isPrefixOf (line ++ gap) = marker.isPrefixOf line := by
  rw [Bool.eq_iff_iff, List.isPrefixOf_iff_prefix, List.isPrefixOf_iff_prefix]
  refine ⟨fun h => ?_, fun h => h.trans (List.prefix_append line gap)⟩
  rcases List.prefix_or_prefix_of_prefix h (List.prefix_append line gap) with hle | ⟨more, rfl⟩
  · exact hle
  · -- what the marker has beyond the line would be blank
    have hmore : more <+: gap := (List.prefix_append_right_inj line).mp h
    cases more with
    | nil => simp
    | cons c more =>
      have hc := hasBlank_eq_false_iff.mp hmarker c (by simp)
      rw [hgap c (hmore.subset List.mem_cons_self)] at hc
      cases hc

theorem isClassLine_append_gap {gap : Text} (hgap : IsGap gap) (line : Text) :
    isClassLine (line ++ gap) = isClassLine line :=
  isPrefixOf_append_gap (by decide) hgap line

theorem isPropertyLine_append_gap {gap : Text} (hgap : IsGap gap) (line : Text) :
    isPropertyLine (line ++ gap) = isPropertyLine line :=
  isPrefixOf_append_gap (by decide) hgap line

theorem isMethodLine_append_gap {gap : Text} (hgap : IsGap gap) (line : Text) :
    isMethodLine (line ++ gap) = isMethodLine line := by
  cases line with
  | cons c rest => rfl
  | nil =>
    cases gap with
    | nil => rfl
    | cons c gap =>
      have hc : isBlank c = true := hgap c List.mem_cons_self
      have hplus : c ≠ '+' := by
        rintro rfl
        exact absurd hc (by decide)
      have hminus : c ≠ '-' := by
        rintro rfl
        exact absurd hc (by decide)
      simp [isMethodLine, hplus, hminus]

/-- Behind the beginning of a comment, nothing counts. -/
theorem before_append_of_not_uncommented {t : Text} (ht : ¬ Uncommented t) (more : Text) :
    before "//".toList (t ++ more) = before "//".toList t := by
  induction t with
  | nil => exact absurd (uncommented_of_not_mem (by simp)) ht
  | cons c rest ih =>
    cases rest with
    | nil =>
      refine absurd (uncommented_cons_iff.mpr ⟨fun h => ?_, uncommented_of_not_mem (by simp)⟩) ht
      have hlength := h.length_le
      simp at hlength
    | cons d rest =>
      -- the first two characters decide whether the comment begins here
      have hfront : "//".toList.isPrefixOf (c :: d :: (rest ++ more)) =
          "//".toList.isPrefixOf (c :: d :: rest) := rfl
      rw [List.cons_append, List.cons_append]
      unfold before
      simp only [hfront]
      split
      · rfl
      · next hnot =>
        have hrest : ¬ Uncommented (d :: rest) := fun h =>
          ht (uncommented_cons_iff.mpr ⟨by rwa [← List.isPrefixOf_iff_prefix], h⟩)
        rw [← List.cons_append, ih hrest]

theorem declarationCode_append_gap {gap : Text} (hgap : IsGap gap) (line : Text) :
    declarationCode (line ++ gap) = declarationCode line := by
  by_cases hline : Uncommented line
  · have hlonger : Uncommented (line ++ gap) :=
      (uncommented_append_iff_left (hgap.not_mem rfl)).mpr hline
    rw [declarationCode, declarationCode, before_of_uncommented hlonger,
      before_of_uncommented hline, trimRight_append_gap hgap]
  · rw [declarationCode, declarationCode, before_append_of_not_uncommented hline]

theorem declarationCode_append_comment {line comment : Text} (hlast : line.getLast? ≠ some '/')
    (hcomment : "//".toList <+: comment) :
    declarationCode (line ++ comment) = declarationCode line := by
  by_cases hline : Uncommented line
  · rw [declarationCode, declarationCode, before_append_comment hline hlast hcomment,
      before_of_uncommented hline]
  · rw [declarationCode, declarationCode, before_append_of_not_uncommented hline]

/-! ### What is read of a line -/

theorem readMethodParts_congr {a b : Text} (h : declarationCode a = declarationCode b) :
    readMethodParts a = readMethodParts b := by
  rw [readMethodParts, readMethodParts, h]

theorem readPropertyParts_congr {a b : Text} (h : declarationCode a = declarationCode b) :
    readPropertyParts a = readPropertyParts b := by
  rw [readPropertyParts, readPropertyParts, h]

theorem readClassName_append_gap {gap : Text} (hgap : IsGap gap) (line : Text) :
    readClassName (line ++ gap) = readClassName line := by
  have hrest : IsGap (gap.drop (classMarker.length - line.length)) := fun c hc =>
    hgap c (List.mem_of_mem_drop hc)
  have hhead : ∀ s t : Text, IsGap t →
      (s ++ t).head?.all isBlank = s.head?.all isBlank := by
    intro s t ht
    cases s with
    | cons c s => rfl
    | nil =>
      cases t with
      | nil => rfl
      | cons c t => simp [ht c List.mem_cons_self]
  simp only [readClassName, List.drop_append, hhead _ _ hrest, words_append_gap hrest]

/-- What is read of a line depends on its first characters and on its code. -/
theorem reading_congr {a b : Text} (hclass : isClassLine a = isClassLine b)
    (hproperty : isPropertyLine a = isPropertyLine b) (hmethod : isMethodLine a = isMethodLine b)
    (hname : isClassLine b = true → readClassName a = readClassName b)
    (hcode : declarationCode a = declarationCode b) : reading a = reading b := by
  rw [reading, reading, Line.read, Line.read, hclass, hproperty, hmethod,
    readPropertyParts_congr hcode, readMethodParts_congr hcode]
  by_cases h : isClassLine b = true
  · rw [if_pos h, if_pos h, hname h]
  · rw [if_neg h, if_neg h]

theorem reading_append_gap {gap : Text} (hgap : IsGap gap) (line : Text) :
    reading (line ++ gap) = reading line :=
  reading_congr (isClassLine_append_gap hgap line) (isPropertyLine_append_gap hgap line)
    (isMethodLine_append_gap hgap line) (fun _ => readClassName_append_gap hgap line)
    (declarationCode_append_gap hgap line)

/-- The first characters of a member show what it is, whatever follows them. -/
theorem kind_append {line : Text} (h : isMethodLine line = true ∨ isPropertyLine line = true)
    (more : Text) :
    isClassLine line = false ∧ isClassLine (line ++ more) = false ∧
      isPropertyLine (line ++ more) = isPropertyLine line ∧
      isMethodLine (line ++ more) = isMethodLine line := by
  rcases h with hmethod | hproperty
  · cases line with
    | nil => cases hmethod
    | cons c rest =>
      have hc : c = '+' ∨ c = '-' := by simpa [isMethodLine] using hmethod
      rcases hc with rfl | rfl <;> exact ⟨rfl, rfl, rfl, rfl⟩
  · obtain ⟨rest, rfl⟩ := List.isPrefixOf_iff_prefix.mp hproperty
    exact ⟨rfl, rfl, rfl, rfl⟩

theorem reading_append_comment {line comment : Text}
    (hline : isMethodLine line = true ∨ isPropertyLine line = true)
    (hlast : line.getLast? ≠ some '/') (hcomment : "//".toList <+: comment) :
    reading (line ++ comment) = reading line := by
  obtain ⟨hclass, hclass', hproperty, hmethod⟩ := kind_append hline comment
  refine reading_congr (hclass'.trans hclass.symm) hproperty hmethod (fun h => ?_)
    (declarationCode_append_comment hlast hcomment)
  rw [hclass] at h
  cases h

theorem reading_dropReturn (line : Text) : reading (dropReturn line) = reading line := by
  rcases dropReturn_cases line with h | h
  · rw [h]
  · have hreturn : IsGap ['\r'] := fun c hc => List.mem_singleton.mp hc ▸ rfl
    have happend := reading_append_gap hreturn (dropReturn line)
    rw [← h] at happend
    exact happend.symm

end LogosHooks

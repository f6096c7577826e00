import LogosHooks.Proofs.Declaration.Code
import LogosHooks.Proofs.Declaration.ReadArgument
import LogosHooks.Proofs.Result

/-!
Which lines are read as a method. The code of the line falls into its sign, the return type in
parentheses, the text in front of the first colon and the text from there on; the parts of the
method are these pieces without the blanks at their ends.
-/
namespace LogosHooks

open Text

/-- The pieces of the code of a line that is read as a method with these parts. -/
structure MethodParts.Cut (parts : MethodParts) (code : Text) (sign : Char)
    (gap inside front tail : Text) : Prop where
  code_eq : code = sign :: (gap ++ '(' :: (inside ++ ')' :: (front ++ tail)))
  isStatic_eq : parts.isStatic = (sign == '+')
  gap : IsGap gap
  balanced : Balanced inside
  returnText_eq : parts.returnText = trim inside
  returnText_ne_nil : parts.returnText ≠ []
  colonless : ':' ∉ front
  tail_colon : ∀ c ∈ tail.head?, c = ':'
  selector_eq : parts.selector = trim front
  selector : IsWord parts.selector
  arguments_eq : cutEllipsis (trim tail) = (parts.argumentsText, parts.isVariadic)

theorem takeWhile_dropWhile_colon {front tail : Text} (hfront : ':' ∉ front)
    (htail : ∀ c ∈ tail.head?, c = ':') :
    (front ++ tail).takeWhile (· != ':') = front ∧ (front ++ tail).dropWhile (· != ':') = tail := by
  have hkeep : ∀ c ∈ front, (c != ':') = true := by
    intro c hc
    have hne : c ≠ ':' := fun h => hfront (h ▸ hc)
    simpa using hne
  rw [List.takeWhile_append_of_pos hkeep, List.dropWhile_append_of_pos hkeep]
  cases tail with
  | nil => simp
  | cons c tail =>
    have hc : c = ':' := htail c (by simp)
    subst hc
    simp

theorem readMethodParts_of_cut {line : Text} {parts : MethodParts} {sign : Char}
    {gap inside front tail : Text}
    (h : parts.Cut (declarationCode line) sign gap inside front tail) :
    readMethodParts line = .ok parts := by
  have htrim : trimLeft ((declarationCode line).drop 1) =
      '(' :: inside ++ ')' :: (front ++ tail) := by
    rw [h.code_eq, List.drop_one, List.tail_cons, trimLeft_gap_append h.gap]
    rfl
  have hparen : parenthesized? ('(' :: inside ++ ')' :: (front ++ tail)) =
      some (inside, front ++ tail) := parenthesized?_eq_some_iff.mpr ⟨rfl, h.balanced⟩
  obtain ⟨htake, hdrop⟩ := takeWhile_dropWhile_colon h.colonless h.tail_colon
  have hreturn : (trim inside).isEmpty = false := by
    rw [← h.returnText_eq]
    simpa using h.returnText_ne_nil
  have hselector : (trim front).isEmpty = false := by
    rw [← h.selector_eq]
    simpa using h.selector.1
  have hblank : hasBlank (trim front) = false := by
    rw [← h.selector_eq]
    exact hasBlank_eq_false_iff.mpr h.selector.2
  have hsign : ((declarationCode line).head? == some '+') = parts.isStatic := by
    rw [h.code_eq, h.isStatic_eq, List.head?_cons]
    simp
  unfold readMethodParts
  simp only [bind, Except.bind, pure, Except.pure, throw, throwThe, MonadExceptOf.throw, htrim,
    hparen, hreturn, htake, hselector, hblank, hdrop, h.arguments_eq, hsign]
  simp [← h.returnText_eq, ← h.selector_eq]

/-- An opening parenthesis behind the first character has at most a gap in front of it. -/
theorem exists_sign_of_trimLeft {code rest : Text} (h : trimLeft (code.drop 1) = '(' :: rest) :
    ∃ sign gap, IsGap gap ∧ code = sign :: (gap ++ '(' :: rest) := by
  obtain ⟨gap, hgap, hcode⟩ := exists_gap_append_trimLeft (code.drop 1)
  rw [h] at hcode
  cases code with
  | nil => simp at hcode
  | cons sign code =>
    rw [List.drop_one, List.tail_cons] at hcode
    exact ⟨sign, gap, hgap, by rw [hcode]⟩

theorem exists_cut_of_readMethodParts {line : Text} {parts : MethodParts}
    (h : readMethodParts line = .ok parts) :
    ∃ sign gap inside front tail,
      parts.Cut (declarationCode line) sign gap inside front tail := by
  unfold readMethodParts at h
  simp only [bind, Except.bind, pure, Except.pure, throw, throwThe, MonadExceptOf.throw] at h
  split at h
  case isFalse => cases h
  case isTrue hhead =>
    split at h
    case h_2 => cases h
    case h_1 inside behind hparen =>
      split at h
      case isTrue => cases h
      case isFalse hreturn =>
        split at h
        case isTrue => cases h
        case isFalse hselector =>
          split at h
          case isTrue => cases h
          case isFalse hblank =>
            cases h
            obtain ⟨hsplit, hbal⟩ := parenthesized?_eq_some_iff.mp hparen
            rw [List.cons_append] at hsplit
            obtain ⟨sign, gap, hgap, hcode⟩ := exists_sign_of_trimLeft hsplit
            refine ⟨sign, gap, inside, behind.takeWhile (· != ':'), behind.dropWhile (· != ':'), ?_⟩
            exact {
              code_eq := by rw [List.takeWhile_append_dropWhile, hcode]
              isStatic_eq := by simp [hcode]
              gap := hgap
              balanced := hbal
              returnText_eq := rfl
              returnText_ne_nil := by simpa using hreturn
              colonless := by
                intro hmem
                simpa using List.mem_takeWhile_imp hmem
              tail_colon := by
                intro c hc
                have hnot := List.head?_dropWhile_not (· != ':') behind
                rw [Option.mem_def.mp hc] at hnot
                simpa using hnot
              selector_eq := rfl
              selector := ⟨by simpa using hselector,
                hasBlank_eq_false_iff.mp (by simpa using hblank)⟩
              arguments_eq := rfl
            }

/-- A line is read as a method exactly if its code falls into the pieces of one. -/
theorem readMethodParts_eq_ok_iff {line : Text} {parts : MethodParts} :
    readMethodParts line = .ok parts ↔
      ∃ sign gap inside front tail,
        parts.Cut (declarationCode line) sign gap inside front tail := by
  constructor
  · exact exists_cut_of_readMethodParts
  · rintro ⟨sign, gap, inside, front, tail, hcut⟩
    exact readMethodParts_of_cut hcut

theorem MethodParts.method_eq (parts : MethodParts) :
    parts.method = (readArguments parts.argumentsText).map fun arguments =>
      ⟨parts.selector, parts.isStatic, .ofText parts.returnText, arguments, parts.isVariadic⟩ := by
  unfold method
  cases readArguments parts.argumentsText <;> rfl

theorem readMethod_eq_ok_iff {line : Text} {m : Method} :
    readMethod line = .ok m ↔
      ∃ parts arguments, readMethodParts line = .ok parts ∧
        readArguments parts.argumentsText = .ok arguments ∧
        m = ⟨parts.selector, parts.isStatic, .ofText parts.returnText, arguments,
          parts.isVariadic⟩ := by
  rw [readMethod, bind_eq_ok_iff]
  simp only [MethodParts.method_eq, map_eq_ok_iff, exists_and_left, eq_comm (a := m)]

/-! ### The dots of variadic methods -/

theorem cutEllipsis_dots {t gap gap' : Text} (hgap : IsGap gap) (hgap' : IsGap gap')
    (hlast : ∀ c ∈ t.getLast?, isBlank c = false) :
    cutEllipsis (t ++ (gap ++ ',' :: (gap' ++ "...".toList))) = (t, true) := by
  have hdots : t ++ (gap ++ ',' :: (gap' ++ "...".toList)) =
      t ++ gap ++ [','] ++ gap' ++ "...".toList := by simp
  rw [cutEllipsis, hdots, cutSuffix?_append, Option.bind_some, trimRight_append_gap hgap',
    trimRight_concat rfl, cutSuffix?_append]
  change (trimRight (t ++ gap), true) = (t, true)
  rw [trimRight_append_gap hgap, trimRight_eq_self hlast]

/-- Nothing is cut off unless the text ends in a comma and three dots. -/
theorem cutEllipsis_eq_self {t : Text}
    (h : ∀ front, t = front ++ "...".toList → (trimRight front).getLast? ≠ some ',') :
    cutEllipsis t = (t, false) := by
  have hnone : ((cutSuffix? "...".toList t).bind fun front =>
      cutSuffix? [','] (trimRight front)) = none := by
    rw [Option.bind_eq_none_iff]
    intro front hfront
    rw [cutSuffix?_eq_none_iff]
    intro before hbefore
    apply h front (cutSuffix?_eq_some_iff.mp hfront).symm
    rw [← hbefore, List.getLast?_concat]
  rw [cutEllipsis, hnone]

theorem cutEllipsis_of_getLast? {t : Text} (h : t.getLast? ≠ some '.') :
    cutEllipsis t = (t, false) := by
  apply cutEllipsis_eq_self
  rintro front rfl
  exact absurd (List.mem_getLast?_append_of_mem_getLast? rfl) h

/-- Either the comma and the dots are cut off, or the whole text is kept. -/
theorem cutEllipsis_cases (t : Text) :
    (∃ front gap gap', IsGap gap ∧ IsGap gap' ∧
      t = front ++ (gap ++ ',' :: (gap' ++ "...".toList)) ∧
      cutEllipsis t = (front, true)) ∨ cutEllipsis t = (t, false) := by
  rw [cutEllipsis]
  cases h : (cutSuffix? "...".toList t).bind fun front => cutSuffix? [','] (trimRight front) with
  | none => exact Or.inr rfl
  | some front =>
    left
    obtain ⟨dotless, hdots, hcomma⟩ := Option.bind_eq_some_iff.mp h
    obtain ⟨gap, hgap, hfront⟩ := exists_trimRight_append_gap front
    obtain ⟨gap', hgap', hdotless⟩ := exists_trimRight_append_gap dotless
    refine ⟨trimRight front, gap, gap', hgap, hgap', ?_, rfl⟩
    rw [← cutSuffix?_eq_some_iff.mp hdots, hdotless, ← cutSuffix?_eq_some_iff.mp hcomma]
    conv in front ++ [','] => rw [hfront]
    simp

theorem exists_cutEllipsis_cons {c : Char} (hblank : isBlank c = false) (hcomma : c ≠ ',')
    (t : Text) : ∃ rest isVariadic, cutEllipsis (c :: t) = (c :: rest, isVariadic) := by
  rcases cutEllipsis_cases (c :: t) with ⟨front, gap, gap', hgap, -, hsplit, hcut⟩ | hkeep
  · cases front with
    | cons d front =>
      obtain ⟨rfl, -⟩ := List.cons.inj hsplit
      exact ⟨front, true, hcut⟩
    | nil =>
      cases gap with
      | nil => exact absurd (List.cons.inj hsplit).1 hcomma
      | cons d gap =>
        have hd := hgap d List.mem_cons_self
        rw [← (List.cons.inj hsplit).1, hblank] at hd
        simp at hd
  · exact ⟨t, false, hkeep⟩

/-- A text that is kept does not end in a comma and three dots. -/
theorem not_suffix_of_cutEllipsis {t : Text} (h : cutEllipsis t = (t, false)) :
    ¬ ",...".toList <:+ t := by
  rintro ⟨front, rfl⟩
  obtain ⟨gap, hgap, hfront⟩ := exists_trimRight_append_gap front
  have hcut := cutEllipsis_dots hgap isGap_nil (isBlank_getLast?_trimRight front)
  have hsplit : front ++ ",...".toList =
      trimRight front ++ (gap ++ ',' :: ([] ++ "...".toList)) := by
    conv_lhs => rw [hfront]
    simp
  rw [hsplit, hcut] at h
  simp at h

theorem Method.sign_eq_plus (m : Method) : (m.sign == '+') = m.isStatic := by
  unfold sign
  cases m.isStatic <;> rfl

theorem Method.sign_ne (m : Method) {c : Char} (hplus : '+' ≠ c) (hminus : '-' ≠ c) :
    m.sign ≠ c := by
  unfold sign
  split
  · exact hplus
  · exact hminus

/-- A method is read from a line whose code falls into its pieces. -/
theorem readMethod_of_pieces {line gap inside front tail argumentsText : Text} {m : Method}
    (hcode : declarationCode line = m.sign :: (gap ++ '(' :: (inside ++ ')' :: (front ++ tail))))
    (hgap : IsGap gap) (hinside : Balanced inside) (hshown : trim inside ≠ [])
    (htype : .ofText inside = m.returnType) (hcolon : ':' ∉ front) (hselector : IsWord m.selector)
    (hfront : trim front = m.selector) (htail : ∀ c ∈ tail.head?, c = ':')
    (hellipsis : cutEllipsis (trim tail) = (argumentsText, m.isVariadic))
    (harguments : readArguments argumentsText = .ok m.arguments) : readMethod line = .ok m := by
  have hparts : readMethodParts line =
      .ok ⟨m.isStatic, trim inside, m.selector, argumentsText, m.isVariadic⟩ := by
    apply readMethodParts_of_cut
    exact {
      code_eq := hcode
      isStatic_eq := m.sign_eq_plus.symm
      gap := hgap
      balanced := hinside
      returnText_eq := rfl
      returnText_ne_nil := hshown
      colonless := hcolon
      tail_colon := htail
      selector_eq := hfront.symm
      selector := hselector
      arguments_eq := hellipsis
    }
  refine readMethod_eq_ok_iff.mpr ⟨_, m.arguments, hparts, harguments, ?_⟩
  rw [DeclaredType.ofText_trim, htype]

end LogosHooks

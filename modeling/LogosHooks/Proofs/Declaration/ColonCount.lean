import LogosHooks.Proofs.Declaration.WholeSelector
import LogosHooks.Proofs.Text.OuterColons
import Mathlib.Algebra.GroupWithZero.Nat

/-!
The colons of a method line. Each argument that is read stands for one colon outside all
parentheses. Colons beyond these can only lie in the name of an argument, where a further argument
was written without a keyword and without a blank in front of its colon. With a blank in front, such
an argument is a segment of its own and the line is at fault.
-/
namespace LogosHooks

open Text SegmentStage

/-- What stands between the code of a line and its comment. -/
theorem exists_append_eq_before (line : Text) :
    ∃ tail, before "//".toList line = declarationCode line ++ tail ∧
      ∀ c ∈ tail, isBlank c = true ∨ c = ';' := by
  obtain ⟨back, hback, hfront⟩ := exists_trimRight_append_gap (before "//".toList line)
  obtain ⟨gap, hgap, hcode⟩ := exists_trimRight_append_gap
    ((cutSuffix? [';'] (trimRight (before "//".toList line))).getD
      (trimRight (before "//".toList line)))
  rw [← declarationCode] at hcode
  cases hcut : cutSuffix? [';'] (trimRight (before "//".toList line)) with
  | none =>
    rw [hcut, Option.getD_none] at hcode
    refine ⟨gap ++ back, ?_, fun c hc => Or.inl (hgap.append hback c hc)⟩
    rw [← List.append_assoc, ← hcode]
    exact hfront
  | some front =>
    rw [hcut, Option.getD_some] at hcode
    refine ⟨gap ++ ';' :: back, ?_, fun c hc => ?_⟩
    · calc before "//".toList line
          = trimRight (before "//".toList line) ++ back := hfront
        _ = front ++ [';'] ++ back := by rw [cutSuffix?_eq_some_iff.mp hcut]
        _ = declarationCode line ++ (gap ++ ';' :: back) := by rw [hcode]; simp
    · rcases List.mem_append.mp hc with hc | hc
      · exact Or.inl (hgap c hc)
      · rcases List.mem_cons.mp hc with rfl | hc
        · exact Or.inr rfl
        · exact Or.inl (hback c hc)

namespace Argument

theorem contributes_keyword {key : Text} (hkey : IsKeyword key) : Contributes key 0 :=
  contributes_plain fun c hc =>
    have hne : ∀ {d : Char}, isIdentifierChar d = false → c ≠ d := fun hd h =>
      hkey.not_mem hd (h ▸ hc)
    ⟨hne isIdentifierChar_open, hne isIdentifierChar_close, hne isIdentifierChar_colon⟩

/-- The colon behind the keyword is the only outer one in front of the name. -/
theorem CutFrom.contributes {a : Argument} {segment : Text} (h : a.CutFrom segment)
    (hname : Balanced a.name) : Contributes segment (1 + outerColons a.name) := by
  obtain ⟨front, gap, inside, behind, rfl, hcut⟩ := h
  have hfront : Contributes front 0 := by
    rw [← contributes_trim_iff, ← hcut.keyword_eq]
    exact contributes_keyword hcut.keyword
  have hcolon : Contributes [':'] 1 := contributes_singleton (by decide) (by decide)
  have hbehind : Contributes behind (outerColons a.name) := by
    rw [← contributes_trim_iff, ← hcut.name_eq]
    exact contributes_of_balanced hname
  have hall := (hfront.append hcolon).append
    ((contributes_gap hcut.gap).append
      ((contributes_parenthesized hcut.balanced).append hbehind))
  simpa [argumentText] using hall

theorem contributes_segments {as : List Argument} {out : List Text}
    (h : List.Forall₂ CutFrom as out) (hnames : ∀ a ∈ as, Balanced a.name) :
    Contributes (out.flatMap words).flatten
      (as.length + (as.map fun a => outerColons a.name).sum) := by
  induction h with
  | nil => exact contributes_nil
  | @cons a segment as out ha hrest ih =>
    have hfirst := ha.contributes (hnames a List.mem_cons_self)
    have hlater := ih fun b hb => hnames b (List.mem_cons_of_mem a hb)
    have hall := (contributes_flatten_words_iff.mpr hfirst).append hlater
    rw [List.flatMap_cons, List.flatten_append, List.length_cons, List.map_cons, List.sum_cons]
    have hcount : as.length + 1 + (outerColons a.name + (as.map fun b => outerColons b.name).sum) =
        1 + outerColons a.name + (as.length + (as.map fun b => outerColons b.name).sum) := by
      omega
    rw [hcount]
    exact hall

theorem contributes_argumentsText {t : Text} {as : List Argument} (h : readArguments t = .ok as)
    (hnames : ∀ a ∈ as, Balanced a.name) :
    Contributes t (as.length + (as.map fun a => outerColons a.name).sum) := by
  obtain ⟨out, hout, hcuts, -⟩ := exists_segments_of_readArguments h
  rw [← contributes_flatten_words_iff, ← (words_of_segments hout).1]
  exact contributes_segments hcuts hnames

/-! ### A later argument without a keyword -/

/-- Whatever is wrong with a segment, the fault shows all of it. -/
theorem ofSegment_eq_error {first : Bool} {segment : Text} {fault : LineFault}
    (h : ofSegment first segment = .error fault) : fault = .badArgument segment := by
  unfold ofSegment at h
  simp only [bind, Except.bind, pure, Except.pure, throw, throwThe, MonadExceptOf.throw] at h
  split at h
  case h_2 => cases h; rfl
  case h_1 =>
    split at h
    case isTrue => cases h; rfl
    case isFalse =>
      split at h
      case isFalse => cases h; rfl
      case isTrue =>
        split at h
        case h_2 => cases h; rfl
        case h_1 =>
          split at h
          case isTrue => cases h; rfl
          case isFalse =>
            split at h
            case isTrue => cases h; rfl
            case isFalse => cases h

theorem exists_segment_of_ofSegments_error {out : List Text} {fault : LineFault}
    (h : ofSegments out = .error fault) : ∃ s ∈ out, fault = .badArgument s := by
  cases out with
  | nil => cases h
  | cons s out =>
    rw [ofSegments] at h
    cases hs : ofSegment true s with
    | error fault' =>
      rw [hs] at h
      cases h
      exact ⟨s, List.mem_cons_self, ofSegment_eq_error hs⟩
    | ok a =>
      rw [hs] at h
      cases hout : out.mapM (ofSegment false) with
      | error fault' =>
        rw [hout] at h
        cases h
        obtain ⟨u, hu, hfail⟩ := exists_mem_of_mapM_error hout
        exact ⟨u, List.mem_cons_of_mem s hu, ofSegment_eq_error hfail⟩
      | ok later =>
        rw [hout] at h
        cases h

theorem CutFrom.keyword_eq_nil {a : Argument} {segment : Text} (h : a.CutFrom segment)
    (hcolon : segment.head? = some ':') : a.keyword = [] := by
  obtain ⟨front, gap, inside, behind, rfl, hcut⟩ := h
  cases front with
  | nil => exact hcut.keyword_eq
  | cons c front =>
    obtain rfl : c = ':' := by simpa [argumentText] using hcolon
    exact absurd List.mem_cons_self hcut.colonless

/-- Only the first segment may begin with its colon. -/
theorem readArguments_of_later_colon {t first : Text} {later : List Text}
    (hsegments : segments t = .ok (first :: later)) (hlater : ∃ s ∈ later, s.head? = some ':') :
    ∃ s ∈ first :: later, readArguments t = .error (.badArgument s) := by
  have hread : readArguments t = ofSegments (first :: later) := by
    rw [readArguments, hsegments]
    rfl
  rw [hread]
  cases has : ofSegments (first :: later) with
  | error fault =>
    obtain ⟨s, hs, rfl⟩ := exists_segment_of_ofSegments_error has
    exact ⟨s, hs, rfl⟩
  | ok as =>
    obtain ⟨hcuts, hkeys⟩ := forall₂_of_ofSegments has
    obtain ⟨s, hs, hcolon⟩ := hlater
    cases hcuts with
    | @cons a _ as _ _ hcuts =>
      obtain ⟨b, hb, hcut⟩ := exists_mem_of_forall₂ hcuts.flip hs
      exact absurd (CutFrom.keyword_eq_nil hcut hcolon) (hkeys b hb)

end Argument

namespace MethodParts.Cut

variable {parts : MethodParts} {code gap inside front tail : Text} {sign : Char} {count : Nat}

/-- The dots of a variadic method contribute nothing. -/
theorem contributes_tail (h : parts.Cut code sign gap inside front tail)
    (htext : Contributes parts.argumentsText count) : Contributes tail count := by
  rw [← contributes_trim_iff]
  rcases cutEllipsis_cases (trim tail) with ⟨text, gap₁, gap₂, hgap₁, hgap₂, hsplit, hcut⟩ | hkeep
  · rw [h.arguments_eq, Prod.mk.injEq] at hcut
    rw [hcut.1] at htext
    have hcomma : Contributes [','] 0 := contributes_singleton (by decide) (by decide)
    have hdots : Contributes "...".toList 0 := contributes_plain (by simp)
    have hall := htext.append ((contributes_gap hgap₁).append
      (hcomma.append ((contributes_gap hgap₂).append hdots)))
    rw [hsplit]
    simpa using hall
  · rw [h.arguments_eq, Prod.mk.injEq] at hkeep
    rwa [hkeep.1] at htext

theorem contributes_code (h : parts.Cut code sign gap inside front tail)
    (hsign : sign = '+' ∨ sign = '-') (hselector : Balanced parts.selector)
    (htext : Contributes parts.argumentsText count) : Contributes code count := by
  have hsigned : Contributes [sign] 0 := by
    rcases hsign with rfl | rfl
    · exact contributes_singleton (by decide) (by decide)
    · exact contributes_singleton (by decide) (by decide)
  have hcolonless : outerColons parts.selector = 0 := by
    rw [h.selector_eq]
    exact outerColonsFrom_eq_zero 0 fun hmem => h.colonless (mem_of_mem_trim hmem)
  have hfront : Contributes front 0 := by
    rw [← contributes_trim_iff, ← h.selector_eq, ← hcolonless]
    exact contributes_of_balanced hselector
  have hall := hsigned.append ((contributes_gap h.gap).append
    ((contributes_parenthesized h.balanced).append (hfront.append (h.contributes_tail htext))))
  rw [h.code_eq]
  simpa using hall

end MethodParts.Cut

/-- The code of a method line begins with the sign of the method. -/
theorem MethodParts.Cut.sign_cases {line : Text} {parts : MethodParts}
    {sign : Char} {gap inside front tail : Text}
    (h : parts.Cut (declarationCode line) sign gap inside front tail)
    (hline : isMethodLine line = true) : sign = '+' ∨ sign = '-' := by
  obtain ⟨more, hmore⟩ := (declarationCode_isPrefix_before line).trans (before_isPrefix _ line)
  rw [h.code_eq, List.cons_append] at hmore
  rw [← hmore] at hline
  simpa [isMethodLine] using hline

/-- The arguments of a method line, and the colons in their names, account for its outer colons. -/
theorem outerColons_before {line : Text} {m : Method} (hline : isMethodLine line = true)
    (h : readMethod line = .ok m) (hselector : Balanced m.selector)
    (hnames : ∀ a ∈ m.arguments, Balanced a.name) :
    outerColons (before "//".toList line) =
      m.arguments.length + (m.arguments.map fun a => outerColons a.name).sum := by
  obtain ⟨parts, arguments, hparts, harguments, rfl⟩ := readMethod_eq_ok_iff.mp h
  obtain ⟨sign, gap, inside, front, tail, hcut⟩ := readMethodParts_eq_ok_iff.mp hparts
  have hcode := hcut.contributes_code (hcut.sign_cases hline) hselector
    (Argument.contributes_argumentsText harguments hnames)
  obtain ⟨more, hbefore, hmore⟩ := exists_append_eq_before line
  have hplain : Contributes more 0 := contributes_plain fun c hc => by
    rcases hmore c hc with hblank | rfl
    · exact ⟨ne_of_isBlank hblank rfl, ne_of_isBlank hblank rfl, ne_of_isBlank hblank rfl⟩
    · decide
  rw [hbefore]
  exact (hcode.append hplain).outerColons_eq

theorem readMethod_of_later_colon {line : Text} {parts : MethodParts} {first : Text}
    {later : List Text} (hparts : readMethodParts line = .ok parts)
    (hsegments : segments parts.argumentsText = .ok (first :: later))
    (hlater : ∃ s ∈ later, s.head? = some ':') :
    ∃ s ∈ first :: later, readMethod line = .error (.badArgument s) := by
  obtain ⟨s, hs, hfault⟩ := Argument.readArguments_of_later_colon hsegments hlater
  refine ⟨s, hs, ?_⟩
  rw [readMethod, hparts]
  change parts.method = _
  rw [MethodParts.method_eq, hfault]
  rfl

/-- As far as the parentheses in the selector and in the names match, the outer colons of a method
line are as many as its arguments exactly if no name has one, and it is names alone that can have
more. A segment behind the first that begins with its colon is a fault. -/
theorem outerColons_of_readMethod (line : Text) (hline : isMethodLine line = true) :
    (∀ m, readMethod line = .ok m →
      Balanced m.selector → (∀ a ∈ m.arguments, Balanced a.name) →
        m.wholeSelector.count ':' = m.arguments.length ∧
        outerColons (before "//".toList line) =
          m.arguments.length + (m.arguments.map fun a => outerColons a.name).sum ∧
        (m.arguments.length = outerColons (before "//".toList line) ↔
          ∀ a ∈ m.arguments, outerColons a.name = 0)) ∧
    (∀ parts first later, readMethodParts line = .ok parts →
      segments parts.argumentsText = .ok (first :: later) → (∃ s ∈ later, s.head? = some ':') →
        ∃ s ∈ first :: later, readMethod line = .error (.badArgument s)) := by
  refine ⟨fun m hm hselector hnames => ?_, fun parts first later hparts hsegments hlater => ?_⟩
  · have hcount := outerColons_before hline hm hselector hnames
    refine ⟨(accepted_of_readMethod hm).count_wholeSelector, hcount, ?_⟩
    rw [hcount, Nat.left_eq_add, List.sum_eq_zero_iff_forall_eq_nat]
    simp
  · exact readMethod_of_later_colon hparts hsegments hlater

theorem outerColons_of_readMethod_post :
    let line := "+ (id)post:(void (^)(id:x)) block to:(int)port(:), ... ; // at :(".toList
    let m : Method := ⟨"post".toList, true, ⟨"id".toList, 0⟩,
      [⟨[], ⟨"void (^)(id:x)".toList, 0⟩, "block".toList⟩,
        ⟨"to".toList, ⟨"int".toList, 0⟩, "port(:)".toList⟩], true⟩
    let unlabelled := "- (void)drag:(int)x by:(int) dx :(int)y;".toList
    let parts : MethodParts := ⟨false, "void".toList, "drag".toList,
      ":(int)x by:(int) dx :(int)y".toList, false⟩
    (isMethodLine line = true ∧ readMethod line = .ok m ∧
      Balanced m.selector ∧ (∀ a ∈ m.arguments, Balanced a.name) ∧
      outerColons (before "//".toList line) = 2 ∧ m.arguments.length = 2) ∧
    (isMethodLine unlabelled = true ∧ readMethodParts unlabelled = .ok parts ∧
      segments parts.argumentsText =
        .ok [":(int)x".toList, "by:(int) dx".toList, ":(int)y".toList] ∧
      ∃ s ∈ [":(int)x".toList, "by:(int) dx".toList, ":(int)y".toList],
        readMethod unlabelled = .error (.badArgument s)) := by
  intro line m unlabelled parts
  constructor
  · have hline : isMethodLine line = true := by decide +kernel
    have hread : readMethod line = .ok m := by decide +kernel
    have hselector : Balanced m.selector := by decide +kernel
    have hnames : ∀ a ∈ m.arguments, Balanced a.name := by decide +kernel
    obtain ⟨-, hcount, -⟩ := (outerColons_of_readMethod line hline).1 m hread hselector hnames
    refine ⟨hline, hread, hselector, hnames, hcount.trans ?_, rfl⟩
    decide +kernel
  · have hline : isMethodLine unlabelled = true := by decide +kernel
    have hparts : readMethodParts unlabelled = .ok parts := by decide +kernel
    have hsegments : segments parts.argumentsText =
        .ok [":(int)x".toList, "by:(int) dx".toList, ":(int)y".toList] := by decide +kernel
    refine ⟨hline, hparts, hsegments, ?_⟩
    exact (outerColons_of_readMethod unlabelled hline).2 parts _ _ hparts hsegments
      ⟨":(int)y".toList, by simp, rfl⟩

/-- Without a blank in front of its colon, a further argument ends up in the name of the one before
it; with a blank, it is a fault. -/
theorem readMethod_swallows_unlabelled :
    let glued := "- (void)move:(int)x:(int)y;".toList
    let spaced := "- (void)move:(int)x :(int)y;".toList
    readMethod glued = .ok ⟨"move".toList, false, ⟨"void".toList, 0⟩,
        [⟨[], ⟨"int".toList, 0⟩, "x:(int)y".toList⟩], false⟩ ∧
      outerColons (before "//".toList glued) = 2 ∧
      readMethod spaced = .error (.badArgument ":(int)y".toList) := by
  decide +kernel

end LogosHooks

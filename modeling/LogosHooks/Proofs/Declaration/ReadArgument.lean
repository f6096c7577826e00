import LogosHooks.Proofs.Declaration.ArgumentText

/-!
Which texts are read as an argument. A segment is read exactly if it falls into the pieces of an
argument, and a text of several arguments is read if its words are those of the arguments, one
behind the other.
-/
namespace LogosHooks

open Text SegmentStage

namespace Argument

/-- The pieces of a segment that is read as the argument. -/
structure Cut (a : Argument) (front gap inside behind : Text) : Prop where
  colonless : ':' ∉ front
  gap : IsGap gap
  balanced : Balanced inside
  keyword_eq : a.keyword = trim front
  keyword : IsKeyword a.keyword
  type_eq : a.type = .ofText inside
  type_named : a.type.name ≠ []
  name_eq : a.name = trim behind
  name : IsWord a.name

def CutFrom (a : Argument) (segment : Text) : Prop :=
  ∃ front gap inside behind, segment = argumentText front gap inside behind ∧
    a.Cut front gap inside behind

theorem cutOnce?_append {mark : Char} {front : Text} (hfront : mark ∉ front) (behind : Text) :
    cutOnce? mark (front ++ mark :: behind) = some (front, behind) := by
  induction front with
  | nil => simp [cutOnce?]
  | cons c front ih =>
    rw [List.mem_cons, not_or] at hfront
    rw [List.cons_append, cutOnce?, if_neg (Ne.symm hfront.1), ih hfront.2]
    rfl

theorem not_mem_of_cutOnce? {mark : Char} {t front behind : Text}
    (h : cutOnce? mark t = some (front, behind)) : mark ∉ front := by
  induction t generalizing front with
  | nil => simp [cutOnce?] at h
  | cons c rest ih =>
    unfold cutOnce? at h
    split at h
    · simp only [Option.some.injEq, Prod.mk.injEq] at h
      simp [← h.1]
    · next hc =>
      obtain ⟨⟨a, b⟩, hab, hcons⟩ := Option.map_eq_some_iff.mp h
      simp only [Prod.mk.injEq] at hcons
      obtain ⟨rfl, rfl⟩ := hcons
      simp [Ne.symm hc, ih hab]

/-- A segment falls into pieces in one way only, so what stands behind its type is determined. -/
theorem behind_eq_of_argumentText_eq {front gap inside behind front' gap' inside' behind' : Text}
    (hfront : ':' ∉ front) (hgap : IsGap gap) (hinside : Balanced inside)
    (hfront' : ':' ∉ front') (hgap' : IsGap gap') (hinside' : Balanced inside')
    (h : argumentText front gap inside behind = argumentText front' gap' inside' behind') :
    behind = behind' := by
  have hcut := congrArg (cutOnce? ':') h
  simp only [argumentText] at hcut
  rw [cutOnce?_append hfront, cutOnce?_append hfront', Option.some.injEq, Prod.mk.injEq] at hcut
  have htrim := congrArg trimLeft hcut.2
  rw [trimLeft_gap_append hgap, trimLeft_gap_append hgap', trimLeft_eq_self (by simp; rfl),
    trimLeft_eq_self (by simp; rfl)] at htrim
  have hcut := cutClosing?_eq_some_iff.mpr ⟨(List.cons.inj htrim).2, hinside'⟩
  rw [cutClosing?_eq_some_iff.mpr ⟨rfl, hinside⟩, Option.some.injEq, Prod.mk.injEq] at hcut
  exact hcut.2

theorem ofSegment_of_cut {first : Bool} {a : Argument} {front gap inside behind : Text}
    (h : a.Cut front gap inside behind) (hfirst : a.keyword = [] → first = true) :
    ofSegment first (argumentText front gap inside behind) = .ok a := by
  have hcut := cutOnce?_append h.colonless (gap ++ '(' :: (inside ++ ')' :: behind))
  have htrim : trimLeft (gap ++ '(' :: (inside ++ ')' :: behind)) =
      '(' :: inside ++ ')' :: behind := by
    rw [trimLeft_gap_append h.gap]
    rfl
  have hparen : parenthesized? ('(' :: inside ++ ')' :: behind) = some (inside, behind) :=
    parenthesized?_eq_some_iff.mpr ⟨rfl, h.balanced⟩
  have hkey : (List.isEmpty (trim front) && !first) = false := by
    rw [← h.keyword_eq]
    cases hk : a.keyword with
    | nil => simp [hfirst hk]
    | cons c rest => rfl
  have hall : (trim front).all isIdentifierChar = true := by
    rw [← h.keyword_eq]
    exact List.all_eq_true.mpr h.keyword
  have htype : (DeclaredType.ofText inside).name.isEmpty = false := by
    rw [← h.type_eq]
    simpa using h.type_named
  have hname : ((trim behind).isEmpty || hasBlank (trim behind)) = false := by
    rw [← h.name_eq, hasBlank_eq_false_iff.mpr h.name.2]
    simpa using h.name.1
  unfold ofSegment argumentText
  simp only [bind, Except.bind, pure, Except.pure, throw, throwThe, MonadExceptOf.throw, hcut,
    htrim, hparen, hkey, hall, htype, hname]
  simp [← h.keyword_eq, ← h.type_eq, ← h.name_eq]

theorem exists_cut_of_ofSegment {first : Bool} {segment : Text} {a : Argument}
    (h : ofSegment first segment = .ok a) :
    a.CutFrom segment ∧ (a.keyword = [] → first = true) := by
  unfold ofSegment at h
  simp only [bind, Except.bind, pure, Except.pure, throw, throwThe, MonadExceptOf.throw] at h
  split at h
  case h_2 => cases h
  case h_1 front rest hcut =>
    split at h
    case isTrue => cases h
    case isFalse hkey =>
      split at h
      case isFalse => cases h
      case isTrue hall =>
        split at h
        case h_2 => cases h
        case h_1 inside behind hparen =>
          split at h
          case isTrue => cases h
          case isFalse htype =>
            split at h
            case isTrue => cases h
            case isFalse hname =>
              cases h
              obtain ⟨hsplit, hbal⟩ := parenthesized?_eq_some_iff.mp hparen
              obtain ⟨gap, hgap, hrest⟩ := exists_gap_append_trimLeft rest
              rw [hsplit] at hrest
              have hword : IsWord (trim behind) := by
                simp only [Bool.or_eq_true, not_or, Bool.not_eq_true] at hname
                exact ⟨by simpa using hname.1, hasBlank_eq_false_iff.mp hname.2⟩
              refine ⟨⟨front, gap, inside, behind, ?_, ?_⟩, ?_⟩
              · rw [← append_of_cutOnce? hcut, hrest]
                simp [argumentText]
              · exact ⟨not_mem_of_cutOnce? hcut, hgap, hbal, rfl, List.all_eq_true.mp hall, rfl,
                  by simpa using htype, rfl, hword⟩
              · simpa using hkey

theorem ofSegment_eq_ok_iff {first : Bool} {segment : Text} {a : Argument} :
    ofSegment first segment = .ok a ↔
      a.CutFrom segment ∧ (a.keyword = [] → first = true) := by
  constructor
  · exact exists_cut_of_ofSegment
  · rintro ⟨⟨front, gap, inside, behind, rfl, hcut⟩, hfirst⟩
    exact ofSegment_of_cut hcut hfirst

/-! ### Texts of several arguments -/

def ReadsFrom (first : Bool) (a : Argument) (t : Text) : Prop :=
  ∃ segment, idle.advance (words t) = ([segment], idle) ∧ ofSegment first segment = .ok a

theorem squeeze_argumentText {key gap inside tail : Text} (hkey : IsKeyword key) :
    squeeze (argumentText key gap inside tail) =
      argumentText key (squeeze gap) (squeeze inside) (squeeze tail) := by
  have hcolon : isBlank ':' = false := rfl
  have hopen : isBlank '(' = false := rfl
  have hclose : isBlank ')' = false := rfl
  rw [argumentText, squeeze_append_cons _ _ hcolon, squeeze_append_cons _ _ hopen,
    squeeze_append_cons _ _ hclose, squeeze_of_forall_not_blank hkey.isBlank, argumentText]

theorem tight_argumentText {key gap inside tail : Text} (hkey : IsKeyword key)
    (htail : ∀ c ∈ tail.getLast?, isBlank c = false) :
    Tight (argumentText key gap inside tail) := by
  constructor
  · intro c hc
    cases key with
    | nil =>
      simp only [argumentText, List.nil_append, List.head?_cons, Option.mem_some_iff] at hc
      exact hc ▸ rfl
    | cons d key =>
      simp only [argumentText, List.cons_append, List.head?_cons, Option.mem_some_iff] at hc
      exact hc ▸ hkey.isBlank d List.mem_cons_self
  · intro c hc
    have hsplit : argumentText key gap inside tail =
        key ++ ':' :: (gap ++ '(' :: inside) ++ ')' :: tail := by simp [argumentText]
    rw [hsplit, List.getLast?_append_of_ne_nil _ (by simp)] at hc
    cases tail with
    | nil =>
      obtain rfl : c = ')' := by simpa using hc.symm
      rfl
    | cons d tail =>
      rw [List.getLast?_cons_cons] at hc
      exact htail c hc

/-- An argument is read however it is spaced. Only a name behind a gap may have parentheses. -/
theorem readsFrom_argumentText {first : Bool} {a : Argument} {gap inside gap' : Text}
    (hkey : IsKeyword a.keyword) (hfirst : a.keyword = [] → first = true) (hgap : IsGap gap)
    (hinside : Balanced inside) (htype : .ofText inside = a.type) (hnamed : a.type.name ≠ [])
    (hgap' : IsGap gap') (hname : IsWord a.name) (hcolon : ':' ∉ a.name)
    (hglued : gap' = [] → '(' ∉ a.name ∧ ')' ∉ a.name) :
    ReadsFrom first a (argumentText a.keyword gap inside (gap' ++ a.name)) := by
  refine ⟨unwords (words (argumentText a.keyword gap inside (gap' ++ a.name))), ?_, ?_⟩
  · by_cases hne : gap' = []
    · obtain ⟨hopen, hclose⟩ := hglued hne
      subst hne
      exact advance_type_name hkey hgap hinside hname hcolon hopen hclose
    · exact advance_type_gap_name hkey hgap hinside hgap' hne hname hcolon
  · have htail : ∀ c ∈ (gap' ++ a.name).getLast?, isBlank c = false := by
      rw [List.getLast?_append_of_ne_nil _ hname.1]
      exact hname.tight.2
    rw [unwords_words (tight_argumentText hkey htail), squeeze_argumentText hkey]
    have hkeyTight : Tight a.keyword := by
      by_cases hk : a.keyword = []
      · rw [hk]
        exact tight_nil
      · exact IsWord.tight ⟨hk, hkey.isBlank⟩
    have hwords : words (squeeze (gap' ++ a.name)) = [a.name] := by
      rw [words_squeeze, words_gap_append hgap', words_of_isWord hname]
    refine ofSegment_of_cut ?_ hfirst
    exact {
      colonless := hkey.not_mem isIdentifierChar_colon
      gap := isGap_squeeze hgap
      balanced := (balanced_congr (words_squeeze inside)).mpr hinside
      keyword_eq := hkeyTight.trim_eq.symm
      keyword := hkey
      type_eq := by rw [DeclaredType.ofText_squeeze, htype]
      type_named := hnamed
      name_eq := (trim_of_words_eq_singleton hwords).symm
      name := hname
    }

theorem advance_pieces {as : List Argument} {ps : List Text}
    (h : List.Forall₂ (ReadsFrom false) as ps) :
    ∃ out, idle.advance (ps.flatMap words) = (out, idle) ∧
      out.mapM (ofSegment false) = .ok as := by
  induction h with
  | nil => exact ⟨[], rfl, rfl⟩
  | @cons a p as ps hp hps ih =>
    obtain ⟨segment, hadvance, hread⟩ := hp
    obtain ⟨out, hout, hreads⟩ := ih
    refine ⟨segment :: out, ?_, ?_⟩
    · rw [List.flatMap_cons, advance_append, hadvance, hout]
      rfl
    · rw [List.mapM_cons, hread, hreads]
      rfl

theorem segments_of_advance {t : Text} {out : List Text}
    (h : idle.advance (words t) = (out, idle)) : segments t = .ok out := by
  rw [segments, run_eq_advance, h]
  simp [finish, Except.map]

theorem readArguments_nil : readArguments [] = .ok [] := by
  rw [readArguments, segments, words_nil]
  rfl

/-- Arguments are read from a text that has their words, one behind the other. -/
theorem readArguments_cons {t p : Text} {ps : List Text} {a : Argument} {as : List Argument}
    (hp : ReadsFrom true a p) (hps : List.Forall₂ (ReadsFrom false) as ps)
    (ht : words t = words p ++ ps.flatMap words) : readArguments t = .ok (a :: as) := by
  obtain ⟨segment, hadvance, hread⟩ := hp
  obtain ⟨out, hout, hreads⟩ := advance_pieces hps
  have hsegments : segments t = .ok (segment :: out) := by
    apply segments_of_advance
    rw [ht, advance_append, hadvance, hout]
    rfl
  rw [readArguments, hsegments]
  change Argument.ofSegments (segment :: out) = _
  rw [Argument.ofSegments, hread, hreads]
  rfl

end Argument
end LogosHooks

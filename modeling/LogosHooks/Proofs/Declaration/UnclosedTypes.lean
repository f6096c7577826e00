import LogosHooks.Proofs.Declaration.Appended
import LogosHooks.Proofs.Declaration.ReadArgument
import LogosHooks.Proofs.Declaration.SegmentFaults

/-!
Types that are never closed. A segment is complete only if it closes as many parentheses as it
opens, and a keyword has none, so the parenthesis of its type is closed in it; a name that is joined
to it later does not change that. A type that stays open keeps its segment under way to the end of
the text, where the fault is found. The fault is an open parenthesis, unless the segment is a single
word that ends in a colon: such a word is taken for a keyword without a type.
-/
namespace LogosHooks

open Text

namespace SegmentStage

def TypeClosed (segment : Text) : Prop :=
  ∀ front behind, cutOnce? ':' segment = some (front, behind) → IsKeyword (trim front) →
    (trimLeft behind).head? = some '(' →
    ∃ inside name, parenthesized? (trimLeft behind) = some (inside, name)

/-- The net count of all parentheses decides for the one of the type, which is the first. -/
theorem typeClosed_of_leavesOpen {segment : Text} (h : leavesOpen segment = false) :
    TypeClosed segment := by
  intro front behind hcut hkey hhead
  obtain ⟨gap, hgap, hbehind⟩ := exists_gap_append_trimLeft behind
  obtain ⟨rest, hrest⟩ : ∃ rest, trimLeft behind = '(' :: rest :=
    List.head?_eq_some_iff.mp hhead
  have hfrontOpen : front.count '(' = 0 := by
    rw [← count_trim rfl]
    exact List.count_eq_zero.mpr (hkey.not_mem isIdentifierChar_open)
  have hgapOpen : gap.count '(' = 0 := List.count_eq_zero.mpr (hgap.not_mem rfl)
  have hfrontClose : front.count ')' = 0 := by
    rw [← count_trim rfl]
    exact List.count_eq_zero.mpr (hkey.not_mem isIdentifierChar_close)
  have hgapClose : gap.count ')' = 0 := List.count_eq_zero.mpr (hgap.not_mem rfl)
  have hsegment : segment = front ++ ':' :: (gap ++ '(' :: rest) := by
    rw [← append_of_cutOnce? hcut, ← hrest, ← hbehind]
  have hclosed : rest.count '(' + 0 < rest.count ')' := by
    rw [leavesOpen, decide_eq_false_iff_not, hsegment] at h
    simp only [List.count_append, hfrontOpen, hgapOpen, hfrontClose, hgapClose,
      List.count_cons_self, List.count_cons_of_ne (show ':' ≠ ')' by decide),
      List.count_cons_of_ne (show ':' ≠ '(' by decide),
      List.count_cons_of_ne (show '(' ≠ ')' by decide)] at h
    omega
  obtain ⟨⟨inside, name⟩, hclosing⟩ := Option.isSome_iff_exists.mp (cutClosing?_isSome hclosed)
  exact ⟨inside, name, by rw [hrest]; exact hclosing⟩

/-- A name that is joined to a segment stands behind its type, even if it has parentheses. -/
theorem TypeClosed.extend {segment word : Text} (hsegment : TypeClosed segment)
    (hend : endsIn ')' segment = true) (hcolon : ':' ∉ word) :
    TypeClosed (SegmentStage.extend segment word) := by
  intro front behind hcut hkey hhead
  cases hinner : cutOnce? ':' segment with
  | none =>
    have hnone : cutOnce? ':' (SegmentStage.extend segment word) = none := by
      rw [cutOnce?_eq_none_iff] at hinner ⊢
      simp [SegmentStage.extend, hinner, hcolon]
    rw [hnone] at hcut
    cases hcut
  | some pieces =>
    obtain ⟨key, type⟩ := pieces
    have hsplit : segment = key ++ ':' :: type := (append_of_cutOnce? hinner).symm
    have houter :=
      Argument.cutOnce?_append (Argument.not_mem_of_cutOnce? hinner) (type ++ ' ' :: word)
    rw [← List.cons_append, ← List.append_assoc, ← hsplit] at houter
    obtain ⟨rfl, rfl⟩ : key = front ∧ type ++ ' ' :: word = behind := by
      simpa using houter.symm.trans hcut
    -- the segment ends in a parenthesis, so its colon is not its last character
    have hlast : ')' ∈ type := by
      have hmem : type.getLast? = some ')' := by
        cases type with
        | nil => simp [endsIn, hsplit] at hend
        | cons c type => simpa [endsIn, hsplit] using hend
      exact List.mem_of_getLast? hmem
    have htrim : trimLeft (type ++ ' ' :: word) = trimLeft type ++ ' ' :: word := by
      have hne : trimLeft type ≠ [] := by
        intro hnil
        have hblank := List.dropWhile_eq_nil_iff.mp hnil ')' hlast
        cases hblank
      rw [trimLeft, List.dropWhile_append, if_neg (by simpa [trimLeft] using hne), trimLeft]
    have hinnerHead : (trimLeft type).head? = some '(' := by
      rw [htrim] at hhead
      cases ht : trimLeft type with
      | nil =>
        rw [ht] at hhead
        cases hhead
      | cons c rest =>
        rw [ht] at hhead
        exact hhead
    obtain ⟨inside, name, hparen⟩ := hsegment key type hinner hkey hinnerHead
    obtain ⟨hpieces, hbalanced⟩ := parenthesized?_eq_some_iff.mp hparen
    refine ⟨inside, name ++ ' ' :: word, parenthesized?_eq_some_iff.mpr ⟨?_, hbalanced⟩⟩
    rw [htrim, hpieces]
    simp

/-! ### Complete segments -/

/-- A segment that waits for its name has its type closed. -/
def HasClosed : SegmentStage → Prop
  | typed s => TypeClosed s ∧ endsIn ')' s = true
  | _ => True

/-- Types are closed in the complete segments, and in the one under way if it waits for its name. -/
structure ClosesTypes (out : List Text × SegmentStage) : Prop where
  complete : ∀ s ∈ out.1, TypeClosed s
  underway : out.2.HasClosed

theorem settle_closesTypes (s : Text) : ClosesTypes (settle s) := by
  unfold settle
  split
  · exact ⟨by simp, trivial⟩
  · next hopen =>
    have hclosed := typeClosed_of_leavesOpen (by simpa using hopen)
    split
    · next hend => exact ⟨by simp, hclosed, hend⟩
    · exact ⟨by simpa using hclosed, trivial⟩

theorem start_closesTypes (word : Text) : ClosesTypes (start word) := by
  unfold start
  split
  · exact ⟨by simp, trivial⟩
  · exact settle_closesTypes word

/-- One word more: whatever it completes has its type closed. -/
theorem next_closesTypes {stage : SegmentStage} (hstage : stage.HasClosed) (word : Text) :
    ClosesTypes (stage.next word) := by
  cases stage with
  | idle => exact start_closesTypes word
  | keyword s => exact settle_closesTypes (extend s word)
  | unclosed s => exact settle_closesTypes (extend s word)
  | typed s =>
    obtain ⟨hclosed, hend⟩ := hstage
    change ClosesTypes (if word.contains ':' then (s :: (start word).1, (start word).2)
      else ([extend s word], idle))
    have hstart := start_closesTypes word
    split
    · refine ⟨fun x hx => ?_, hstart.underway⟩
      rcases List.mem_cons.mp hx with rfl | hx
      · exact hclosed
      · exact hstart.complete x hx
    · next hcolon =>
      have hnot : ':' ∉ word := by simpa using hcolon
      exact ⟨by simpa using hclosed.extend hend hnot, trivial⟩

theorem run_closesTypes {stage : SegmentStage} (hstage : stage.HasClosed) {ws : List Text}
    {out : List Text} (h : stage.run ws = .ok out) : ∀ s ∈ out, TypeClosed s := by
  induction ws generalizing stage out with
  | nil =>
    cases stage with
    | idle =>
      cases h
      simp
    | keyword s => cases h
    | unclosed s => cases h
    | typed s =>
      cases h
      simpa using hstage.1
  | cons word ws ih =>
    have hstep := next_closesTypes hstage word
    obtain ⟨later, hlater, rfl⟩ := map_eq_ok_iff.mp h
    intro s hs
    rcases List.mem_append.mp hs with hs | hs
    · exact hstep.complete s hs
    · exact ih hstep.underway hlater s hs

/-! ### Types that stay open -/

/-- A keyword, its colon, and a parenthesis that nothing closes. Any text will do for the keyword
that has no blank in it and closes no parenthesis. -/
def OpensType (t : Text) : Prop :=
  ∃ key gap rest, t = key ++ ':' :: (gap ++ '(' :: rest) ∧
    (∀ c ∈ key, isBlank c = false ∧ c ≠ ')') ∧ IsGap gap ∧ parenthesized? ('(' :: rest) = none

/-- A segment can begin only where the text in front has its segments. -/
theorem BeginsSegment.exists_run {front : List Text} {word : Text} (h : BeginsSegment front word) :
    ∃ out, idle.run front = .ok out := by
  rw [run_eq_advance]
  rcases h with hidle | ⟨⟨s, htyped⟩, -⟩
  · rw [hidle]
    exact ⟨_, rfl⟩
  · rw [htyped]
    exact ⟨_, rfl⟩

/-- The words of a type that stays open. -/
theorem OpensType.exists_words {word : Text} {rest : List Text}
    (hwords : ∀ w ∈ word :: rest, IsWord w) (h : OpensType (unwords (word :: rest))) :
    ∃ key v n, ')' ∉ key ∧ word = key ++ ':' :: v ∧ StaysOpen n ∧
      (word :: rest).flatten = key ++ ':' :: '(' :: n := by
  obtain ⟨key, gap, type, htext, hkey, hgap, hopen⟩ := h
  have hblank : ∀ c ∈ key, isBlank c = false := fun c hc => (hkey c hc).1
  have hsplit := words_unwords hwords
  obtain ⟨v, ws, hfirst⟩ := exists_words_keyword_cons hblank (gap ++ '(' :: type)
  rw [htext] at hsplit
  rw [hsplit] at hfirst
  obtain ⟨hword, -⟩ := List.cons.inj hfirst
  refine ⟨key, v, type.filter (!isBlank ·), fun hmem => (hkey ')' hmem).2 rfl, hword,
    staysOpen_filter (cutClosing?_eq_none_iff.mp hopen), ?_⟩
  have hcolon : isBlank ':' = false := rfl
  have hopenBlank : isBlank '(' = false := rfl
  rw [← hsplit, flatten_words]
  simp [List.filter_append, filter_of_forall_not_blank hblank, hgap.filter_eq_nil, hcolon,
    hopenBlank]

/-- A type that stays open holds the segment to the end of the text. A single word with a colon at
its end is taken for a keyword first. -/
theorem OpensType.run_eq {word : Text} {rest : List Text} (hwords : ∀ w ∈ word :: rest, IsWord w)
    (h : OpensType (unwords (word :: rest))) :
    idle.run (word :: rest) =
      .error (if rest = [] ∧ endsIn ':' word = true then .badArgument word
        else .openParenthesis) := by
  split
  · next hlast =>
    obtain ⟨rfl, hcolon⟩ := hlast
    have hbegin : BeginsSegment [] word := Or.inl rfl
    exact hbegin.run_concat hcolon
  · next hlast =>
    obtain ⟨key, v, n, hkey, hword, hn, hflat⟩ := h.exists_words hwords
    have hopen : leavesOpen (unwords (word :: rest)) = true :=
      leavesOpen_of_flatten hkey hn (List.prefix_refl n) hflat
    have hadvance : idle.advance (word :: rest) = settle (unwords (word :: rest)) := by
      apply advance_idle (by simp)
      · intro w hw
        obtain ⟨rfl, hrest⟩ := List.cons.inj hw
        simpa [hrest] using hlast
      · intro us vs hsplit hus hvs
        refine leavesOpen_or_keyword (x := vs.flatten) hkey hn ?_ ?_ ?_
        · exact fun u hu => (hwords u (hsplit ▸ List.mem_append_left vs hu)).1
        · cases us with
          | nil => exact absurd rfl hus
          | cons u us =>
            obtain ⟨rfl, -⟩ := List.cons.inj hsplit
            exact ⟨v, us, by rw [hword]⟩
        · rw [← List.flatten_append, ← hsplit, hflat]
    rw [run_eq_advance, hadvance, settle, if_pos hopen]
    rfl

end SegmentStage

open SegmentStage

theorem readArguments_of_opensType {t word : Text} {front rest : List Text}
    (hwords : words t = front ++ word :: rest) (hbegin : BeginsSegment front word)
    (hopen : OpensType (unwords (word :: rest))) :
    readArguments t =
      .error (if rest = [] ∧ endsIn ':' word = true then .badArgument word
        else .openParenthesis) := by
  have hall : ∀ w ∈ word :: rest, IsWord w := fun w hw =>
    isWord_of_mem_words (hwords ▸ List.mem_append_right front hw)
  obtain ⟨key, v, n, -, hword, -, -⟩ := hopen.exists_words hall
  have hcolon : ':' ∈ word := by simp [hword]
  obtain ⟨out, hout⟩ := hbegin.exists_run
  rw [readArguments, segments, hwords, run_append hout hcolon, hopen.run_eq hall]
  rfl

/-- In a segment that is handed on, the parenthesis of the type is closed if there is one behind the
keyword. And a type that is never closed is reported as an open parenthesis, unless it is written as
one word with a colon at its end, which is reported as a keyword that lacks its type. -/
theorem types_closed_or_reported (t : Text) :
    (∀ out, segments t = .ok out → ∀ s ∈ out, TypeClosed s) ∧
    ∀ front word rest, words t = front ++ word :: rest → BeginsSegment front word →
      OpensType (unwords (word :: rest)) →
      readArguments t =
        .error (if rest = [] ∧ endsIn ':' word = true then .badArgument word
          else .openParenthesis) := by
  constructor
  · intro out hout
    have hidle : idle.HasClosed := trivial
    exact run_closesTypes hidle hout
  · intro front word rest hwords hbegin hopen
    exact readArguments_of_opensType hwords hbegin hopen

/-- The first name opens a parenthesis of its own, behind its type. The second type stays open, and
the third too, with a colon at its end. -/
theorem types_closed_or_reported_array :
    let t := ":(void (^)(int)) f( with:(id)g".toList
    let segment := ":(void (^)(int)) f(".toList
    let u := ":(id)a with:(NSArray<id> *b and:(int)c".toList
    let v := ":(id)a with:(int:".toList
    let front := [":(id)a".toList]
    (segments t = .ok [segment, "with:(id)g".toList] ∧
      cutOnce? ':' segment = some ([], "(void (^)(int)) f(".toList) ∧
      IsKeyword (trim []) ∧ (trimLeft "(void (^)(int)) f(".toList).head? = some '(') ∧
    (words u = front ++ "with:(NSArray<id>".toList :: ["*b".toList, "and:(int)c".toList] ∧
      BeginsSegment front "with:(NSArray<id>".toList ∧
      OpensType (unwords ["with:(NSArray<id>".toList, "*b".toList, "and:(int)c".toList])) ∧
    (words v = front ++ ["with:(int:".toList] ∧ BeginsSegment front "with:(int:".toList ∧
      OpensType (unwords ["with:(int:".toList])) ∧
    (∃ inside name, parenthesized? (trimLeft "(void (^)(int)) f(".toList) = some (inside, name)) ∧
    readArguments u = .error .openParenthesis ∧
    readArguments v = .error (.badArgument "with:(int:".toList) := by
  intro t segment u v front
  have hsegments : segments t = .ok [segment, "with:(id)g".toList] := by decide +kernel
  have hcut : cutOnce? ':' segment = some ([], "(void (^)(int)) f(".toList) := by decide +kernel
  have hkey : IsKeyword (trim []) := by simp [IsKeyword, trim, trimLeft, trimRight]
  have hhead : (trimLeft "(void (^)(int)) f(".toList).head? = some '(' := by decide +kernel
  have hu : words u =
      front ++ "with:(NSArray<id>".toList :: ["*b".toList, "and:(int)c".toList] := by
    decide +kernel
  have hv : words v = front ++ ["with:(int:".toList] := by decide +kernel
  have hfront : (idle.advance front).2 = idle := by decide +kernel
  have hkeyword : ∀ c ∈ "with".toList, isBlank c = false ∧ c ≠ ')' := by simp [isBlank, blanks]
  have huopen : OpensType (unwords ["with:(NSArray<id>".toList, "*b".toList,
      "and:(int)c".toList]) :=
    ⟨"with".toList, [], "NSArray<id> *b and:(int)c".toList, by decide +kernel, hkeyword,
      isGap_nil, by decide +kernel⟩
  have hvopen : OpensType (unwords ["with:(int:".toList]) :=
    ⟨"with".toList, [], "int:".toList, by decide +kernel, hkeyword, isGap_nil,
      by decide +kernel⟩
  refine ⟨⟨hsegments, hcut, hkey, hhead⟩, ⟨hu, Or.inl hfront, huopen⟩,
    ⟨hv, Or.inl hfront, hvopen⟩, ?_, ?_, ?_⟩
  · have hclosed := (types_closed_or_reported t).1 _ hsegments segment List.mem_cons_self
    exact hclosed _ _ hcut hkey hhead
  · exact (types_closed_or_reported u).2 front _ _ hu (Or.inl hfront) huopen
  · exact (types_closed_or_reported v).2 front _ [] hv (Or.inl hfront) hvopen

/-- Not every type that stays open is reported as an open parenthesis. -/
theorem readArguments_unclosed_with_colon :
    let t := ":(int:".toList
    words t = [t] ∧ BeginsSegment [] t ∧ OpensType (unwords [t]) ∧
      readArguments t = .error (.badArgument t) := by
  intro t
  have hopen : OpensType (unwords [t]) :=
    ⟨[], [], "int:".toList, by decide +kernel, by simp, isGap_nil, by decide +kernel⟩
  exact ⟨by decide +kernel, Or.inl rfl, hopen, by decide +kernel⟩

end LogosHooks

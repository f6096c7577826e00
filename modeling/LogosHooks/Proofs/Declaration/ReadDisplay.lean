import LogosHooks.Proofs.Declaration.Display

/-!
Which displays are read back. A name with a colon in it leaves the argument in front of the colon
without a name, and a semicolon at the end of a display is no part of its code. All else survives,
however odd: parentheses, commas, dots and slashes in names are read back as they were read before.
-/
namespace LogosHooks

open Text SegmentStage

namespace Argument

theorem Accepted.readsFrom_display {first : Bool} {a : Argument} (ha : a.Accepted)
    (hcolon : ':' ∉ a.name) (hfirst : a.keyword = [] → first = true) :
    ReadsFrom first a a.display := by
  have hinside : Balanced a.type.display := a.type.balanced_display_iff.mpr ha.type.balanced
  rw [display_eq]
  exact readsFrom_argumentText ha.keyword hfirst isGap_nil hinside
    (DeclaredType.ofText_display ha.type.normal) ha.type_named isGap_space ha.name hcolon
    fun hgap => absurd hgap (by simp)

/-- Arguments are read back from their display if no name has a colon. -/
theorem readArguments_displayAll {as : List Argument} (has : ∀ a ∈ as, a.Accepted)
    (hlater : ∀ a ∈ as.tail, a.keyword ≠ []) (hcolon : ∀ a ∈ as, ':' ∉ a.name) :
    readArguments (displayAll as) = .ok as := by
  cases as with
  | nil => exact readArguments_nil
  | cons a as =>
    have hpieces : List.Forall₂ (ReadsFrom false) as (as.map display) := by
      rw [List.forall₂_map_right_iff, List.forall₂_same]
      intro b hb
      have hmem : b ∈ a :: as := List.mem_cons_of_mem a hb
      exact (has b hmem).readsFrom_display (hcolon b hmem) fun h => absurd h (hlater b hb)
    have ha : ReadsFrom true a a.display :=
      (has a List.mem_cons_self).readsFrom_display (hcolon a List.mem_cons_self) fun _ => rfl
    refine readArguments_cons ha hpieces ?_
    rw [words_displayAll, List.flatMap_cons, List.flatMap_map]

/-! ### Names with colons -/

/-- What a colon in its name leaves of an argument. -/
def nameless (a : Argument) : Text := unwords (words (argumentText a.keyword [] a.type.display []))

/-- No argument is read from a segment without a name. -/
theorem not_cutFrom_nameless {a b : Argument} (ha : a.Accepted) : ¬ b.CutFrom a.nameless := by
  rintro ⟨front, gap, inside, behind, hsegment, hcut⟩
  have hinside : Balanced (squeeze a.type.display) :=
    (balanced_congr (words_squeeze _)).mpr (a.type.balanced_display_iff.mpr ha.type.balanced)
  rw [nameless, unwords_words (tight_argumentText ha.keyword (by simp)),
    squeeze_argumentText ha.keyword] at hsegment
  have hbehind : [] = behind :=
    behind_eq_of_argumentText_eq (ha.keyword.not_mem isIdentifierChar_colon) isGap_nil hinside
      hcut.colonless hcut.gap hcut.balanced hsegment
  have hname := hcut.name.1
  rw [hcut.name_eq, ← hbehind] at hname
  exact hname rfl

/-- The first name with a colon leaves a segment without a name, since all arguments in front of it
are complete. -/
theorem exists_nameless {as : List Argument} (has : ∀ a ∈ as, a.Accepted)
    (hcolon : ∃ a ∈ as, ':' ∈ a.name) :
    ∃ a ∈ as, a.nameless ∈ (idle.advance (words (displayAll as))).1 := by
  rw [words_displayAll]
  -- an argument in front of the colon leaves the stage idle, so the rest begins as the whole did
  induction as with
  | nil => simp at hcolon
  | cons a as ih =>
    have ha := has a List.mem_cons_self
    have hinside : Balanced a.type.display := a.type.balanced_display_iff.mpr ha.type.balanced
    rw [List.flatMap_cons]
    by_cases hname : ':' ∈ a.name
    · refine ⟨a, List.mem_cons_self, ?_⟩
      obtain ⟨out, hout⟩ := advance_type_colon ha.keyword isGap_nil hinside hname
        (as.flatMap fun b => words b.display)
      rw [words_display ha, List.append_assoc, List.singleton_append, hout]
      exact List.mem_cons_self
    · obtain ⟨b, hb, hcolonb⟩ := hcolon
      have hbas : b ∈ as := by
        rcases List.mem_cons.mp hb with rfl | h
        · exact absurd hcolonb hname
        · exact h
      obtain ⟨c, hc, hmem⟩ := ih (fun d hd => has d (List.mem_cons_of_mem a hd)) ⟨b, hbas, hcolonb⟩
      have hreads : ReadsFrom true a a.display := ha.readsFrom_display hname fun _ => rfl
      obtain ⟨segment, hsegment, -⟩ := hreads
      refine ⟨c, List.mem_cons_of_mem a hc, ?_⟩
      rw [advance_append, hsegment]
      exact List.mem_cons_of_mem segment hmem

/-- Only arguments without a colon in their names have a display that can be read. -/
theorem not_mem_name_of_readArguments {as bs : List Argument} (has : ∀ a ∈ as, a.Accepted)
    (h : readArguments (displayAll as) = .ok bs) : ∀ a ∈ as, ':' ∉ a.name := by
  by_contra hcolon
  push Not at hcolon
  obtain ⟨a, ha, hmem⟩ := exists_nameless has hcolon
  obtain ⟨out, hout, hcuts, -⟩ := exists_segments_of_readArguments h
  rw [segments, run_eq_advance] at hout
  obtain ⟨last, -, hsplit⟩ := map_eq_ok_iff.mp hout
  have hnameless : a.nameless ∈ out := hsplit ▸ List.mem_append_left last hmem
  obtain ⟨b, -, hcut⟩ := exists_mem_of_forall₂ (List.Forall₂.flip hcuts) hnameless
  exact not_cutFrom_nameless (has a ha) hcut

end Argument

namespace Method

/-- What is shown behind the selector begins with a colon, if there is anything. -/
theorem Accepted.head?_arguments {m : Method} (hm : m.Accepted) :
    ∀ c ∈ (Argument.displayAll m.arguments ++ m.shownEllipsis).head?, c = ':' := by
  by_cases hargs : m.arguments = []
  · have hdots : m.isVariadic = false := by
      by_contra h
      exact hm.variadic (by simpa using h) hargs
    simp [hargs, shownEllipsis, hdots, Argument.displayAll_nil]
  · obtain ⟨rest, hrest⟩ := Argument.exists_displayAll_cons hargs hm.first_keyword
    simp [hrest]

theorem Accepted.tight_arguments {m : Method} (hm : m.Accepted) :
    Tight (Argument.displayAll m.arguments ++ m.shownEllipsis) := by
  refine ⟨fun c hc => ?_, hm.isBlank_getLast?_arguments⟩
  rw [hm.head?_arguments c hc]
  rfl

/-- What stands in front of three dots at the end of the display does not end in a comma: either the
dots are the whole name, or the name would have been taken for the dots of a variadic method. -/
theorem Accepted.getLast?_ne_comma {m : Method} (hm : m.Accepted) (hdots : m.isVariadic = false)
    {front : Text} (hfront : Argument.displayAll m.arguments = front ++ "...".toList) :
    (trimRight front).getLast? ≠ some ',' := by
  rcases List.eq_nil_or_concat m.arguments with hnil | ⟨init, a, hargs⟩
  · rw [hnil] at hfront
    simp [Argument.displayAll, unwords] at hfront
  · rw [List.concat_eq_append] at hargs
    have hdotless := hm.dotless hdots a (by simp [hargs])
    have hname : IsWord a.name := (hm.arguments a (by simp [hargs])).name
    obtain ⟨before, hbefore⟩ := Argument.exists_displayAll_concat init a
    rw [← hargs, hfront] at hbefore
    have hwhole : (trimRight (before ++ ") ".toList)).getLast? ≠ some ',' := by
      have hsplit : before ++ ") ".toList = before ++ [')'] ++ [' '] := by simp
      rw [hsplit, trimRight_append_gap isGap_space, trimRight_concat rfl, List.getLast?_concat]
      decide
    -- the dots take in the whole last name, or they are the end of it
    rcases List.append_eq_append_iff.mp hbefore with ⟨more, hmore, hshort⟩ | ⟨more, rfl, hlong⟩
    · rcases List.eq_nil_or_concat more with rfl | ⟨more, c, rfl⟩
      · rw [List.append_nil] at hmore
        exact hmore ▸ hwhole
      · have hc : c = ' ' := by simpa using (congrArg List.getLast? hmore).symm
        have hmem : c ∈ "...".toList := hshort ▸ by simp
        rw [hc] at hmem
        exact absurd hmem (by decide)
    · rcases List.eq_nil_or_concat more with rfl | ⟨more, c, rfl⟩
      · rwa [List.append_nil]
      · rw [List.concat_eq_append, ← List.append_assoc]
        have hc : isBlank c = false := hname.2 c (by simp [hlong])
        rw [trimRight_concat hc, List.getLast?_concat]
        intro hcomma
        obtain rfl := Option.some.inj hcomma
        exact hdotless ⟨more, by simp [hlong]⟩

/-- The dots of a display are cut off again, and without dots nothing is cut off. -/
theorem Accepted.cutEllipsis_display {m : Method} (hm : m.Accepted) :
    cutEllipsis (Argument.displayAll m.arguments ++ m.shownEllipsis) =
      (Argument.displayAll m.arguments, m.isVariadic) := by
  unfold shownEllipsis
  cases hdots : m.isVariadic with
  | true =>
    exact cutEllipsis_dots isGap_nil isGap_space (isBlank_getLast?_displayAll hm.arguments)
  | false =>
    have hself := cutEllipsis_eq_self fun _ hfront => hm.getLast?_ne_comma hdots hfront
    simpa using hself

/-- The display of a method is read as far as its arguments are. -/
theorem Accepted.readMethod_display {m : Method} (hm : m.Accepted)
    (hlast : m.display.getLast? ≠ some ';') :
    readMethod m.display = (readArguments (Argument.displayAll m.arguments)).map
      fun as => { m with arguments := as } := by
  have hcode : declarationCode m.display = m.display := by
    apply declarationCode_eq_self hm.uncommented_display
    intro c hc
    refine ⟨hm.isBlank_getLast?_display c hc, ?_⟩
    rintro rfl
    exact hlast hc
  have hreturn : DeclaredType.ofText (trim m.returnType.display) = m.returnType := by
    rw [DeclaredType.ofText_trim, DeclaredType.ofText_display hm.returnType.normal]
  have hselector : trim (' ' :: m.selector) = m.selector := by
    have htrim := trim_gap_append_gap isGap_space isGap_nil hm.selector.tight
    rwa [List.append_nil] at htrim
  have hparts : readMethodParts m.display =
      .ok ⟨m.isStatic, trim m.returnType.display, m.selector, Argument.displayAll m.arguments,
        m.isVariadic⟩ := by
    apply readMethodParts_of_cut
    rw [hcode]
    exact {
      code_eq := m.display_eq
      isStatic_eq := m.sign_eq_plus.symm
      gap := isGap_nil
      balanced := m.returnType.balanced_display_iff.mpr hm.returnType.balanced
      returnText_eq := rfl
      returnText_ne_nil := by
        rw [DeclaredType.trim_ne_nil_iff, DeclaredType.ofText_display hm.returnType.normal]
        exact hm.returnType_shown
      colonless := by simpa using hm.selector_colonless
      tail_colon := hm.head?_arguments
      selector_eq := hselector.symm
      selector := hm.selector
      arguments_eq := by rw [hm.tight_arguments.trim_eq, hm.cutEllipsis_display]
    }
  have hread : readMethod m.display = MethodParts.method
      ⟨m.isStatic, trim m.returnType.display, m.selector, Argument.displayAll m.arguments,
        m.isVariadic⟩ := by
    rw [readMethod, hparts]
    rfl
  rw [hread, MethodParts.method_eq, hreturn]

end Method

/-- Whatever is read from a display without a semicolon at its end is the method that it shows. -/
theorem Method.Accepted.eq_of_readMethod_display {m m' : Method} (hm : m.Accepted)
    (hlast : m.display.getLast? ≠ some ';') (h : readMethod m.display = .ok m') :
    (∀ a ∈ m.arguments, ':' ∉ a.name) ∧ m' = m := by
  rw [hm.readMethod_display hlast] at h
  obtain ⟨as, has, rfl⟩ := map_eq_ok_iff.mp h
  have hcolon := Argument.not_mem_name_of_readArguments hm.arguments has
  have hread := Argument.readArguments_displayAll hm.arguments hm.later_keyword hcolon
  refine ⟨hcolon, ?_⟩
  rw [hread, Except.ok.injEq] at has
  rw [← has]

/-- A semicolon at the end of the display is lost, so it cannot be one of the method. -/
theorem Method.Accepted.getLast?_display_ne {m : Method} (hm : m.Accepted)
    (h : readMethod m.display = .ok m) : m.display.getLast? ≠ some ';' := by
  intro hlast
  obtain ⟨front, hfront⟩ := List.getLast?_eq_some_iff.mp hlast
  have hcode := hm.uncommented_display
  have hle := Method.count_display_le h
  rw [hfront] at hcode hle
  rw [declarationCode_append_semicolon hcode, List.count_append, List.count_singleton_self] at hle
  have htrim := (trimRight_isPrefix front).sublist.count_le ';'
  -- the method shows no more semicolons than its code has, and the display has one more
  omega

/-- A method is read back from its display exactly if no name has a colon and the display does not
end with a semicolon. Without the semicolon, no other method is ever read in its place. -/
theorem readMethod_display_iff {line : Text} {m : Method} (h : readMethod line = .ok m) :
    (readMethod m.display = .ok m ↔
      (∀ a ∈ m.arguments, ':' ∉ a.name) ∧ m.display.getLast? ≠ some ';') ∧
    (m.display.getLast? ≠ some ';' → ∀ m', readMethod m.display = .ok m' → m' = m) := by
  have hm := accepted_of_readMethod h
  constructor
  · constructor
    · intro hread
      have hlast := hm.getLast?_display_ne hread
      exact ⟨(hm.eq_of_readMethod_display hlast hread).1, hlast⟩
    · rintro ⟨hcolon, hlast⟩
      rw [hm.readMethod_display hlast,
        Argument.readArguments_displayAll hm.arguments hm.later_keyword hcolon]
      rfl
  · intro hlast m' hread
    exact (hm.eq_of_readMethod_display hlast hread).2

theorem readMethod_display_iff_oddNames :
    let line := "+ (id * *)f(,/ :(int)  a) by: (id <P>)  ... // x".toList
    let m : Method := ⟨"f(,/".toList, true, ⟨"id".toList, 2⟩,
      [⟨[], ⟨"int".toList, 0⟩, "a)".toList⟩,
        ⟨"by".toList, ⟨"id <P>".toList, 0⟩, "...".toList⟩], false⟩
    readMethod line = .ok m ∧ readMethod m.display = .ok m := by
  intro line m
  have hline : readMethod line = .ok m := by decide +kernel
  have hnames : ∀ a ∈ m.arguments, ':' ∉ a.name := by decide
  have hlast : m.display.getLast? ≠ some ';' := by decide
  exact ⟨hline, (readMethod_display_iff hline).1.mpr ⟨hnames, hlast⟩⟩

end LogosHooks

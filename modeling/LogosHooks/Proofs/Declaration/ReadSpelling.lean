import LogosHooks.Proofs.Declaration.Spelling

/-!
A well-formed method is read from every line that spells it. The spelled code is free of comments
and ends in a character that belongs to it, so the line end is found; and its arguments have the
words of the arguments one by one, so that each of them becomes a segment of its own.
-/
namespace LogosHooks

open Text

namespace Text

theorem IsIdentifier.isWord {t : Text} (ht : IsIdentifier t) : IsWord t := ⟨ht.1, ht.2.isBlank⟩

def EndsCode (t : Text) : Prop :=
  ∃ c, t.getLast? = some c ∧ isBlank c = false ∧ c ≠ '/' ∧ c ≠ ';'

theorem EndsCode.append {t : Text} (ht : EndsCode t) (s : Text) : EndsCode (s ++ t) := by
  obtain ⟨c, hc, hcode⟩ := ht
  exact ⟨c, List.mem_getLast?_append_of_mem_getLast? hc, hcode⟩

def EndsInIdentifier (t : Text) : Prop := ∃ c, t.getLast? = some c ∧ isIdentifierChar c = true

theorem EndsInIdentifier.append {t : Text} (ht : EndsInIdentifier t) (s : Text) :
    EndsInIdentifier (s ++ t) := by
  obtain ⟨c, hc, hid⟩ := ht
  exact ⟨c, List.mem_getLast?_append_of_mem_getLast? hc, hid⟩

theorem IsIdentifier.endsInIdentifier {t : Text} (ht : IsIdentifier t) : EndsInIdentifier t := by
  obtain ⟨c, hc⟩ := Option.isSome_iff_exists.mp (List.getLast?_isSome.mpr ht.1)
  exact ⟨c, hc, ht.2 c (List.mem_of_mem_getLast? hc)⟩

theorem isIdentifierChar_dot : isIdentifierChar '.' = false := by decide +kernel

theorem ne_of_isIdentifierChar {c d : Char} (hc : isIdentifierChar c = true)
    (hd : isIdentifierChar d = false) : c ≠ d := by
  rintro rfl
  simp [hc] at hd

theorem EndsInIdentifier.endsCode {t : Text} (ht : EndsInIdentifier t) : EndsCode t := by
  obtain ⟨c, hc, hid⟩ := ht
  exact ⟨c, hc, isBlank_of_isIdentifierChar hid, ne_of_isIdentifierChar hid isIdentifierChar_slash,
    ne_of_isIdentifierChar hid isIdentifierChar_semicolon⟩

end Text

namespace Argument

variable {a : Argument} {t : Text}

theorem Spells.readsFrom {first : Bool} (h : a.Spells t) (ha : a.WellFormed)
    (hkey : IsKeyword a.keyword) (hfirst : a.keyword = [] → first = true) :
    ReadsFrom first a t := by
  obtain ⟨gap, type, gap', hgap, htype, hgap', rfl⟩ := h
  exact readsFrom_argumentText hkey hfirst hgap (htype.balanced ha.type.balanced)
    (DeclaredType.ofText_of_spells ha.type.normal htype) ha.type_named hgap' ha.name.isWord
    (ha.name.2.not_mem isIdentifierChar_colon)
    fun _ => ⟨ha.name.2.not_mem isIdentifierChar_open, ha.name.2.not_mem isIdentifierChar_close⟩

theorem Spells.uncommented (h : a.Spells t) (ha : a.WellFormed) (hkey : IsKeyword a.keyword) :
    Uncommented t := by
  obtain ⟨gap, type, gap', hgap, htype, hgap', rfl⟩ := h
  have hkeySlash := hkey.not_mem isIdentifierChar_slash
  have hname := uncommented_of_not_mem (ha.name.2.not_mem isIdentifierChar_slash)
  rw [uncommented_append_iff_right hkeySlash, uncommented_cons_of_ne_iff (by decide),
    uncommented_append_iff_right (hgap.not_mem rfl), uncommented_cons_of_ne_iff (by decide),
    uncommented_append_cons_iff (by decide), uncommented_append_iff_right (hgap'.not_mem rfl)]
  exact ⟨htype.uncommented ha.type.uncommented, hname⟩

theorem Spells.endsInIdentifier (h : a.Spells t) (ha : a.WellFormed) : EndsInIdentifier t := by
  obtain ⟨gap, type, gap', -, -, -, rfl⟩ := h
  have hsplit : a.keyword ++ ':' :: (gap ++ '(' :: (type ++ ')' :: (gap' ++ a.name))) =
      a.keyword ++ ':' :: (gap ++ '(' :: (type ++ ')' :: gap')) ++ a.name := by simp
  rw [hsplit]
  exact ha.name.endsInIdentifier.append _

theorem SpellsLater.breaksFront {as : List Argument} (h : SpellsLater as t) : BreaksFront t := by
  cases h with
  | nil => simp [BreaksFront]
  | cons hgap hne ha has =>
    rw [List.append_assoc]
    exact hgap.breaksFront_append hne

theorem SpellsLater.exists_pieces {as : List Argument} (h : SpellsLater as t)
    (hwf : ∀ a ∈ as, a.WellFormed) (hkey : ∀ a ∈ as, IsIdentifier a.keyword) :
    ∃ ps, List.Forall₂ (ReadsFrom false) as ps ∧ words t = ps.flatMap words := by
  induction h with
  | nil => exact ⟨[], List.Forall₂.nil, words_nil⟩
  | @cons gap text rest a as hgap hne ha has ih =>
    have hkeyword := hkey a List.mem_cons_self
    obtain ⟨ps, hps, hwords⟩ := ih (fun b hb => hwf b (List.mem_cons_of_mem a hb))
      fun b hb => hkey b (List.mem_cons_of_mem a hb)
    refine ⟨text :: ps, List.Forall₂.cons ?_ hps, ?_⟩
    · exact ha.readsFrom (hwf a List.mem_cons_self) hkeyword.2 fun h => absurd h hkeyword.1
    · rw [words_append has.breaksFront, words_gap_append hgap, hwords, List.flatMap_cons]

theorem SpellsLater.uncommented {as : List Argument} (h : SpellsLater as t)
    (hwf : ∀ a ∈ as, a.WellFormed) (hkey : ∀ a ∈ as, IsIdentifier a.keyword) : Uncommented t := by
  induction h with
  | nil => exact uncommented_of_not_mem (by simp)
  | @cons gap text rest a as hgap hne ha has ih =>
    have hrest := ih (fun b hb => hwf b (List.mem_cons_of_mem a hb))
      fun b hb => hkey b (List.mem_cons_of_mem a hb)
    have htext := ha.uncommented (hwf a List.mem_cons_self) (hkey a List.mem_cons_self).2
    rw [List.append_assoc, uncommented_append_iff_right (hgap.not_mem rfl),
      uncommented_append_of_breaksFront has.breaksFront]
    exact ⟨htext, hrest⟩

theorem SpellsLater.endsInIdentifier_append {as : List Argument} (h : SpellsLater as t)
    (hwf : ∀ a ∈ as, a.WellFormed) {s : Text} (hs : EndsInIdentifier s) :
    EndsInIdentifier (s ++ t) := by
  induction h generalizing s with
  | nil => rwa [List.append_nil]
  | @cons gap text rest a as hgap hne ha has ih =>
    have htext : EndsInIdentifier (s ++ (gap ++ text)) := by
      rw [← List.append_assoc]
      exact (ha.endsInIdentifier (hwf a List.mem_cons_self)).append (s ++ gap)
    rw [← List.append_assoc]
    exact ih (fun b hb => hwf b (List.mem_cons_of_mem a hb)) htext

/-- All arguments but for the gap in front of them. -/
theorem SpellsLater.readArguments_eq {as : List Argument} {text rest : Text}
    (ha : a.Spells text) (has : SpellsLater as rest) (hwf : ∀ b ∈ a :: as, b.WellFormed)
    (hfirst : a.keyword = []) (hlater : ∀ b ∈ as, IsIdentifier b.keyword) :
    readArguments (text ++ rest) = .ok (a :: as) := by
  have hkey : IsKeyword a.keyword := by simp [hfirst, IsKeyword]
  obtain ⟨ps, hps, hwords⟩ :=
    has.exists_pieces (fun b hb => hwf b (List.mem_cons_of_mem a hb)) hlater
  refine readArguments_cons (ha.readsFrom (hwf a List.mem_cons_self) hkey fun _ => rfl) hps ?_
  rw [words_append has.breaksFront, hwords]

theorem SpellsAll.uncommented {as : List Argument} (h : SpellsAll as t)
    (hwf : ∀ a ∈ as, a.WellFormed) (hfirst : ∀ a ∈ as.head?, a.keyword = [])
    (hlater : ∀ a ∈ as.tail, IsIdentifier a.keyword) : Uncommented t := by
  cases h with
  | nil => exact uncommented_of_not_mem (by simp)
  | @cons gap text rest a as hgap ha has =>
    have hkey : IsKeyword a.keyword := by simp [hfirst a rfl, IsKeyword]
    rw [List.append_assoc, uncommented_append_iff_right (hgap.not_mem rfl),
      uncommented_append_of_breaksFront has.breaksFront]
    exact ⟨ha.uncommented (hwf a List.mem_cons_self) hkey,
      has.uncommented (fun b hb => hwf b (List.mem_cons_of_mem a hb)) hlater⟩

theorem SpellsAll.endsCode_append {as : List Argument} (h : SpellsAll as t)
    (hwf : ∀ a ∈ as, a.WellFormed) {s : Text} (hs : EndsCode s) : EndsCode (s ++ t) := by
  cases h with
  | nil => rwa [List.append_nil]
  | @cons gap text rest a as hgap ha has =>
    have htext := ha.endsInIdentifier (hwf a List.mem_cons_self)
    have hall := has.endsInIdentifier_append (fun b hb => hwf b (List.mem_cons_of_mem a hb)) htext
    rw [List.append_assoc, ← List.append_assoc]
    exact hall.endsCode.append (s ++ gap)

end Argument

namespace SpellsEllipsis

variable {isVariadic : Bool} {t ellipsis : Text}

theorem not_mem_slash (h : SpellsEllipsis isVariadic ellipsis) : '/' ∉ ellipsis := by
  cases h with
  | none => simp
  | dots hgap hgap' => simp [hgap.not_mem (c := '/') rfl, hgap'.not_mem (c := '/') rfl]

theorem endsCode_append (h : SpellsEllipsis isVariadic ellipsis) (ht : EndsCode t) :
    EndsCode (t ++ ellipsis) := by
  cases h with
  | none => rwa [List.append_nil]
  | @dots gap gap' hgap hgap' =>
    have hdots : t ++ (gap ++ ',' :: (gap' ++ "...".toList)) =
        t ++ (gap ++ ',' :: (gap' ++ "..".toList)) ++ ['.'] := by simp
    exact ⟨'.', by rw [hdots, List.getLast?_concat], rfl, by decide, by decide⟩

/-- The dots are cut off again. -/
theorem cutEllipsis_append (h : SpellsEllipsis isVariadic ellipsis) (ht : EndsInIdentifier t) :
    cutEllipsis (t ++ ellipsis) = (t, isVariadic) := by
  obtain ⟨c, hc, hid⟩ := ht
  cases h with
  | none =>
    rw [List.append_nil]
    apply cutEllipsis_of_getLast?
    rw [hc]
    exact fun h => ne_of_isIdentifierChar hid isIdentifierChar_dot (Option.some.inj h)
  | dots hgap hgap' =>
    apply cutEllipsis_dots hgap hgap'
    intro d hd
    rw [hc, Option.mem_some_iff] at hd
    exact hd ▸ isBlank_of_isIdentifierChar hid

end SpellsEllipsis

/-- Arguments with dots behind them are a gap and, from the first colon on, the text that is read as
the arguments. -/
theorem Argument.SpellsAll.exists_argumentsText {as : List Argument} {isVariadic : Bool}
    {t ellipsis : Text} (h : SpellsAll as t) (hwf : ∀ a ∈ as, a.WellFormed)
    (hfirst : ∀ a ∈ as.head?, a.keyword = []) (hlater : ∀ a ∈ as.tail, IsIdentifier a.keyword)
    (hellipsis : SpellsEllipsis isVariadic ellipsis) (hvariadic : isVariadic = true → as ≠ []) :
    ∃ back tail text, IsGap back ∧ t ++ ellipsis = back ++ tail ∧ (∀ c ∈ tail.head?, c = ':') ∧
      cutEllipsis (trim tail) = (text, isVariadic) ∧ readArguments text = .ok as := by
  cases h with
  | nil =>
    cases hellipsis with
    | none => exact ⟨[], [], [], by simp [IsGap], rfl, by simp, rfl, readArguments_nil⟩
    | dots => exact absurd rfl (hvariadic rfl)
  | @cons gap text rest a as hgap ha has =>
    have hkey : a.keyword = [] := hfirst a rfl
    have htext := ha.endsInIdentifier (hwf a List.mem_cons_self)
    have hends : EndsInIdentifier (text ++ rest) :=
      has.endsInIdentifier_append (fun b hb => hwf b (List.mem_cons_of_mem a hb)) htext
    have hhead : ∀ c ∈ (text ++ rest ++ ellipsis).head?, c = ':' := by
      obtain ⟨gap, type, gap', -, -, -, rfl⟩ := ha
      simp [hkey]
    have htight : Tight (text ++ rest ++ ellipsis) := by
      constructor
      · intro c hc
        exact hhead c hc ▸ rfl
      · intro c hc
        obtain ⟨d, hd, hblank, -⟩ := hellipsis.endsCode_append hends.endsCode
        rw [hd, Option.mem_some_iff] at hc
        exact hc ▸ hblank
    refine ⟨gap, text ++ rest ++ ellipsis, text ++ rest, hgap, by simp, hhead, ?_, ?_⟩
    · rw [htight.trim_eq, hellipsis.cutEllipsis_append hends]
    · exact SpellsLater.readArguments_eq ha has hwf hkey hlater

namespace Method

variable {m : Method} {code : Text}

theorem WellFormed.isWord_selector (hm : m.WellFormed) : IsWord m.selector :=
  ⟨hm.selector_ne_nil, fun c hc => (hm.selector_plain c hc).1⟩

theorem WellFormed.endsCode_selector (hm : m.WellFormed) : EndsCode m.selector := by
  obtain ⟨c, hc⟩ := Option.isSome_iff_exists.mp (List.getLast?_isSome.mpr hm.selector_ne_nil)
  obtain ⟨hblank, -, hsemicolon, hslash⟩ := hm.selector_plain c (List.mem_of_mem_getLast? hc)
  exact ⟨c, hc, hblank, hslash, hsemicolon⟩

theorem SpellsCode.uncommented (h : m.SpellsCode code) (hm : m.WellFormed) : Uncommented code := by
  obtain ⟨gap, type, gap', arguments, ellipsis, hgap, htype, hgap', hargs, hellipsis, rfl⟩ := h
  have hsign : m.sign ≠ '/' := m.sign_ne (by decide) (by decide)
  have hselector : '/' ∉ gap' ++ m.selector := by
    have hslash : '/' ∉ m.selector := fun hmem => (hm.selector_plain _ hmem).2.2.2 rfl
    simp [hgap'.not_mem (c := '/') rfl, hslash]
  rw [uncommented_cons_of_ne_iff hsign, uncommented_append_iff_right (hgap.not_mem rfl),
    uncommented_cons_of_ne_iff (by decide), uncommented_append_cons_iff (by decide),
    uncommented_append_iff_left hellipsis.not_mem_slash, uncommented_append_iff_right hselector]
  exact ⟨htype.uncommented hm.returnType.uncommented,
    hargs.uncommented hm.arguments hm.first_keyword hm.later_keyword⟩

theorem SpellsCode.endsCode (h : m.SpellsCode code) (hm : m.WellFormed) : EndsCode code := by
  obtain ⟨gap, type, gap', arguments, ellipsis, -, -, -, hargs, hellipsis, rfl⟩ := h
  have hselector := hm.endsCode_selector.append gap'
  have harguments := hargs.endsCode_append hm.arguments hselector
  have hall := (hellipsis.endsCode_append harguments).append
    (m.sign :: (gap ++ '(' :: (type ++ [')'])))
  simpa using hall

/-- The line end behind spelled code is found. -/
theorem SpellsCode.declarationCode_eq {tail : Text} (h : m.SpellsCode code) (hm : m.WellFormed)
    (htail : IsLineEnd tail) : declarationCode (code ++ tail) = code := by
  refine declarationCode_append (h.uncommented hm) (fun c hc => ?_) htail
  obtain ⟨d, hd, hcode⟩ := h.endsCode hm
  rw [hd, Option.mem_some_iff] at hc
  exact hc ▸ hcode

/-- A well-formed method is read from all code that spells it. -/
theorem SpellsCode.readMethod_eq {line : Text} (h : m.SpellsCode code) (hm : m.WellFormed)
    (hcode : declarationCode line = code) : readMethod line = .ok m := by
  obtain ⟨gap, type, gap', arguments, ellipsis, hgap, htype, hgap', hargs, hellipsis, rfl⟩ := h
  obtain ⟨back, tail, text, hback, hsplit, htail, hcut, hread⟩ :=
    hargs.exists_argumentsText hm.arguments hm.first_keyword hm.later_keyword hellipsis hm.variadic
  have hcolon : ':' ∉ m.selector := fun hmem => (hm.selector_plain _ hmem).2.1 rfl
  have hpieces : declarationCode line =
      m.sign :: (gap ++ '(' :: (type ++ ')' :: (gap' ++ m.selector ++ back ++ tail))) := by
    rw [hcode, List.append_assoc (gap' ++ m.selector), hsplit, List.append_assoc _ back]
  refine readMethod_of_pieces hpieces hgap (htype.balanced hm.returnType.balanced)
    (htype.trim_ne_nil hm.returnType_shown hm.returnType.normal)
    (DeclaredType.ofText_of_spells hm.returnType.normal htype) ?_ hm.isWord_selector ?_ htail hcut
    hread
  · simp [hgap'.not_mem (c := ':') rfl, hcolon, hback.not_mem (c := ':') rfl]
  · exact trim_gap_append_gap hgap' hback hm.isWord_selector.tight

end Method

/-- Reading undoes every spelling of a method. -/
theorem readMethod_of_spells {m : Method} {line : Text} (hm : m.WellFormed)
    (hline : m.Spells line) : readMethod line = .ok m := by
  obtain ⟨code, tail, hcode, htail, rfl⟩ := hline
  exact hcode.readMethod_eq hm (hcode.declarationCode_eq hm htail)

theorem readMethod_of_spells_fetch :
    let m : Method := ⟨"fetch".toList, false, ⟨"void".toList, 2⟩,
      [⟨[], ⟨"NSArray <id>".toList, 1⟩, "all".toList⟩,
        ⟨"then".toList, ⟨"void (^)(BOOL)".toList, 0⟩, "done".toList⟩], true⟩
    let line := "- (void * *)fetch :( NSArray  <id>* )all then: (void (^)(BOOL)) done , ... ; // x"
    m.WellFormed ∧ m.Spells line.toList ∧ readMethod line.toList = .ok m := by
  intro m line
  have hm : m.WellFormed := by decide +kernel
  have hid : words "NSArray <id>".toList = ["NSArray".toList, "<id>".toList] := by decide +kernel
  have hblock : words "void (^)(BOOL)".toList = ["void".toList, "(^)(BOOL)".toList] := by
    decide +kernel
  have hreturn : m.returnType.Spells "void * *".toList :=
    ⟨[], "void".toList, " * *".toList, [], isGap_nil, .last _,
      .cons isGap_space (.cons isGap_space .nil), isGap_nil, rfl⟩
  have hall : (Argument.mk [] ⟨"NSArray <id>".toList, 1⟩ "all".toList).Spells
      ":( NSArray  <id>* )all".toList := by
    refine ⟨[], " NSArray  <id>* ".toList, [], isGap_nil, ?_, isGap_nil, rfl⟩
    refine ⟨[' '], "NSArray  <id>".toList, ['*'], [' '], isGap_space, ?_, .cons isGap_nil .nil,
      isGap_space, rfl⟩
    rw [hid]
    exact .cons (show IsGap "  ".toList by decide) (by decide) (.last "<id>".toList)
  have hdone : (Argument.mk "then".toList ⟨"void (^)(BOOL)".toList, 0⟩ "done".toList).Spells
      "then: (void (^)(BOOL)) done".toList := by
    refine ⟨[' '], "void (^)(BOOL)".toList, [' '], isGap_space, ?_, isGap_space, rfl⟩
    refine ⟨[], "void (^)(BOOL)".toList, [], [], isGap_nil, ?_, .nil, isGap_nil, rfl⟩
    rw [hblock]
    exact .cons isGap_space (by simp) (.last "(^)(BOOL)".toList)
  have hcode : m.SpellsCode
      "- (void * *)fetch :( NSArray  <id>* )all then: (void (^)(BOOL)) done , ...".toList :=
    ⟨[' '], _, [], _, _, isGap_space, hreturn, isGap_nil,
      .cons isGap_space hall (.cons isGap_space (by simp) hdone .nil),
      .dots isGap_space isGap_space, rfl⟩
  have hline : m.Spells line.toList :=
    ⟨_, " ; // x".toList, hcode, ⟨[' '], [';'], [' '], "// x".toList, isGap_space, Or.inr rfl,
      isGap_space, Or.inr (by decide), rfl⟩, by decide +kernel⟩
  exact ⟨hm, hline, readMethod_of_spells hm hline⟩

end LogosHooks

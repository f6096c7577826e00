import LogosHooks.Proofs.Declaration.ReadProperty
import LogosHooks.Proofs.Declaration.ReadSpelling

/-!
The lines that declare a property, and what is read from them. A line is read exactly if its code
falls into the marker, attributes, a type and a name; the pieces are what is read. So a property is
read from every line that spells it.
-/
namespace LogosHooks

open Text

/-! ### The name at the end -/

theorem cutLastIdentifier_append {s n : Text} (hs : ¬ EndsInIdentifier s) (hn : IsKeyword n) :
    cutLastIdentifier (s ++ n) = (s, n) := by
  have hrev : ∀ c ∈ n.reverse, isIdentifierChar c = true := fun c hc =>
    hn c (List.mem_reverse.mp hc)
  have hstop : ∀ c ∈ s.reverse.head?, isIdentifierChar c = false := by
    intro c hc
    rw [List.head?_reverse] at hc
    by_contra hid
    exact hs ⟨c, hc, by simpa using hid⟩
  have hdrop : s.reverse.dropWhile isIdentifierChar = s.reverse := by
    cases h : s.reverse with
    | nil => rfl
    | cons c rest => exact List.dropWhile_cons_of_neg (by simp [hstop c (by rw [h]; rfl)])
  have htake : s.reverse.takeWhile isIdentifierChar = [] := by
    cases h : s.reverse with
    | nil => rfl
    | cons c rest => exact List.takeWhile_cons_of_neg (by simp [hstop c (by rw [h]; rfl)])
  rw [cutLastIdentifier, List.reverse_append, List.dropWhile_append_of_pos hrev, hdrop,
    List.takeWhile_append_of_pos hrev, htake, List.append_nil, List.reverse_reverse,
    List.reverse_reverse]

theorem append_cutLastIdentifier (t : Text) :
    (cutLastIdentifier t).1 ++ (cutLastIdentifier t).2 = t := by
  rw [cutLastIdentifier, ← List.reverse_append, List.takeWhile_append_dropWhile,
    List.reverse_reverse]

theorem not_endsInIdentifier_cutLastIdentifier (t : Text) :
    ¬ EndsInIdentifier (cutLastIdentifier t).1 := by
  rintro ⟨c, hc, hid⟩
  have hstop := List.head?_dropWhile_not isIdentifierChar t.reverse
  rw [cutLastIdentifier, List.getLast?_reverse] at hc
  rw [hc] at hstop
  simp [hid] at hstop

/-! ### The pieces of the code -/

/-- Attributes in front of a type: a balanced text in parentheses. Where there are none, the type
cannot begin with a parenthesis. -/
def SpellsAttributes (attributes type : Text) : Prop :=
  attributes = [] ∧ type.head? ≠ some '(' ∨
    ∃ inside, Balanced inside ∧ attributes = '(' :: inside ++ [')']

/-- The code behind the marker is attributes, the type and the name, with gaps in front of each of
them. No identifier character stands in front of the name. -/
def PropertyParts.CutFrom (parts : PropertyParts) (code : Text) : Prop :=
  ∃ front attributes back gap, IsGap front ∧ SpellsAttributes attributes parts.typeText ∧
    IsGap back ∧ Tight parts.typeText ∧ parts.typeText ≠ [] ∧ IsGap gap ∧ IsIdentifier parts.name ∧
    ¬ EndsInIdentifier (parts.typeText ++ gap) ∧
    code = front ++ attributes ++ (back ++ (parts.typeText ++ gap ++ parts.name))

theorem PropertyParts.ofText_append {back typeText gap name : Text} (hback : IsGap back)
    (htight : Tight typeText) (hne : typeText ≠ []) (hgap : IsGap gap) (hname : IsIdentifier name)
    (hlast : ¬ EndsInIdentifier (typeText ++ gap)) :
    PropertyParts.ofText (back ++ (typeText ++ gap ++ name)) = .ok ⟨typeText, name⟩ := by
  have hwhole : Tight (typeText ++ gap ++ name) := by
    constructor
    · intro c hc
      obtain ⟨d, rest, rfl⟩ := List.exists_cons_of_ne_nil hne
      exact htight.1 c hc
    · intro c hc
      obtain ⟨d, hd, hid⟩ := hname.endsInIdentifier.append (typeText ++ gap)
      rw [hd, Option.mem_some_iff] at hc
      exact hc ▸ isBlank_of_isIdentifierChar hid
  have htrim : trim (back ++ (typeText ++ gap ++ name)) = typeText ++ gap ++ name := by
    have h := trim_gap_append_gap hback isGap_nil hwhole
    rwa [List.append_nil] at h
  have htype : trim (typeText ++ gap) = typeText := trim_gap_append_gap isGap_nil hgap htight
  rw [PropertyParts.ofText_eq_ok_iff, htrim, cutLastIdentifier_append hlast hname.2]
  exact ⟨rfl, hname.1, htype.symm, hne⟩

/-- What is read from a text without blanks at its end is the whole text. -/
theorem PropertyParts.exists_cut_of_ofText {t : Text} {parts : PropertyParts}
    (h : PropertyParts.ofText t = .ok parts) (hlast : ∀ c ∈ t.getLast?, isBlank c = false) :
    ∃ back gap, IsGap back ∧ Tight parts.typeText ∧ parts.typeText ≠ [] ∧ IsGap gap ∧
      IsIdentifier parts.name ∧ ¬ EndsInIdentifier (parts.typeText ++ gap) ∧
      t = back ++ (parts.typeText ++ gap ++ parts.name) := by
  obtain ⟨hname, hname_ne, htype, htype_ne⟩ := PropertyParts.ofText_eq_ok_iff.mp h
  obtain ⟨front, back, hfront, hback, ht, -⟩ := exists_gaps_trim t
  obtain ⟨front', gap, hfront', hgap, hcut, htight⟩ :=
    exists_gaps_trim (cutLastIdentifier (trim t)).1
  rw [← htype] at hcut htight
  have hend : back = [] := hback.eq_nil fun c hc => by
    apply hlast c
    rw [ht]
    exact List.mem_getLast?_append_of_mem_getLast? hc
  have hstop : ¬ EndsInIdentifier (parts.typeText ++ gap) := by
    intro hid
    apply not_endsInIdentifier_cutLastIdentifier (trim t)
    rw [hcut, List.append_assoc]
    exact hid.append front'
  refine ⟨front ++ front', gap, hfront.append hfront', htight, htype_ne, hgap, ⟨hname_ne, ?_⟩,
    hstop, ?_⟩
  · exact hname ▸ isKeyword_cutLastIdentifier _
  · rw [ht, hend, List.append_nil, ← append_cutLastIdentifier (trim t), ← hname, hcut]
    simp only [List.append_assoc]

theorem dropAttributes_eq_ok_iff {t behind : Text} :
    dropAttributes t = .ok behind ↔
      ∃ attributes, SpellsAttributes attributes behind ∧ t = attributes ++ behind := by
  unfold dropAttributes
  constructor
  · intro h
    split at h
    · cases hpar : parenthesized? t with
      | none =>
        rw [hpar] at h
        cases h
      | some pair =>
        rw [hpar] at h
        cases h
        obtain ⟨hsplit, hbalanced⟩ := parenthesized?_eq_some_iff.mp hpar
        exact ⟨_, Or.inr ⟨pair.1, hbalanced, rfl⟩, by rw [hsplit]; simp⟩
    · next hopen =>
      cases h
      exact ⟨[], Or.inl ⟨rfl, by simpa using hopen⟩, rfl⟩
  · rintro ⟨attributes, ⟨rfl, hhead⟩ | ⟨inside, hbalanced, rfl⟩, rfl⟩
    · have hopen : (t.head? == some '(') = false := by simpa using hhead
      rw [hopen]
      rfl
    · have hpar := parenthesized?_eq_some_iff.mpr
        ⟨(rfl : '(' :: inside ++ ')' :: behind = _), hbalanced⟩
      rw [List.append_assoc, List.singleton_append, hpar]
      rfl

theorem isBlank_getLast?_declarationCode (line : Text) :
    ∀ c ∈ (declarationCode line).getLast?, isBlank c = false :=
  isBlank_getLast?_trimRight _

theorem trimLeft_append_of_tight {gap t : Text} (hgap : IsGap gap) (ht : Tight t) (hne : t ≠ [])
    (rest : Text) : trimLeft (gap ++ (t ++ rest)) = t ++ rest := by
  obtain ⟨c, s, rfl⟩ := List.exists_cons_of_ne_nil hne
  rw [trimLeft_gap_append hgap]
  exact trimLeft_eq_self ht.1

/-- A line is read as a property exactly if its code falls into pieces. -/
theorem readPropertyParts_eq_ok_iff {line : Text} {parts : PropertyParts} :
    readPropertyParts line = .ok parts ↔
      parts.CutFrom ((declarationCode line).drop propertyMarker.length) := by
  rw [readPropertyParts_eq, bind_eq_ok_iff]
  have hlast : ∀ c ∈ ((declarationCode line).drop propertyMarker.length).getLast?,
      isBlank c = false := by
    intro c hc
    apply isBlank_getLast?_declarationCode line
    rw [← List.take_append_drop propertyMarker.length (declarationCode line)]
    exact List.mem_getLast?_append_of_mem_getLast? hc
  generalize (declarationCode line).drop propertyMarker.length = code at hlast
  constructor
  · rintro ⟨behind, hattributes, hparts⟩
    obtain ⟨front, hfront, hcode⟩ := exists_gap_append_trimLeft code
    obtain ⟨attributes, hspells, hsplit⟩ := dropAttributes_eq_ok_iff.mp hattributes
    rw [hsplit, ← List.append_assoc] at hcode
    obtain ⟨back, gap, hback, htight, hne, hgap, hname, hstop, rfl⟩ :=
      PropertyParts.exists_cut_of_ofText hparts fun c hc => hlast c <| by
        rw [hcode]
        exact List.mem_getLast?_append_of_mem_getLast? hc
    refine ⟨front, attributes, back, gap, hfront, ?_, hback, htight, hne, hgap, hname, hstop,
      hcode⟩
    refine hspells.imp_left fun ⟨hnone, hhead⟩ => ⟨hnone, ?_⟩
    -- blanks were cut off already, so the type comes first
    have hfirst := trimLeft_eq_self (isBlank_head?_trimLeft code)
    rw [hsplit, hnone, List.nil_append, List.append_assoc parts.typeText,
      trimLeft_append_of_tight hback htight hne] at hfirst
    rwa [List.append_assoc, ← hfirst, List.head?_append_of_ne_nil _ hne] at hhead
  · rintro ⟨front, attributes, back, gap, hfront, hattributes, hback, htight, hne, hgap, hname,
      hstop, rfl⟩
    rcases hattributes with ⟨rfl, hhead⟩ | ⟨inside, hbalanced, rfl⟩
    · have hread := PropertyParts.ofText_append isGap_nil htight hne hgap hname hstop
      rw [List.nil_append] at hread
      refine ⟨parts.typeText ++ gap ++ parts.name, dropAttributes_eq_ok_iff.mpr ⟨[], ?_, ?_⟩,
        hread⟩
      · refine Or.inl ⟨rfl, ?_⟩
        rwa [List.append_assoc, List.head?_append_of_ne_nil _ hne]
      · rw [List.append_nil, ← List.append_assoc front, List.append_assoc parts.typeText,
          trimLeft_append_of_tight (hfront.append hback) htight hne, List.nil_append]
    · refine ⟨back ++ (parts.typeText ++ gap ++ parts.name),
        dropAttributes_eq_ok_iff.mpr ⟨_, Or.inr ⟨inside, hbalanced, rfl⟩, ?_⟩,
        PropertyParts.ofText_append hback htight hne hgap hname hstop⟩
      rw [List.append_assoc, trimLeft_gap_append hfront]
      exact trimLeft_eq_self fun c hc => (Option.mem_some_iff.mp hc) ▸ rfl

/-! ### Spelled properties -/

namespace Property

/-- A property that some line declares. -/
structure Declarable (p : Property) : Prop where
  name : IsIdentifier p.name
  type : p.type.IsNormal
  type_shown : p.type.display ≠ []
  uncommented : Uncommented p.type.display

instance (p : Property) : Decidable p.Declarable :=
  decidable_of_iff
    (IsIdentifier p.name ∧ p.type.IsNormal ∧ p.type.display ≠ [] ∧ Uncommented p.type.display)
    ⟨fun ⟨h₁, h₂, h₃, h₄⟩ => ⟨h₁, h₂, h₃, h₄⟩, fun ⟨h₁, h₂, h₃, h₄⟩ => ⟨h₁, h₂, h₃, h₄⟩⟩

def Spells (p : Property) (line : Text) : Prop :=
  ∃ gap attributes type tail, IsGap gap ∧ SpellsAttributes attributes p.type.display ∧
    Uncommented attributes ∧ p.type.Spells type ∧ ¬ EndsInIdentifier type ∧ IsLineEnd tail ∧
    line = propertyMarker ++ (gap ++ attributes ++ (type ++ p.name)) ++ tail

end Property

theorem Text.SpellsWords.cases_front {ws : List Text} {t : Text} (h : SpellsWords ws t)
    (hws : ∀ w ∈ ws, IsWord w) :
    (ws = [] ∧ t = []) ∨
      ∃ c rest rest', isBlank c = false ∧ t = c :: rest ∧ unwords ws = c :: rest' := by
  cases h with
  | nil => exact Or.inl ⟨rfl, rfl⟩
  | last =>
    have ht := hws t List.mem_cons_self
    obtain ⟨c, rest, rfl⟩ := List.exists_cons_of_ne_nil ht.1
    exact Or.inr ⟨c, rest, rest, ht.2 c List.mem_cons_self, rfl, unwords_singleton _⟩
  | @cons w gap v rest ws hgap hne hrest =>
    have hw := hws w List.mem_cons_self
    obtain ⟨c, s, rfl⟩ := List.exists_cons_of_ne_nil hw.1
    refine Or.inr ⟨c, s ++ gap ++ rest, s ++ ' ' :: unwords (v :: ws),
      hw.2 c List.mem_cons_self, rfl, ?_⟩
    rw [unwords_cons (by simp), List.cons_append]

/-- A spelling begins with the first character of the name, unless it is all stars. -/
theorem DeclaredType.Spells.cases_front {ty : DeclaredType} {t : Text} (h : ty.Spells t)
    (hty : ty.IsNormal) :
    IsStarTail t ∨ ∃ c rest rest', trim t = c :: rest ∧ ty.name = c :: rest' := by
  obtain ⟨front, name, stars, back, hfront, hname, hstars, hback, rfl⟩ := h
  rcases hname.cases_front fun _ => isWord_of_mem_words with
    ⟨-, rfl⟩ | ⟨c, rest, rest', hblank, rfl, hwords⟩
  · left
    rw [List.append_nil]
    intro d hd
    rcases List.mem_append.mp hd with hd | hd
    · rcases List.mem_append.mp hd with hd | hd
      · exact Or.inr (hfront d hd)
      · exact hstars.isStarTail.1 d hd
    · exact Or.inr (hback d hd)
  · right
    obtain ⟨more, hmore⟩ := exists_trim_cons hblank (rest ++ stars ++ back)
    refine ⟨c, more, rest', ?_, hty.1.symm.trans hwords⟩
    rw [List.append_assoc, List.append_assoc, trim, trimLeft_gap_append hfront, ← trim, ← hmore]
    simp only [List.cons_append, List.append_assoc]

theorem DeclaredType.Spells.head?_trim {ty : DeclaredType} {t : Text} (h : ty.Spells t)
    (hty : ty.IsNormal) (hhead : ty.display.head? ≠ some '(') : (trim t).head? ≠ some '(' := by
  rcases h.cases_front hty with hstars | ⟨c, rest, rest', htrim, hname⟩
  · intro hparen
    have hmem : '(' ∈ t := mem_of_mem_trim (List.mem_of_mem_head? hparen)
    exact hstars.not_mem (by decide) rfl hmem
  · rw [htrim]
    rw [DeclaredType.display, hname] at hhead
    exact hhead

namespace Property

variable {p : Property} {line : Text}

theorem Declarable.shown (hp : p.Declarable) : p.type.name ≠ [] ∨ p.type.isPointer = true := by
  have hdisplay := hp.type_shown
  unfold DeclaredType.display at hdisplay
  by_contra hnone
  rw [not_or, not_not] at hnone
  rw [hnone.1, if_neg hnone.2] at hdisplay
  exact hdisplay rfl

/-- Behind the attributes, a comment can only be in the type. -/
theorem uncommented_attributes_append {attributes type t : Text}
    (h : SpellsAttributes attributes type) (hattributes : Uncommented attributes)
    (ht : Uncommented t) : Uncommented (attributes ++ t) := by
  rcases h with ⟨rfl, -⟩ | ⟨inside, -, rfl⟩
  · exact ht
  · have hfront : Uncommented ('(' :: inside) :=
      hattributes.mono (List.prefix_append ('(' :: inside) [')']).isInfix
    rw [List.append_assoc, List.singleton_append, uncommented_append_cons_iff (by decide)]
    exact ⟨hfront, ht⟩

/-- The code of a line that spells a property, cut into pieces. -/
theorem Spells.exists_cut (h : p.Spells line) (hp : p.Declarable) :
    ∃ parts : PropertyParts, parts.CutFrom ((declarationCode line).drop propertyMarker.length) ∧
      parts.name = p.name ∧ DeclaredType.ofText parts.typeText = p.type := by
  obtain ⟨gap, attributes, type, tail, hgap, hattributes, huncommented, htype, hstop, htail,
    rfl⟩ := h
  have hname : '/' ∉ p.name := hp.name.2.not_mem isIdentifierChar_slash
  have htypename : Uncommented p.type.name :=
    hp.uncommented.mono (List.prefix_append p.type.name _).isInfix
  have hcode : Uncommented (propertyMarker ++ (gap ++ attributes ++ (type ++ p.name))) := by
    rw [uncommented_append_iff_right (by decide), List.append_assoc,
      uncommented_append_iff_right (hgap.not_mem rfl)]
    apply uncommented_attributes_append hattributes huncommented
    exact (uncommented_append_iff_left hname).mpr (htype.uncommented htypename)
  have hends : EndsInIdentifier (propertyMarker ++ (gap ++ attributes ++ (type ++ p.name))) :=
    ((hp.name.endsInIdentifier.append type).append (gap ++ attributes)).append propertyMarker
  obtain ⟨c, hc, hends⟩ := hends.endsCode
  have hcut := declarationCode_append hcode (fun d hd => by
    rw [hc, Option.mem_some_iff] at hd
    exact hd ▸ hends) htail
  obtain ⟨front, back, hfront, hback, hsplit, htight⟩ := exists_gaps_trim type
  refine ⟨⟨trim type, p.name⟩, ?_, rfl, ?_⟩
  · rw [hcut, List.drop_left]
    refine ⟨gap, attributes, front, back, hgap, ?_, hfront, htight,
      htype.trim_ne_nil hp.shown hp.type, hback, hp.name, ?_, ?_⟩
    · exact hattributes.imp_left fun ⟨hnone, hhead⟩ => ⟨hnone, htype.head?_trim hp.type hhead⟩
    · intro hid
      apply hstop
      rw [hsplit, List.append_assoc]
      exact hid.append front
    · conv_lhs => rw [hsplit]
      simp only [List.append_assoc]
  · change DeclaredType.ofText (trim type) = p.type
    rw [DeclaredType.ofText_trim, DeclaredType.ofText_of_spells hp.type htype]

end Property

/-- No longer run of identifier characters ends the code than the name. -/
theorem PropertyParts.CutFrom.suffix_name {parts : PropertyParts} {code : Text}
    (h : parts.CutFrom code) (marker : Text) : parts.name <:+ marker ++ code ∧
      ∀ run, IsKeyword run → run <:+ marker ++ code → run <:+ parts.name := by
  obtain ⟨front, attributes, back, gap, -, -, -, -, hne, -, -, hstop, rfl⟩ := h
  have hassoc : marker ++ (front ++ attributes ++ (back ++ (parts.typeText ++ gap ++ parts.name))) =
      (marker ++ (front ++ attributes ++ back)) ++ (parts.typeText ++ gap) ++ parts.name := by
    simp only [List.append_assoc]
  rw [hassoc]
  refine ⟨List.suffix_append _ _, fun run hrun hsuffix => ?_⟩
  rcases List.suffix_or_suffix_of_suffix hsuffix (List.suffix_append _ parts.name) with
    hle | ⟨more, rfl⟩
  · exact hle
  · -- the run would take in the character in front of the name
    have hmore : more <:+ marker ++ (front ++ attributes ++ back) ++ (parts.typeText ++ gap) := by
      obtain ⟨s, hs⟩ := hsuffix
      rw [← List.append_assoc] at hs
      exact ⟨s, List.append_cancel_right hs⟩
    rcases List.eq_nil_or_concat more with rfl | ⟨init, c, rfl⟩
    · exact List.suffix_refl _
    · rw [List.concat_eq_append] at hmore hrun ⊢
      have hc : isIdentifierChar c = true := hrun c (by simp)
      obtain ⟨s, hs⟩ := hmore
      have hlast := congrArg List.getLast? hs
      rw [← List.append_assoc, List.getLast?_concat,
        List.getLast?_append_of_ne_nil _ (by simp [hne])] at hlast
      exact absurd ⟨c, hlast.symm, hc⟩ hstop

/-- A property is read from every line that spells it. And whenever a line is read as a property,
its code behind the marker is attributes, the type and the name, and the name is the longest run of
identifier characters at the end of the code. -/
theorem readPropertyParts_of_spells :
    (∀ (p : Property) (line : Text), p.Declarable → p.Spells line →
      ∃ parts, readPropertyParts line = .ok parts ∧ parts.name = p.name ∧
        DeclaredType.ofText parts.typeText = p.type) ∧
    ∀ (line : Text) (parts : PropertyParts), readPropertyParts line = .ok parts →
      parts.CutFrom ((declarationCode line).drop propertyMarker.length) ∧
      parts.name <:+ declarationCode line ∧
      ∀ run, IsKeyword run → run <:+ declarationCode line → run <:+ parts.name := by
  constructor
  · intro p line hp hline
    obtain ⟨parts, hcut, hname, htype⟩ := hline.exists_cut hp
    exact ⟨parts, readPropertyParts_eq_ok_iff.mpr hcut, hname, htype⟩
  · intro line parts h
    have hcut := readPropertyParts_eq_ok_iff.mp h
    have hlongest := hcut.suffix_name ((declarationCode line).take propertyMarker.length)
    rw [List.take_append_drop] at hlongest
    exact ⟨hcut, hlongest⟩

theorem readPropertyParts_of_spells_tint :
    let p : Property := ⟨"tint".toList, ⟨"unsigned char".toList, 2⟩⟩
    let line := "@property (copy(x), weak)unsigned  char * *tint ; // old".toList
    let parts : PropertyParts := ⟨"unsigned  char * *".toList, "tint".toList⟩
    (p.Declarable ∧ p.Spells line ∧ ∃ parts, readPropertyParts line = .ok parts ∧
      parts.name = p.name ∧ DeclaredType.ofText parts.typeText = p.type) ∧
    readPropertyParts line = .ok parts ∧
      parts.CutFrom ((declarationCode line).drop propertyMarker.length) ∧
      parts.name <:+ declarationCode line ∧
      ∀ run, IsKeyword run → run <:+ declarationCode line → run <:+ parts.name := by
  intro p line parts
  have hp : p.Declarable := by decide +kernel
  have hwords : words "unsigned char".toList = ["unsigned".toList, "char".toList] := by
    decide +kernel
  have htype : p.type.Spells "unsigned  char * *".toList := by
    refine ⟨[], "unsigned  char".toList, " * *".toList, [], isGap_nil, ?_,
      .cons isGap_space (.cons isGap_space .nil), isGap_nil, rfl⟩
    rw [hwords]
    exact .cons (show IsGap "  ".toList by decide) (by decide) (.last "char".toList)
  have hattributes : SpellsAttributes "(copy(x), weak)".toList p.type.display :=
    Or.inr ⟨"copy(x), weak".toList, by decide +kernel, rfl⟩
  have hstop : ¬ EndsInIdentifier "unsigned  char * *".toList := by
    rintro ⟨c, hc, hid⟩
    cases hc
    exact absurd hid (by decide +kernel)
  have htail : IsLineEnd " ; // old".toList :=
    ⟨[' '], [';'], [' '], "// old".toList, isGap_space, Or.inr rfl, isGap_space,
      Or.inr (by decide), rfl⟩
  have hline : p.Spells line :=
    ⟨[' '], _, _, _, isGap_space, hattributes, by decide, htype, hstop, htail, rfl⟩
  have hparts : readPropertyParts line = .ok parts := by decide +kernel
  exact ⟨⟨hp, hline, readPropertyParts_of_spells.1 p line hp hline⟩, hparts,
    readPropertyParts_of_spells.2 line parts hparts⟩

end LogosHooks

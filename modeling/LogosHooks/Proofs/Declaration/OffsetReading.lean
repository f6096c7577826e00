import LogosHooks.Proofs.Declaration.PropertySpelling
import LogosHooks.Proofs.Text.Offsets

/-!
Declarations that are read by cutting texts at byte offsets, as a program does whose strings are
bytes. The readings here take the same steps as those that go from character to character, but each
cut is made at an offset that was searched for, and nothing comes out if it lies behind the end of
the text or within a character. They always come to the same: no offset is ever out of place.
-/
namespace LogosHooks

open Text

/-! ### The last identifier -/

def lastIdentifierOffset (t : Text) : Nat :=
  let atEnd := (charOffsets 0 t).reverse.takeWhile fun place => isIdentifierChar place.2
  (atEnd.getLast?.map Prod.fst).getD (byteLength t)

def cutLastIdentifierAt? (t : Text) : Option (Text × Text) := cutAt? (lastIdentifierOffset t) t

/-- The characters at the end, with their offsets, are those of the identifier. -/
theorem takeWhile_charOffsets (t : Text) :
    (charOffsets 0 t).reverse.takeWhile (fun place => isIdentifierChar place.2) =
      (charOffsets (byteLength (cutLastIdentifier t).1) (cutLastIdentifier t).2).reverse := by
  have hsplit := append_cutLastIdentifier t
  have hname := isKeyword_cutLastIdentifier t
  have hstop := not_endsInIdentifier_cutLastIdentifier t
  generalize (cutLastIdentifier t).1 = front at hsplit hstop ⊢
  generalize (cutLastIdentifier t).2 = name at hsplit hname ⊢
  subst hsplit
  have hkeep : ∀ place ∈ (charOffsets (byteLength front) name).reverse,
      isIdentifierChar place.2 = true := by
    intro place hplace
    apply hname
    rw [← map_snd_charOffsets (byteLength front) name]
    exact List.mem_map_of_mem (List.mem_reverse.mp hplace)
  -- the character in front of the identifier stops the search
  have hfront : (charOffsets 0 front).reverse.takeWhile
      (fun place => isIdentifierChar place.2) = [] := by
    rcases List.eq_nil_or_concat front with rfl | ⟨init, c, rfl⟩
    · rfl
    · have hc : isIdentifierChar c = false := by
        by_contra hid
        exact hstop ⟨c, by simp, by simpa using hid⟩
      simp [charOffsets_append, charOffsets, hc]
  rw [charOffsets_append, List.reverse_append, Nat.zero_add, List.takeWhile_append_of_pos hkeep,
    hfront, List.append_nil]

theorem lastIdentifierOffset_eq (t : Text) :
    lastIdentifierOffset t = byteLength (cutLastIdentifier t).1 := by
  have hlength := congrArg byteLength (append_cutLastIdentifier t)
  rw [lastIdentifierOffset, takeWhile_charOffsets, List.getLast?_reverse]
  cases hname : (cutLastIdentifier t).2 with
  | nil =>
    rw [hname, List.append_nil] at hlength
    exact hlength.symm
  | cons c name => rfl

theorem cutLastIdentifierAt?_eq (t : Text) :
    cutLastIdentifierAt? t = some (cutLastIdentifier t) :=
  cutAt?_eq_some_iff.mpr ⟨append_cutLastIdentifier t, (lastIdentifierOffset_eq t).symm⟩

/-! ### Reading -/

/-- A reading that cuts texts at byte offsets. Nothing comes out of it if an offset is no good. -/
abbrev Cutting := ExceptT LineFault Option

def declarationCodeAt? (line : Text) : Option Text := do
  let code := trimRight (← beforeAt? "//".toList line)
  return trimRight ((cutSuffix? [';'] code).getD code)

def readClassNameAt (line : Text) : Cutting Text := do
  let rest ← behindAt? (byteLength classMarker) line
  unless rest.head?.all isBlank do throw (.badDeclaration .interfaceRunsOn)
  let word := (words rest).headD []
  let (name, _) ← spanAt? (fun c => c != '(' && c != ':' && c != '<') word
  if name.isEmpty then throw (.badDeclaration .interfaceUnnamed)
  return name

def readMethodPartsAt (line : Text) : Cutting MethodParts := do
  let code ← declarationCodeAt? line
  let rest := trimLeft (← behindAt? 1 code)
  unless rest.head? == some '(' do throw (.badDeclaration .noReturnType)
  let some (inside, behind) ← parenthesizedAt? rest | throw .openParenthesis
  let returnText := trim inside
  if returnText.isEmpty then throw (.badDeclaration .emptyReturnType)
  let (front, tail) ← spanAt? (· != ':') behind
  let selector := trim front
  if selector.isEmpty then throw (.badDeclaration .noSelector)
  if hasBlank selector then throw (.badDeclaration (.selectorSplit selector))
  let (argumentsText, isVariadic) := cutEllipsis (trim tail)
  return ⟨code.head? == some '+', returnText, selector, argumentsText, isVariadic⟩

def dropAttributesAt (t : Text) : Cutting Text :=
  if t.head? == some '(' then do
    let some (_, behind) ← parenthesizedAt? t | throw .openParenthesis
    return behind
  else return t

def PropertyParts.ofTextAt (t : Text) : Cutting PropertyParts := do
  let (typeText, name) ← cutLastIdentifierAt? (trim t)
  let typeText := trim typeText
  if name.isEmpty then throw (.badDeclaration .propertyUnnamed)
  if typeText.isEmpty then throw (.badDeclaration (.propertyUntyped name))
  return ⟨typeText, name⟩

def readPropertyPartsAt (line : Text) : Cutting PropertyParts := do
  let code ← declarationCodeAt? line
  let rest ← dropAttributesAt (trimLeft (← behindAt? (byteLength propertyMarker) code))
  PropertyParts.ofTextAt rest

def Line.readAt (line : Text) : Cutting Line :=
  if isClassLine line then .classStart <$> readClassNameAt line
  else if isPropertyLine line then .property <$> readPropertyPartsAt line
  else if isMethodLine line then .method <$> readMethodPartsAt line
  else return .other

def Argument.ofSegmentAt (first : Bool) (segment : Text) : Cutting Argument := do
  let malformed : LineFault := .badArgument segment
  let some (front, behind) ← cutOnceAt? ':' segment | throw malformed
  let keyword := trim front
  if keyword.isEmpty && !first then throw malformed
  unless keyword.all isIdentifierChar do throw malformed
  let some (inside, name) ← parenthesizedAt? (trimLeft behind) | throw malformed
  let type := DeclaredType.ofText inside
  if type.name.isEmpty then throw malformed
  let name := trim name
  if name.isEmpty || hasBlank name then throw malformed
  return ⟨keyword, type, name⟩

def Argument.ofSegmentsAt : List Text → Cutting (List Argument)
  | [] => return []
  | head :: later => do
    let head ← ofSegmentAt true head
    return head :: (← later.mapM (ofSegmentAt false))

def readArgumentsAt (t : Text) : Cutting (List Argument) := do
  Argument.ofSegmentsAt (← segments t)

/-! ### Markers -/

theorem before_append_of_not_mem {s : Text} (hs : '/' ∉ s) (t : Text) :
    before "//".toList (s ++ t) = s ++ before "//".toList t := by
  induction s with
  | nil => rfl
  | cons c s ih =>
    rw [List.mem_cons, not_or] at hs
    have hfront : "//".toList.isPrefixOf (c :: (s ++ t)) = false := by
      simpa [List.isPrefixOf] using fun h => absurd h hs.1
    rw [List.cons_append, before, hfront, ih hs.2]
    rfl

theorem prefix_trimRight {s t : Text} (hs : ∀ c ∈ s.getLast?, isBlank c = false) (h : s <+: t) :
    s <+: trimRight t := by
  obtain ⟨gap, hgap, ht⟩ := exists_trimRight_append_gap t
  rw [ht] at h
  rcases List.prefix_or_prefix_of_prefix h (List.prefix_append (trimRight t) gap) with
    hle | ⟨more, rfl⟩
  · exact hle
  · -- what the text has beyond its trimmed front is blank
    have hmore : more <+: gap := (List.prefix_append_right_inj (trimRight t)).mp h
    rcases List.eq_nil_or_concat more with rfl | ⟨init, c, rfl⟩
    · simp
    · have hc := hs c (by simp)
      rw [hgap c (hmore.subset (by simp))] at hc
      cases hc

/-- A marker without slashes that ends in no blank and no semicolon is kept. -/
theorem prefix_declarationCode {marker line : Text} (hslash : '/' ∉ marker)
    (hlast : ∀ c ∈ marker.getLast?, isBlank c = false ∧ c ≠ ';') (h : marker <+: line) :
    marker <+: declarationCode line := by
  have hblank : ∀ c ∈ marker.getLast?, isBlank c = false := fun c hc => (hlast c hc).1
  obtain ⟨rest, rfl⟩ := h
  have hbefore : marker <+: trimRight (before "//".toList (marker ++ rest)) := by
    apply prefix_trimRight hblank
    rw [before_append_of_not_mem hslash]
    exact List.prefix_append _ _
  apply prefix_trimRight hblank
  cases hcut : cutSuffix? [';'] (trimRight (before "//".toList (marker ++ rest))) with
  | none => exact hbefore
  | some front =>
    rw [← cutSuffix?_eq_some_iff.mp hcut, List.prefix_concat_iff] at hbefore
    rcases hbefore with rfl | hfront
    · exact absurd rfl (hlast ';' (by simp)).2
    · exact hfront

/-- The markers are such, and so their lines begin with them in code as well. -/
theorem marker_prefix_declarationCode {marker line : Text}
    (hmarker : marker ∈ [classMarker, propertyMarker, ['+'], ['-']]) (h : marker <+: line) :
    marker <+: declarationCode line := by
  have hplain : '/' ∉ marker ∧ ∀ c ∈ marker.getLast?, isBlank c = false ∧ c ≠ ';' := by
    simp only [List.mem_cons, List.not_mem_nil, or_false] at hmarker
    rcases hmarker with rfl | rfl | rfl | rfl
    all_goals
      refine ⟨by decide, ?_⟩
      rintro c ⟨⟩
      decide
  exact prefix_declarationCode hplain.1 hplain.2 h

theorem behindAt?_marker {marker t : Text} (h : marker <+: t) :
    behindAt? (byteLength marker) t = some (t.drop marker.length) := by
  obtain ⟨rest, rfl⟩ := h
  rw [List.drop_left]
  exact behindAt?_eq marker rest rfl rfl

/-! ### No offset is out of place -/

namespace Cutting

variable {α β : Type}

/-- No offset is out of place in the reading, and it comes to the same as the other one. -/
def Gives (x : Cutting α) (e : Except LineFault α) : Prop := x.run = some e

theorem liftM_some_bind (a : α) (f : α → Cutting β) :
    (liftM (some a) >>= f : Cutting β) = f a := rfl

theorem gives_lift (e : Except LineFault α) : Gives (liftM e) e := by
  cases e <;> rfl

theorem Gives.bind {x : Cutting α} {e : Except LineFault α} (hx : x.Gives e)
    {f : α → Cutting β} {g : α → Except LineFault β} (hf : ∀ a, (f a).Gives (g a)) :
    (x >>= f).Gives (e >>= g) := by
  rw [Gives, ExceptT.run_bind, hx]
  cases e with
  | error fault => rfl
  | ok a => exact hf a

theorem Gives.map {x : Cutting α} {e : Except LineFault α} (hx : x.Gives e) (f : α → β) :
    (f <$> x).Gives (f <$> e) := by
  rw [Gives, ExceptT.run_map, hx]
  cases e <;> rfl

theorem Gives.mapM {f : α → Cutting β} {g : α → Except LineFault β}
    (h : ∀ a, (f a).Gives (g a)) (xs : List α) : (xs.mapM f).Gives (xs.mapM g) := by
  induction xs with
  | nil => rfl
  | cons x xs ih =>
    rw [List.mapM_cons, List.mapM_cons]
    exact (h x).bind fun y => ih.bind fun ys => rfl

end Cutting

open Cutting

theorem declarationCodeAt?_eq (line : Text) :
    declarationCodeAt? line = some (declarationCode line) := by
  rw [declarationCodeAt?, beforeAt?_eq]
  rfl

theorem gives_readClassNameAt {line : Text} (h : isClassLine line = true) :
    (readClassNameAt line).Gives (readClassName line) := by
  have hmarker := behindAt?_marker (List.isPrefixOf_iff_prefix.mp h)
  unfold readClassNameAt readClassName
  simp only [hmarker, spanAt?_eq, liftM_some_bind]
  split
  · split
    · rfl
    · rfl
  · rfl

/-- The sign of a method is one byte, and the code begins with it. -/
theorem behindAt?_sign {line : Text} (h : isMethodLine line = true) :
    behindAt? 1 (declarationCode line) = some ((declarationCode line).drop 1) := by
  cases line with
  | nil => cases h
  | cons c rest =>
    have hc : c = '+' ∨ c = '-' := by simpa [isMethodLine] using h
    have hsign : [c] <+: c :: rest := ⟨rest, rfl⟩
    rcases hc with rfl | rfl
    · exact behindAt?_marker (marker_prefix_declarationCode (by simp) hsign)
    · exact behindAt?_marker (marker_prefix_declarationCode (by simp) hsign)

theorem gives_readMethodPartsAt {line : Text} (h : isMethodLine line = true) :
    (readMethodPartsAt line).Gives (readMethodParts line) := by
  unfold readMethodPartsAt readMethodParts
  simp only [declarationCodeAt?_eq, behindAt?_sign h, parenthesizedAt?_eq, spanAt?_eq,
    liftM_some_bind]
  split
  · cases parenthesized? (trimLeft ((declarationCode line).drop 1)) with
    | none => rfl
    | some pieces =>
      simp only []
      split
      · rfl
      · split
        · rfl
        · split
          · rfl
          · rfl
  · rfl

theorem gives_dropAttributesAt (t : Text) : (dropAttributesAt t).Gives (dropAttributes t) := by
  unfold dropAttributesAt dropAttributes
  simp only [parenthesizedAt?_eq, liftM_some_bind]
  split
  · cases parenthesized? t <;> rfl
  · rfl

theorem PropertyParts.gives_ofTextAt (t : Text) : (ofTextAt t).Gives (ofText t) := by
  unfold ofTextAt ofText
  simp only [cutLastIdentifierAt?_eq, liftM_some_bind]
  split
  · rfl
  · split
    · rfl
    · rfl

theorem gives_readPropertyPartsAt {line : Text} (h : isPropertyLine line = true) :
    (readPropertyPartsAt line).Gives (readPropertyParts line) := by
  have hmarker : propertyMarker <+: declarationCode line :=
    marker_prefix_declarationCode (by simp) (List.isPrefixOf_iff_prefix.mp h)
  unfold readPropertyPartsAt
  simp only [declarationCodeAt?_eq, behindAt?_marker hmarker, liftM_some_bind]
  rw [readPropertyParts_eq]
  exact (gives_dropAttributesAt _).bind PropertyParts.gives_ofTextAt

theorem Line.gives_readAt (line : Text) : (readAt line).Gives (read line) := by
  unfold readAt read
  split
  · next h => exact (gives_readClassNameAt h).map Line.classStart
  · split
    · next h => exact (gives_readPropertyPartsAt h).map Line.property
    · split
      · next h => exact (gives_readMethodPartsAt h).map Line.method
      · rfl

namespace Argument

theorem gives_ofSegmentAt (first : Bool) (segment : Text) :
    (ofSegmentAt first segment).Gives (ofSegment first segment) := by
  unfold ofSegmentAt ofSegment
  simp only [cutOnceAt?_eq, parenthesizedAt?_eq, liftM_some_bind]
  cases cutOnce? ':' segment with
  | none => rfl
  | some pieces =>
    simp only []
    split
    · rfl
    · split
      · cases parenthesized? (trimLeft pieces.2) with
        | none => rfl
        | some pieces' =>
          simp only []
          split
          · rfl
          · split
            · rfl
            · rfl
      · rfl

theorem gives_ofSegmentsAt (out : List Text) : (ofSegmentsAt out).Gives (ofSegments out) := by
  cases out with
  | nil => rfl
  | cons head later =>
    exact (gives_ofSegmentAt true head).bind fun a =>
      (Gives.mapM (gives_ofSegmentAt false) later).bind fun as => rfl

end Argument

theorem gives_readArgumentsAt (t : Text) : (readArgumentsAt t).Gives (readArguments t) :=
  (gives_lift (segments t)).bind Argument.gives_ofSegmentsAt

/-- A text can be cut at the ends of its characters only, and the readings of lines and of arguments
never cut one elsewhere: they come to what is read character by character. A marker in front of a
line is still there in front of its code, and a search that starts on an opening parenthesis never
closes more than is open. -/
theorem reading_cuts_between_characters :
    (∀ offset t, cutAt? offset t = none ↔
      ∀ front behind, front ++ behind = t → (Utf8.encode front).length ≠ offset) ∧
    (∀ line, (Line.readAt line).run = some (Line.read line)) ∧
    (∀ t, (readArgumentsAt t).run = some (readArguments t)) ∧
    (∀ marker ∈ [classMarker, propertyMarker, ['+'], ['-']], ∀ line,
      marker <+: line → marker <+: declarationCode line) ∧
    ∀ opening t rest, behindAt? opening t = some ('(' :: rest) →
      ∃ search, closingSearch? opening t = some search ∧ search ≠ .belowZero := by
  refine ⟨fun offset t => cutAt?_eq_none_iff, Line.gives_readAt, gives_readArgumentsAt,
    fun marker hmarker line => marker_prefix_declarationCode hmarker, ?_⟩
  intro opening t rest hopening
  refine ⟨_, closingSearch?_eq hopening, ?_⟩
  cases cutClosing? 0 rest <;> simp

/-- A sign with nothing but a comment, a property with letters of two bytes, and a search that
starts behind one. -/
theorem reading_cuts_between_characters_umlauts :
    let sign := "+// größe".toList
    let property := "@property(copy) Größe *größe; // 𝕏".toList
    let t := "ß(Straße (^)(ß)".toList
    let markers := [classMarker, propertyMarker, ['+'], ['-']]
    (['+'] ∈ markers ∧ ['+'] <+: sign) ∧
    behindAt? 2 t = some ('(' :: "Straße (^)(ß)".toList) ∧
    ['+'] <+: declarationCode sign ∧
    (∃ search, closingSearch? 2 t = some search ∧ search ≠ .belowZero) ∧
    (Line.readAt sign).run = some (.error (.badDeclaration .noReturnType)) ∧
    (Line.readAt property).run = some (.ok (.property ⟨"Größe *".toList, "größe".toList⟩)) := by
  intro sign property t markers
  have hmarker : ['+'] ∈ markers := by decide
  have hsign : ['+'] <+: sign := ⟨"// größe".toList, rfl⟩
  have ht : behindAt? 2 t = some ('(' :: "Straße (^)(ß)".toList) := by decide +kernel
  have hfault : Line.read sign = .error (.badDeclaration .noReturnType) := by decide +kernel
  have hread : Line.read property =
      .ok (.property ⟨"Größe *".toList, "größe".toList⟩) := by decide +kernel
  obtain ⟨-, hlines, -, hmarkers, hsearch⟩ := reading_cuts_between_characters
  refine ⟨⟨hmarker, hsign⟩, ht, hmarkers ['+'] hmarker sign hsign, hsearch 2 t _ ht, ?_, ?_⟩
  · rw [hlines, hfault]
  · rw [hlines, hread]

end LogosHooks

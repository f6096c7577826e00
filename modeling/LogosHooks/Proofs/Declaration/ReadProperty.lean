import LogosHooks.Proofs.Declaration.Spelling

/-!
What every property that is read from a line looks like. Behind the marker and the attributes, the
identifier characters at the end are the name, and the text in front of them is the spelling of the
type.
-/
namespace LogosHooks

open Text

def dropAttributes (t : Text) : Except LineFault Text :=
  if t.head? == some '(' then
    match parenthesized? t with
    | some (_, behind) => .ok behind
    | none => .error .openParenthesis
  else .ok t

def PropertyParts.ofText (t : Text) : Except LineFault PropertyParts :=
  let name := (cutLastIdentifier (trim t)).2
  let typeText := trim (cutLastIdentifier (trim t)).1
  if name.isEmpty then .error (.badDeclaration .propertyUnnamed)
  else if typeText.isEmpty then .error (.badDeclaration (.propertyUntyped name))
  else .ok ⟨typeText, name⟩

theorem readPropertyParts_eq (line : Text) :
    readPropertyParts line =
      dropAttributes (trimLeft ((declarationCode line).drop propertyMarker.length)) >>=
        PropertyParts.ofText := by
  unfold readPropertyParts dropAttributes
  simp only [bind, Except.bind, pure, Except.pure, throw, throwThe, MonadExceptOf.throw]
  split
  · cases parenthesized? (trimLeft ((declarationCode line).drop propertyMarker.length)) <;> rfl
  · rfl

/-- What is cut off at the end are identifier characters. -/
theorem isKeyword_cutLastIdentifier (t : Text) : IsKeyword (cutLastIdentifier t).2 := fun _ hc =>
  List.mem_takeWhile_imp (List.mem_reverse.mp hc)

theorem PropertyParts.ofText_eq_ok_iff {t : Text} {parts : PropertyParts} :
    ofText t = .ok parts ↔
      parts.name = (cutLastIdentifier (trim t)).2 ∧ parts.name ≠ [] ∧
        parts.typeText = trim (cutLastIdentifier (trim t)).1 ∧ parts.typeText ≠ [] := by
  obtain ⟨typeText, name⟩ := parts
  unfold ofText
  simp only [List.isEmpty_iff]
  constructor
  · intro h
    split at h
    case isTrue => cases h
    case isFalse hname =>
      split at h
      case isTrue => cases h
      case isFalse htype =>
        cases h
        exact ⟨rfl, hname, rfl, htype⟩
  · rintro ⟨rfl, hname, rfl, htype⟩
    rw [if_neg hname, if_neg htype]

structure Property.Accepted (p : Property) : Prop where
  name : IsIdentifier p.name
  type : p.type.IsNormal
  type_shown : p.type.name ≠ [] ∨ p.type.isPointer = true

/-- All that holds of the property that is read from a line. -/
theorem accepted_of_readPropertyParts {line : Text} {parts : PropertyParts}
    (h : readPropertyParts line = .ok parts) : parts.property.Accepted := by
  rw [readPropertyParts_eq, bind_eq_ok_iff] at h
  obtain ⟨rest, -, h⟩ := h
  obtain ⟨hname, hname_ne, htype, htype_ne⟩ := PropertyParts.ofText_eq_ok_iff.mp h
  have hkeyword : IsKeyword parts.name := hname ▸ isKeyword_cutLastIdentifier _
  exact {
    name := ⟨hname_ne, hkeyword⟩
    type := DeclaredType.isNormal_ofText parts.typeText
    type_shown := by
      rw [htype, DeclaredType.trim_ne_nil_iff, ← DeclaredType.ofText_trim, ← htype] at htype_ne
      exact htype_ne
  }

end LogosHooks

import LogosHooks.Proofs.Declaration.ReadProperty
import LogosHooks.Proofs.Declaration.WholeSelector
import LogosHooks.Proofs.Header.Restriction

/-!
What holds of the interface of a class, whatever header it was read from. Each part is known from
the reader of its line: the name from the class line, the types and the names from the lines of the
members. That nothing unhookable is left is known from the policy.
-/
namespace LogosHooks

open Text

/-- A type whose display is balanced and is read as the type itself. -/
structure DeclaredType.Invariant (ty : DeclaredType) : Prop where
  reread : DeclaredType.ofText ty.display = ty
  balanced : Balanced ty.display

structure Argument.Invariant (a : Argument) : Prop where
  type : a.type.Invariant
  type_named : a.type.name ≠ []
  name : IsWord a.name

structure Method.Invariant (m : Method) : Prop where
  selector : IsWord m.selector
  selector_colonless : ':' ∉ m.selector
  hookable : m.selector ≠ ".cxx_destruct".toList ∧ m.selector ≠ ".cxx_construct".toList
  returnType : m.returnType.Invariant
  arguments : ∀ a ∈ m.arguments, a.Invariant
  first_keyword : ∀ a ∈ m.arguments.head?, a.keyword = []
  later_keyword : ∀ a ∈ m.arguments.tail, IsIdentifier a.keyword
  variadic : m.isVariadic = true → m.arguments ≠ []
  wholeSelector : IsWord m.wholeSelector
  wholeSelector_colons : m.wholeSelector.count ':' = m.arguments.length
  /-- Behind the last colon stands nothing, so the last piece is empty if there is a colon. -/
  wholeSelector_pieces : m.wholeSelector.splitOn ':' =
    m.selector :: m.arguments.tail.map Argument.keyword ++ if m.arguments = [] then [] else [[]]

/-- The type has a display, which is read as the type itself. -/
structure Property.Invariant (p : Property) : Prop where
  name : IsIdentifier p.name
  type : DeclaredType.ofText p.type.display = p.type
  type_shown : p.type.display ≠ []

structure ClassInterface.Invariant (interface : ClassInterface) : Prop where
  name : IsWord interface.name
  name_marks : '(' ∉ interface.name ∧ ':' ∉ interface.name ∧ '<' ∉ interface.name
  classMethods_static : ∀ m ∈ interface.classMethods, m.isStatic = true
  instanceMethods_static : ∀ m ∈ interface.instanceMethods, m.isStatic = false
  classMethods : ∀ m ∈ interface.classMethods, m.Invariant
  instanceMethods : ∀ m ∈ interface.instanceMethods, m.Invariant
  properties : ∀ p ∈ interface.properties, p.Invariant

/-! ### One member -/

theorem DeclaredType.WellFormed.invariant {ty : DeclaredType} (h : ty.WellFormed) :
    ty.Invariant :=
  ⟨DeclaredType.ofText_display h.normal, (DeclaredType.balanced_display_iff ty).mpr h.balanced⟩

theorem DeclaredType.display_ne_nil {ty : DeclaredType}
    (h : ty.name ≠ [] ∨ ty.isPointer = true) : ty.display ≠ [] := by
  unfold DeclaredType.display
  rcases h with hname | hstars
  · simp [hname]
  · simp [hstars]

theorem Argument.Accepted.invariant {a : Argument} (h : a.Accepted) : a.Invariant :=
  ⟨h.type.invariant, h.type_named, h.name⟩

theorem Method.selectorPieces_eq (m : Method) :
    m.selectorPieces =
      m.selector :: m.arguments.tail.map Argument.keyword ++
        if m.arguments = [] then [] else [[]] := by
  unfold selectorPieces
  cases m.arguments <;> simp

theorem Method.Accepted.invariant {m : Method} (h : m.Accepted)
    (hhook : (Member.method m).isUnhookable = false) : m.Invariant where
  selector := h.selector
  selector_colonless := h.selector_colonless
  hookable := by simpa [Member.isUnhookable, unhookableSelectors] using hhook
  returnType := h.returnType.invariant
  arguments := fun a ha => (h.arguments a ha).invariant
  first_keyword := h.first_keyword
  later_keyword := fun _ ha => h.isIdentifier_keyword ha
  variadic := h.variadic
  wholeSelector := h.isWord_wholeSelector
  wholeSelector_colons := h.count_wholeSelector
  wholeSelector_pieces := h.splitOn_wholeSelector.trans m.selectorPieces_eq

theorem Property.Accepted.invariant {p : Property} (h : p.Accepted) : p.Invariant :=
  ⟨h.name, DeclaredType.ofText_display h.type, DeclaredType.display_ne_nil h.type_shown⟩

def Member.Accepted : Member → Prop
  | method m => m.Accepted
  | property p => p.Accepted

/-- A line declares only accepted members. -/
theorem Member.accepted_of_ofLine {line : Text} {member : Member}
    (h : Member.ofLine line = .ok (some member)) : member.Accepted := by
  obtain ⟨told, htold, h⟩ := bind_eq_ok_iff.mp h
  unfold Line.read at htold
  split at htold
  · obtain ⟨name, -, rfl⟩ := map_eq_ok_iff.mp htold
    cases h
  split at htold
  · obtain ⟨parts, hparts, rfl⟩ := map_eq_ok_iff.mp htold
    cases h
    exact accepted_of_readPropertyParts hparts
  split at htold
  · obtain ⟨parts, hparts, rfl⟩ := map_eq_ok_iff.mp htold
    obtain ⟨m, hm, h⟩ := bind_eq_ok_iff.mp h
    cases h
    exact accepted_of_readMethod (bind_eq_ok_iff.mpr ⟨parts, hparts, hm⟩)
  · cases htold
    cases h

/-! ### All lines -/

namespace Member

/-- The member that a line declares. A line at fault declares none. -/
def declared? (line : Text) : Option Member :=
  match ofLine line with
  | .ok member => member
  | .error _ => none

theorem declared?_eq_some_iff {line : Text} {member : Member} :
    declared? line = some member ↔ ofLine line = .ok (some member) := by
  unfold declared?
  cases ofLine line <;> simp

end Member

theorem readMembers_eq_filterMap {number : Nat} {ls : List Text} {members : List Member}
    (h : readMembers number ls = .ok members) : members = ls.filterMap Member.declared? := by
  induction ls generalizing number members with
  | nil =>
    cases h
    rfl
  | cons line rest ih =>
    obtain ⟨here, hhere, h⟩ := bind_eq_ok_iff.mp h
    obtain ⟨later, hlater, h⟩ := bind_eq_ok_iff.mp h
    cases h
    have hdeclared : Member.declared? line = here := by
      rw [Member.declared?, atLine_eq_ok_iff.mp hhere]
    rw [ih hlater]
    cases here with
    | none => rw [List.filterMap_cons_none hdeclared, Option.toList_none, List.nil_append]
    | some member => rw [List.filterMap_cons_some hdeclared]; rfl

theorem exists_line_of_mem_readMembers {number : Nat} {ls : List Text} {members : List Member}
    (h : readMembers number ls = .ok members) {member : Member} (hmember : member ∈ members) :
    ∃ line ∈ ls, Member.ofLine line = .ok (some member) := by
  rw [readMembers_eq_filterMap h] at hmember
  obtain ⟨line, hline, hdeclared⟩ := List.mem_filterMap.mp hmember
  exact ⟨line, hline, Member.declared?_eq_some_iff.mp hdeclared⟩

/-- The name is cut from a word in front of the first mark. -/
theorem readClassName_shape {line name : Text} (h : readClassName line = .ok name) :
    IsWord name ∧ '(' ∉ name ∧ ':' ∉ name ∧ '<' ∉ name := by
  obtain ⟨-, hname, hne⟩ := readClassName_eq_ok_iff.mp h
  have hmarks : ∀ c ∈ name, c ≠ '(' ∧ c ≠ ':' ∧ c ≠ '<' := by
    intro c hc
    rw [hname] at hc
    simpa [and_assoc] using List.mem_takeWhile_imp hc
  refine ⟨⟨hne, fun c hc => ?_⟩, fun h => (hmarks _ h).1 rfl, fun h => (hmarks _ h).2.1 rfl,
    fun h => (hmarks _ h).2.2 rfl⟩
  have hcut : name <+: (words (line.drop classMarker.length)).headD [] := by
    rw [hname]
    exact List.takeWhile_prefix _
  cases hwords : words (line.drop classMarker.length) with
  | nil =>
    rw [hwords] at hcut
    exact absurd (List.prefix_nil.mp hcut) hne
  | cons word rest =>
    rw [hwords] at hcut
    have hword : IsWord word := isWord_of_mem_words (hwords ▸ List.mem_cons_self)
    exact hword.2 c (hcut.subset hc)

/-- Members that are accepted and hookable make up an interface with the invariant. -/
theorem ClassInterface.invariant_gather {name : Text} {members : List Member} (hname : IsWord name)
    (hmarks : '(' ∉ name ∧ ':' ∉ name ∧ '<' ∉ name)
    (hmembers : ∀ member ∈ members, member.Accepted ∧ member.isUnhookable = false) :
    (ClassInterface.gather name members).Invariant := by
  have hmethods : ∀ m ∈ members.filterMap Member.method?, m.Invariant := by
    intro m hm
    obtain ⟨member, hmember, heq⟩ := List.mem_filterMap.mp hm
    cases member with
    | method m' =>
      cases heq
      obtain ⟨haccepted, hhook⟩ := hmembers _ hmember
      exact haccepted.invariant hhook
    | property p => cases heq
  exact {
    name := hname
    name_marks := hmarks
    classMethods_static := fun m hm => (List.mem_filter.mp hm).2
    instanceMethods_static := fun m hm => by simpa using (List.mem_filter.mp hm).2
    classMethods := fun m hm => hmethods m (List.mem_filter.mp hm).1
    instanceMethods := fun m hm => hmethods m (List.mem_filter.mp hm).1
    properties := by
      intro p hp
      obtain ⟨member, hmember, heq⟩ := List.mem_filterMap.mp hp
      cases member with
      | method m => cases heq
      | property p' =>
        cases heq
        exact (hmembers _ hmember).1.invariant
  }

/-- The interface that is read from a header has the invariant, whatever is known and dropped. -/
theorem invariant_of_collect {policy : DropPolicy} {source : Text} {interface : ClassInterface}
    (h : collect policy source = .ok interface) : interface.Invariant := by
  rw [collect_eq_gather] at h
  obtain ⟨⟨name, members⟩, hread, rfl⟩ := map_eq_ok_iff.mp h
  obtain ⟨hname, hmembers⟩ := readHeader_eq_ok_iff.mp hread
  obtain ⟨classLine, -, hclassLine⟩ := exists_line_of_className hname
  obtain ⟨hword, hmarks⟩ := readClassName_shape hclassLine
  refine ClassInterface.invariant_gather hword hmarks fun member hmember => ?_
  obtain ⟨hmember, hkept⟩ := List.mem_filter.mp hmember
  obtain ⟨line, -, hline⟩ := exists_line_of_mem_readMembers hmembers hmember
  rw [DropPolicy.verdict_beq_kept, Bool.and_eq_true, Bool.not_eq_true'] at hkept
  exact ⟨Member.accepted_of_ofLine hline, hkept.2⟩

theorem invariant_of_collect_palette :
    let source := ("@interface Palette(Inks):NSObject\n- (void).cxx_destruct;\n" ++
      "+ (id)mix:(void (^)(int)) block with:(unsigned  int)n, ...;\n- (id *)a.b$;\n" ++
      "@property (nonatomic) (id ink; // left open").toList
    let mix : Method :=
      ⟨"mix".toList, true, ⟨"id".toList, 0⟩,
        [⟨[], ⟨"void (^)(int)".toList, 0⟩, "block".toList⟩,
          ⟨"with".toList, ⟨"unsigned int".toList, 0⟩, "n".toList⟩], true⟩
    let ab : Method := ⟨"a.b$".toList, false, ⟨"id".toList, 1⟩, [], false⟩
    let interface : ClassInterface :=
      ⟨"Palette".toList, [mix], [ab], [⟨"ink".toList, ⟨"(id".toList, 0⟩⟩]⟩
    collect ⟨.builtin, false⟩ source = .ok interface ∧ interface.Invariant := by
  intro source mix ab interface
  have hcollect : collect ⟨.builtin, false⟩ source = .ok interface := by decide +kernel
  exact ⟨hcollect, invariant_of_collect hcollect⟩

end LogosHooks

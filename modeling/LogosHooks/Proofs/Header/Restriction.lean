import LogosHooks.Proofs.Header.Outcome

/-!
What is collected under a policy is a restriction of what is collected when nothing is dropped. The
members are read before it is decided which of them are kept, so all policies fail alike, and where
they succeed they keep some of the same members in the same order.
-/
namespace LogosHooks

namespace Member

def method? : Member → Option Method
  | method m => some m
  | property _ => none

def property? : Member → Option Property
  | property p => some p
  | method _ => none

/-- Choosing the methods commutes with leaving out members. -/
theorem filterMap_method?_filter (keep : Member → Bool) (members : List Member) :
    (members.filter keep).filterMap method? =
      (members.filterMap method?).filter fun m => keep (.method m) := by
  rw [List.filterMap_filter, List.filter_filterMap]
  refine List.filterMap_congr fun member _ => ?_
  cases member with
  | method m => simp [method?, Option.filter]
  | property p => simp [method?]

theorem filterMap_property?_filter (keep : Member → Bool) (members : List Member) :
    (members.filter keep).filterMap property? =
      (members.filterMap property?).filter fun p => keep (.property p) := by
  rw [List.filterMap_filter, List.filter_filterMap]
  refine List.filterMap_congr fun member _ => ?_
  cases member with
  | method m => simp [property?]
  | property p => simp [property?, Option.filter]

end Member

namespace ClassInterface

def gather (name : Text) (members : List Member) : ClassInterface :=
  ⟨name, (members.filterMap Member.method?).filter (·.isStatic),
    (members.filterMap Member.method?).filter (!·.isStatic), members.filterMap Member.property?⟩

theorem ofMembers_eq_gather {name : Text} (hname : name ≠ []) (members : List Member) :
    ofMembers name members = .ok (gather name members) :=
  make_of_ne_nil hname _ _ _

theorem gather_filter (name : Text) (keep : Member → Bool) (members : List Member) :
    gather name (members.filter keep) =
      (gather name members).restrict (fun m => keep (.method m)) fun p => keep (.property p) := by
  simp only [gather, restrict, Member.filterMap_method?_filter, Member.filterMap_property?_filter,
    List.filter_comm]

theorem mem_methods_gather {name : Text} {members : List Member} {method : Method} :
    method ∈ (gather name members).classMethods ++ (gather name members).instanceMethods ↔
      .method method ∈ members := by
  have hmember : method ∈ members.filterMap Member.method? ↔ .method method ∈ members := by
    rw [List.mem_filterMap]
    constructor
    · rintro ⟨member, hmember, heq⟩
      cases member with
      | method other => cases heq; exact hmember
      | property p => cases heq
    · exact fun hmember => ⟨_, hmember, rfl⟩
  rw [← hmember, List.mem_append]
  unfold gather
  cases hstatic : method.isStatic <;> simp [List.mem_filter, hstatic]

theorem mem_properties_gather {name : Text} {members : List Member} {p : Property} :
    p ∈ (gather name members).properties ↔ .property p ∈ members := by
  unfold gather
  rw [List.mem_filterMap]
  constructor
  · rintro ⟨member, hmember, heq⟩
    cases member with
    | method m => cases heq
    | property other => cases heq; exact hmember
  · exact fun hmember => ⟨_, hmember, rfl⟩

end ClassInterface

theorem ne_nil_of_readHeader {source name : Text} {members : List Member}
    (h : readHeader source = .ok (name, members)) : name ≠ [] :=
  ne_nil_of_className (readHeader_eq_ok_iff.mp h).1

def DropPolicy.logOf (policy : DropPolicy) (interface : ClassInterface) (members : List Member) :
    List CollectEvent :=
  .foundClass interface.name :: members.filterMap (policy.event? interface.name) ++
    [.collected interface]

/-- Once the header is read, nothing can fail. -/
theorem collectLogged_eq (policy : DropPolicy) (source : Text) :
    collectLogged policy source = (readHeader source).map fun (name, members) =>
      let interface := .gather name (members.filter (policy.verdict · == .kept))
      (interface, policy.logOf interface members) := by
  cases hread : readHeader source with
  | error fault =>
    rw [collectLogged, hread]
    rfl
  | ok header =>
    obtain ⟨name, members⟩ := header
    have hname := ne_nil_of_readHeader hread
    rw [collectLogged, hread]
    change Except.bind (ClassInterface.ofMembers name _) _ = _
    rw [ClassInterface.ofMembers_eq_gather hname]
    rfl

theorem collect_eq_gather (policy : DropPolicy) (source : Text) :
    collect policy source = (readHeader source).map fun header =>
      .gather header.1 (header.2.filter (policy.verdict · == .kept)) := by
  rw [collect, collectLogged_eq, map_map]

theorem ne_nil_of_collect {policy : DropPolicy} {source : Text} {m : ClassInterface}
    (h : collect policy source = .ok m) : m.name ≠ [] := by
  rw [collect_eq_gather] at h
  obtain ⟨⟨name, members⟩, hread, rfl⟩ := map_eq_ok_iff.mp h
  exact ne_nil_of_readHeader hread

theorem DropPolicy.verdict_beq_kept (policy : DropPolicy) (member : Member) :
    (policy.verdict member == .kept) = (policy.keepsType member.type && !member.isUnhookable) := by
  unfold verdict
  cases member.isUnhookable with
  | true => simp
  | false => cases policy.keepsType member.type <;> rfl

theorem DropPolicy.keepsType_of_keepAll (registry : Registry) (ty : DeclaredType) :
    DropPolicy.keepsType ⟨registry, false⟩ ty = true := rfl

/-- What is kept is a restriction of what can be hooked. -/
theorem ClassInterface.gather_kept (policy : DropPolicy) (name : Text) (members : List Member) :
    gather name (members.filter (policy.verdict · == .kept)) =
      (gather name (members.filter (!·.isUnhookable))).restrict
        (fun m => policy.keepsType m.returnType) fun p => policy.keepsType p.type := by
  simp only [DropPolicy.verdict_beq_kept, ← List.filter_filter, gather_filter, Member.type]

/-- Without dropping, all members are kept that can be hooked. -/
theorem collect_keepAll (registry : Registry) (source : Text) :
    collect ⟨registry, false⟩ source = (readHeader source).map fun header =>
      .gather header.1 (header.2.filter (!·.isUnhookable)) := by
  simp only [collect_eq_gather, DropPolicy.verdict_beq_kept, DropPolicy.keepsType_of_keepAll,
    Bool.true_and]

/-- What a policy keeps of the interface with all members. -/
theorem collect_eq_restrict (policy : DropPolicy) (registry : Registry) (source : Text) :
    collect policy source = (collect ⟨registry, false⟩ source).map fun full =>
      full.restrict (fun m => policy.keepsType m.returnType) fun p => policy.keepsType p.type := by
  rw [collect_eq_gather, collect_keepAll, map_map]
  simp only [ClassInterface.gather_kept]

/-! ### Parts of an interface -/

/-- The elements of the first list stand in the second in the same order, others may stand between
them, and none of them stands in the second more often than in the first. -/
structure IsPart {α : Type} [DecidableEq α] (xs ys : List α) : Prop where
  sublist : xs.Sublist ys
  count_eq : ∀ x ∈ xs, ys.count x = xs.count x

theorem isPart_filter {α : Type} [DecidableEq α] (keep : α → Bool) (xs : List α) :
    IsPart (xs.filter keep) xs := by
  refine ⟨List.filter_sublist, fun x hx => ?_⟩
  rw [List.count_filter (List.mem_filter.mp hx).2]

namespace ClassInterface

/-- Both are interfaces of the same class, and each list of the first is part of the list of the
second. -/
structure IsPartOf (m n : ClassInterface) : Prop where
  name_eq : m.name = n.name
  classMethods : IsPart m.classMethods n.classMethods
  instanceMethods : IsPart m.instanceMethods n.instanceMethods
  properties : IsPart m.properties n.properties

theorem restrict_isPartOf (m : ClassInterface) (p : Method → Bool) (q : Property → Bool) :
    (m.restrict p q).IsPartOf m :=
  ⟨rfl, isPart_filter p m.classMethods, isPart_filter p m.instanceMethods,
    isPart_filter q m.properties⟩

/-- A stricter restriction can be made in two steps. -/
theorem restrict_restrict_of_imp (m : ClassInterface) {p p' : Method → Bool}
    {q q' : Property → Bool} (hp : ∀ x, p' x = true → p x = true)
    (hq : ∀ x, q' x = true → q x = true) :
    (m.restrict p q).restrict p' q' = m.restrict p' q' := by
  have hand : ∀ {a b : Bool}, (a = true → b = true) → (a && b) = a := by
    intro a b hab
    cases a with
    | false => rfl
    | true => exact hab rfl
  rw [restrict_restrict]
  congr 1
  · exact funext fun x => hand (hp x)
  · exact funext fun x => hand (hq x)

/-- It does not matter in which order members are left out. -/
theorem restrict_comm (m : ClassInterface) (p p' : Method → Bool) (q q' : Property → Bool) :
    (m.restrict p q).restrict p' q' = (m.restrict p' q').restrict p q := by
  simp only [restrict_restrict, Bool.and_comm]

end ClassInterface

namespace DropPolicy

/-- Every type that the first policy keeps is kept by the second: it knows no fewer names, and it
drops only if the first one does. -/
structure Within (p q : DropPolicy) : Prop where
  registry : ∀ name, p.registry.containsName name = true → q.registry.containsName name = true
  dropUnknown : q.dropUnknown = true → p.dropUnknown = true

theorem Within.keepsType {p q : DropPolicy} (h : p.Within q) {ty : DeclaredType}
    (hty : p.keepsType ty = true) : q.keepsType ty = true := by
  unfold DropPolicy.keepsType at hty ⊢
  cases hdrop : q.dropUnknown with
  | false => rfl
  | true =>
    rw [h.dropUnknown hdrop] at hty
    exact h.registry ty.lastWord hty

end DropPolicy
end LogosHooks

import LogosHooks.Hooks.Request
import LogosHooks.Proofs.Header.Restriction

/-!
What a request keeps of a header. The interface that is hooked is the one with all members,
restricted to those whose type is kept and whose name the filter accepts. So a request that asks for
more keeps the same members and puts others between them.
-/
namespace LogosHooks

namespace ClassInterface

def restrictKnown (m : ClassInterface) (registry : Registry) : ClassInterface :=
  m.restrict (fun method => registry.knows method.returnType) fun p => registry.knows p.type

end ClassInterface

namespace Request

def keepsMethod (request : Request) (m : Method) : Bool :=
  request.policy.keepsType m.returnType && request.accepts m.selector

def keepsProperty (request : Request) (p : Property) : Bool :=
  request.policy.keepsType p.type && request.accepts p.name

theorem narrow_eq_restrictNames (request : Request) (m : ClassInterface) :
    request.narrow m = m.restrictNames request.accepts := by
  unfold narrow accepts
  cases request.filter with
  | none => simp [ClassInterface.restrictNames, ClassInterface.restrict]
  | some pattern => rfl

/-- What is hooked of a header: the members that are kept by their types and by their names. -/
theorem map_narrow_collect (request : Request) (registry : Registry) (source : Text) :
    (collect request.policy source).map request.narrow =
      (collect ⟨registry, false⟩ source).map fun full =>
        full.restrict request.keepsMethod request.keepsProperty := by
  rw [collect_eq_restrict request.policy registry, map_map]
  congr 1
  funext full
  rw [narrow_eq_restrictNames, ClassInterface.restrictNames, ClassInterface.restrict_restrict]
  simp only [Bool.and_comm]
  rfl

theorem hookHeader_eq (request : Request) (registry : Registry) (source : Text) :
    request.hookHeader source = (collect ⟨registry, false⟩ source).bind fun full =>
      writeHooks request.options (full.restrict request.keepsMethod request.keepsProperty) := by
  have hbind : request.hookHeader source =
      ((collect request.policy source).map request.narrow).bind (writeHooks request.options) := by
    unfold hookHeader
    cases collect request.policy source <;> rfl
  rw [hbind, map_narrow_collect request registry]
  cases collect ⟨registry, false⟩ source <;> rfl

/-- Every member that the first request keeps is kept by the second. -/
structure Within (r s : Request) : Prop where
  policy : r.policy.Within s.policy
  filter : s.filter = none ∨ s.filter = r.filter

theorem Within.accepts {r s : Request} (h : r.Within s) {name : Text}
    (hname : r.accepts name = true) : s.accepts name = true := by
  unfold Request.accepts at hname ⊢
  rcases h.filter with hnone | hsame
  · rw [hnone]
    rfl
  · rwa [hsame]

theorem Within.keepsMethod {r s : Request} (h : r.Within s) {m : Method}
    (hm : r.keepsMethod m = true) : s.keepsMethod m = true := by
  obtain ⟨htype, hname⟩ := Bool.and_eq_true_iff.mp hm
  exact Bool.and_eq_true_iff.mpr ⟨h.policy.keepsType htype, h.accepts hname⟩

theorem Within.keepsProperty {r s : Request} (h : r.Within s) {p : Property}
    (hp : r.keepsProperty p = true) : s.keepsProperty p = true := by
  obtain ⟨htype, hname⟩ := Bool.and_eq_true_iff.mp hp
  exact Bool.and_eq_true_iff.mpr ⟨h.policy.keepsType htype, h.accepts hname⟩

/-- A request that asks for more only adds members. -/
theorem Within.restrict_isPartOf {r s : Request} (h : r.Within s) (full : ClassInterface) :
    (full.restrict r.keepsMethod r.keepsProperty).IsPartOf
      (full.restrict s.keepsMethod s.keepsProperty) := by
  have hmethod : ∀ m, r.keepsMethod m = true → s.keepsMethod m = true := fun _ => h.keepsMethod
  have hproperty : ∀ p, r.keepsProperty p = true → s.keepsProperty p = true := fun _ =>
    h.keepsProperty
  rw [← full.restrict_restrict_of_imp hmethod hproperty]
  exact ClassInterface.restrict_isPartOf _ _ _

/-- Where one request finds an interface, all do, and one that asks for more finds no less. -/
theorem Within.exists_collect {r s : Request} (h : r.Within s) {source : Text} {m : ClassInterface}
    (hm : collect r.policy source = .ok m) :
    ∃ n, collect s.policy source = .ok n ∧ (r.narrow m).IsPartOf (s.narrow n) := by
  have hr := r.map_narrow_collect .builtin source
  have hs := s.map_narrow_collect .builtin source
  rw [hm] at hr
  cases hfull : collect ⟨.builtin, false⟩ source with
  | error fault =>
    rw [hfull] at hr
    cases hr
  | ok full =>
    rw [hfull] at hr hs
    obtain ⟨n, hn, hnarrow⟩ := map_eq_ok_iff.mp hs
    refine ⟨n, hn, ?_⟩
    rw [hnarrow, Except.ok.inj hr]
    exact h.restrict_isPartOf full

end Request

/-- Dropping and filtering leave members out of the interface with all members, each by its own
rule, and do nothing else. So to know more types, to stop dropping or to stop filtering only puts
members back, between the others and each as often as it was declared. -/
theorem collect_dropping_and_filtering (any registry : Registry) (source : Text)
    (pattern : NamePattern) (o : HookOptions) :
    (∀ fault, collect ⟨any, false⟩ source = .error fault →
      collect ⟨registry, true⟩ source = .error fault ∧
      Request.hookHeader ⟨⟨registry, true⟩, some pattern, o⟩ source = .error fault) ∧
    (∀ full, collect ⟨any, false⟩ source = .ok full →
      collect ⟨registry, true⟩ source = .ok
        ⟨full.name, full.classMethods.filter (registry.knows ·.returnType),
          full.instanceMethods.filter (registry.knows ·.returnType),
          full.properties.filter (registry.knows ·.type)⟩ ∧
      Request.hookHeader ⟨⟨registry, true⟩, some pattern, o⟩ source = writeHooks o
        ⟨full.name,
          full.classMethods.filter fun m =>
            registry.knows m.returnType && pattern.accepts m.selector,
          full.instanceMethods.filter fun m =>
            registry.knows m.returnType && pattern.accepts m.selector,
          full.properties.filter fun p => registry.knows p.type && pattern.accepts p.name⟩) ∧
    (∀ (m : ClassInterface) (accepts : Text → Bool),
      (m.restrictKnown registry).restrictNames accepts =
        (m.restrictNames accepts).restrictKnown registry) ∧
    (∀ r s : Request, r.Within s → ∀ m, collect r.policy source = .ok m →
      ∃ n, collect s.policy source = .ok n ∧ (r.narrow m).IsPartOf (s.narrow n)) := by
  have hcollect := collect_eq_restrict ⟨registry, true⟩ any source
  have hhook := Request.hookHeader_eq ⟨⟨registry, true⟩, some pattern, o⟩ any source
  refine ⟨fun fault hfault => ?_, fun full hfull => ?_, fun m accepts => ?_, fun r s h m hm => ?_⟩
  · rw [hcollect, hhook, hfault]
    exact ⟨rfl, rfl⟩
  · rw [hcollect, hhook, hfull]
    exact ⟨rfl, rfl⟩
  · exact m.restrict_comm _ _ _ _
  · exact h.exists_collect hm

theorem collect_dropping_and_filtering_panel :
    let source :=
      "- (Opaque *)setB;\n@interface Panel : NSObject\n- (id)make;\n- (void)setA:(int)a;".toList
    let setB : Method := ⟨"setB".toList, false, ⟨"Opaque".toList, 1⟩, [], false⟩
    let make : Method := ⟨"make".toList, false, ⟨"id".toList, 0⟩, [], false⟩
    let setA : Method := ⟨"setA".toList, false, ⟨"void".toList, 0⟩,
      [⟨[], ⟨"int".toList, 0⟩, "a".toList⟩], false⟩
    let pattern : NamePattern :=
      ⟨"s".toList, .seq (.assertion .textStart) (.one (.single 's'))⟩
    collect ⟨.builtin, false⟩ source = .ok ⟨"Panel".toList, [], [setB, make, setA], []⟩ ∧
    collect ⟨.builtin, true⟩ source = .ok ⟨"Panel".toList, [], [make, setA], []⟩ ∧
    Request.hookHeader ⟨⟨.builtin, true⟩, some pattern, {}⟩ source =
      writeHooks {} ⟨"Panel".toList, [], [setA], []⟩ := by
  intro source setB make setA pattern
  have hfull : collect ⟨.builtin, false⟩ source =
      .ok ⟨"Panel".toList, [], [setB, make, setA], []⟩ := by decide +kernel
  have hopaque : Registry.builtin.knows setB.returnType = false := by
    have hname : isBuiltinName "Opaque".toList = false := by
      rw [isBuiltinName_toList]
      decide +kernel
    have hword : setB.returnType.lastWord = "Opaque".toList := by decide
    rw [Registry.knows, Registry.containsName, hword, hname]
    rfl
  have hid : Registry.builtin.knows make.returnType = true := by decide +kernel
  have hvoid : Registry.builtin.knows setA.returnType = true := by decide +kernel
  have hmake : pattern.accepts make.selector = false := by decide +kernel
  have hsetA : pattern.accepts setA.selector = true := by decide +kernel
  have hall :=
    (collect_dropping_and_filtering .builtin .builtin source pattern {}).2.1 _ hfull
  simp only [List.filter_cons, hopaque, hid, hvoid, hmake, hsetA] at hall
  exact ⟨hfull, hall⟩

end LogosHooks

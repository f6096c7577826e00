import LogosHooks.Hooks.Report
import LogosHooks.Proofs.Hooks.HookLines
import LogosHooks.Proofs.Hooks.Requests

/-!
Batches under two requests. A header is at fault under all requests or under none, because nothing
that a request decides can fail; so the reports differ in the hooks alone. A request that asks for
more gives no fewer hooks.
-/
namespace LogosHooks

/-! ### Hook counts -/

namespace HookOptions

/-- Whatever the first options hook, the second do. -/
structure Within (o o' : HookOptions) : Prop where
  properties : o.properties = true → o'.properties = true
  getters : o.getters = true → o'.getters = true
  setters : o.setters = true → o'.setters = true

theorem Within.hooksProperties {o o' : HookOptions} (h : o.Within o')
    (ho : o.hooksProperties = true) : o'.hooksProperties = true := by
  obtain ⟨hproperties, haccessors⟩ := Bool.and_eq_true_iff.mp ho
  refine Bool.and_eq_true_iff.mpr ⟨h.properties hproperties, Bool.or_eq_true_iff.mpr ?_⟩
  exact (Bool.or_eq_true_iff.mp haccessors).imp h.getters h.setters

theorem Within.accessorCount_le {o o' : HookOptions} (h : o.Within o') :
    o.accessorCount ≤ o'.accessorCount := by
  have hle : ∀ {a b : Bool}, (a = true → b = true) → a.toNat ≤ b.toNat := by
    intro a b hab
    cases a with
    | false => exact Nat.zero_le _
    | true => rw [hab rfl]
  exact Nat.add_le_add (hle h.getters) (hle h.setters)

end HookOptions

theorem plannedHooks_le {o o' : HookOptions} (ho : o.Within o') {m n : ClassInterface}
    (hmn : m.IsPartOf n) : plannedHooks o m ≤ plannedHooks o' n := by
  have hclass := hmn.classMethods.sublist.length_le
  have hinstance := hmn.instanceMethods.sublist.length_le
  have hproperties :
      (if o.hooksProperties then m.properties.length * o.accessorCount else 0) ≤
        if o'.hooksProperties then n.properties.length * o'.accessorCount else 0 := by
    split
    · next h =>
      rw [if_pos (ho.hooksProperties h)]
      exact Nat.mul_le_mul hmn.properties.sublist.length_le ho.accessorCount_le
    · exact Nat.zero_le _
  unfold plannedHooks
  omega

/-- Two requests find the same fault in a header, or both write hooks for it. -/
theorem hookHeader_cases (r s : Request) (source : Text) :
    (∃ fault, r.hookHeader source = .error fault ∧ s.hookHeader source = .error fault) ∨
      ∃ x y, r.hookHeader source = .ok x ∧ s.hookHeader source = .ok y ∧
        (r.Within s → r.options.Within s.options → x.hookCount ≤ y.hookCount) := by
  have hr := r.hookHeader_eq .builtin source
  have hs := s.hookHeader_eq .builtin source
  cases hfull : collect ⟨.builtin, false⟩ source with
  | error fault =>
    rw [hfull] at hr hs
    exact Or.inl ⟨fault, hr, hs⟩
  | ok full =>
    rw [hfull] at hr hs
    exact Or.inr ⟨_, _, hr.trans (writeHooks_eq _ _), hs.trans (writeHooks_eq _ _),
      fun hwithin hoptions => plannedHooks_le hoptions (hwithin.restrict_isPartOf full)⟩

/-! ### Reports -/

namespace Report

def bare (r : Report) : Report := { r with text := [], hookCount := 0 }

theorem bare_append (r s : Report) : (r ++ s).bare = r.bare ++ s.bare := rfl

theorem hookCount_append (r s : Report) : (r ++ s).hookCount = r.hookCount + s.hookCount := rfl

theorem bare_ofOutcome_ok (label : Text) (x y : HookText) :
    (ofOutcome label (.ok x)).bare = (ofOutcome label (.ok y)).bare := rfl

theorem hookCount_ofOutcome_ok (label : Text) (x : HookText) :
    (ofOutcome label (.ok x)).hookCount = x.hookCount := rfl

end Report

/-- A request has no bearing on the report but for the hooks. -/
theorem bare_batchReport (r s : Request) (units : List HeaderUnit) :
    (batchReport r units).bare = (batchReport s units).bare := by
  induction units with
  | nil => rfl
  | cons u units ih =>
    rw [batchReport, batchReport, Report.bare_append, Report.bare_append, ih]
    rcases hookHeader_cases r s u.source with ⟨fault, hr, hs⟩ | ⟨x, y, hr, hs, -⟩
    · rw [hr, hs]
    · rw [hr, hs, Report.bare_ofOutcome_ok u.label x y]

theorem hookCount_batchReport_le {r s : Request} (h : r.Within s)
    (hoptions : r.options.Within s.options) (units : List HeaderUnit) :
    (batchReport r units).hookCount ≤ (batchReport s units).hookCount := by
  induction units with
  | nil => exact Nat.le_refl 0
  | cons u units ih =>
    rw [batchReport, batchReport, Report.hookCount_append, Report.hookCount_append]
    rcases hookHeader_cases r s u.source with ⟨fault, hr, hs⟩ | ⟨x, y, hr, hs, hle⟩
    · rw [hr, hs]
      exact Nat.add_le_add_left ih _
    · rw [hr, hs, Report.hookCount_ofOutcome_ok, Report.hookCount_ofOutcome_ok]
      exact Nat.add_le_add (hle h hoptions) ih

/-- Which headers of a batch are read, which are at fault and how, does not depend on the request. A
request that knows no fewer names, drops and filters no more and hooks whatever the other one hooks,
counts at least as many hooks. -/
theorem batchReport_of_requests (r s : Request) (units : List HeaderUnit) :
    ((batchReport r units).units = (batchReport s units).units ∧
      (batchReport r units).parsed = (batchReport s units).parsed ∧
      (batchReport r units).noClass = (batchReport s units).noClass ∧
      (batchReport r units).failed = (batchReport s units).failed ∧
      (batchReport r units).failures = (batchReport s units).failures) ∧
    (r.Within s → r.options.Within s.options →
      (batchReport r units).hookCount ≤ (batchReport s units).hookCount) := by
  obtain ⟨-, -, hunits, hparsed, hnoClass, hfailed, hfailures⟩ :=
    Report.mk.inj (bare_batchReport r s units)
  exact ⟨⟨hunits, hparsed, hnoClass, hfailed, hfailures⟩, fun h hoptions =>
    hookCount_batchReport_le h hoptions units⟩

theorem batchReport_of_requests_colors :
    let r : Request := { options := { getters := true } }
    let s : Request :=
      { policy := ⟨.builtin, false⟩, options := { getters := true, setters := true } }
    let units : List HeaderUnit :=
      [⟨"Color.h".toList, "@interface Color\n@property int red;\n- (id)copy;".toList⟩,
        ⟨"Notes.h".toList, "- (id)copy;".toList⟩,
        ⟨"Shade.h".toList, "@interface Shade\n- (id)mix:(int;".toList⟩]
    (r.Within s ∧ r.options.Within s.options) ∧
      (batchReport r units).failures = (batchReport s units).failures ∧
      (batchReport r units).hookCount ≤ (batchReport s units).hookCount ∧
      (batchReport r units).failures.map (·.label) = ["Notes.h".toList, "Shade.h".toList] ∧
      (batchReport r units).hookCount = 2 ∧ (batchReport s units).hookCount = 3 := by
  intro r s units
  have hwithin : r.Within s := ⟨⟨fun _ => id, by decide⟩, Or.inl rfl⟩
  have hoptions : r.options.Within s.options := ⟨by decide, by decide, by decide⟩
  obtain ⟨⟨-, -, -, -, hfailures⟩, hcount⟩ := batchReport_of_requests r s units
  refine ⟨⟨hwithin, hoptions⟩, hfailures, hcount hwithin hoptions, ?_, ?_, ?_⟩
  · decide +kernel
  · decide +kernel
  · decide +kernel

end LogosHooks

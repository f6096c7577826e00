import LogosHooks.Hooks.Report
import Mathlib.Algebra.GroupWithZero.Nat
import Mathlib.Data.List.Basic

/-!
The report on a batch is the sum of the reports on its units. What a report says can be told from
the outcomes of the single units: the texts and the hooks of those that succeed, and the labels and
messages of those that fail, each in the order of the units.
-/
namespace LogosHooks

namespace Request

def hooks? (request : Request) (u : HeaderUnit) : Option HookText :=
  (request.hookHeader u.source).toOption

def failure? (request : Request) (u : HeaderUnit) : Option Failure :=
  match request.hookHeader u.source with
  | .ok _ => none
  | .error e => some ⟨u.label, e.message⟩

def findsNoClass (request : Request) (u : HeaderUnit) : Bool :=
  request.hookHeader u.source = .error .noClass

end Request

namespace Report

theorem empty_append (r : Report) : {} ++ r = r := by
  change Report.append {} r = r
  simp [Report.append]

theorem append_assoc (r s t : Report) : r ++ s ++ t = r ++ (s ++ t) := by
  change Report.append (Report.append r s) t = Report.append r (Report.append s t)
  simp [Report.append, Nat.add_assoc]

/-- The report says what became of the units under the request, each taken alone. -/
structure Accounts (request : Request) (units : List HeaderUnit) (r : Report) : Prop where
  units_eq : r.units = units.length
  all : r.parsed + r.noClass + r.failed = r.units
  parsed_eq : r.parsed = (units.filterMap request.hooks?).length
  noClass_eq : r.noClass = units.countP request.findsNoClass
  failures_eq : r.failures = units.filterMap request.failure?
  failures_length : r.failures.length = r.noClass + r.failed
  hookCount_eq : r.hookCount = ((units.filterMap request.hooks?).map (·.hookCount)).sum
  text_eq : r.text = (units.filterMap request.hooks?).flatMap (·.text)

theorem accounts_nil (request : Request) : Accounts request [] {} :=
  ⟨rfl, rfl, rfl, rfl, rfl, rfl, rfl, rfl⟩

theorem accounts_ofOutcome (request : Request) (u : HeaderUnit) :
    Accounts request [u] (.ofOutcome u.label (request.hookHeader u.source)) := by
  cases h : request.hookHeader u.source with
  | ok hooks =>
    have hhooks : request.hooks? u = some hooks := by
      rw [Request.hooks?, h]
      rfl
    have hfailure : request.failure? u = none := by
      rw [Request.failure?, h]
    have hclass : request.findsNoClass u = false := by
      rw [Request.findsNoClass, h]
      rfl
    constructor <;> simp [ofOutcome, hhooks, hfailure, hclass]
  | error e =>
    have hhooks : request.hooks? u = none := by
      rw [Request.hooks?, h]
      rfl
    have hfailure : request.failure? u = some ⟨u.label, e.message⟩ := by
      rw [Request.failure?, h]
    by_cases he : e = .noClass
    · have hclass : request.findsNoClass u = true := by
        rw [Request.findsNoClass, h, he]
        rfl
      constructor <;> simp [ofOutcome, he, hhooks, hfailure, hclass]
    · have hclass : request.findsNoClass u = false := by
        rw [Request.findsNoClass, h]
        simpa using he
      constructor <;> simp [ofOutcome, he, hhooks, hfailure, hclass]

theorem Accounts.append {request : Request} {us vs : List HeaderUnit} {r s : Report}
    (hr : Accounts request us r) (hs : Accounts request vs s) :
    Accounts request (us ++ vs) (r ++ s) where
  units_eq := by
    rw [List.length_append, ← hr.units_eq, ← hs.units_eq]
    rfl
  all := by
    have hrall := hr.all
    have hsall := hs.all
    change r.parsed + s.parsed + (r.noClass + s.noClass) + (r.failed + s.failed) =
      r.units + s.units
    omega
  parsed_eq := by
    rw [List.filterMap_append, List.length_append, ← hr.parsed_eq, ← hs.parsed_eq]
    rfl
  noClass_eq := by
    rw [List.countP_append, ← hr.noClass_eq, ← hs.noClass_eq]
    rfl
  failures_eq := by
    rw [List.filterMap_append, ← hr.failures_eq, ← hs.failures_eq]
    rfl
  failures_length := by
    have hrlength := hr.failures_length
    have hslength := hs.failures_length
    change (r.failures ++ s.failures).length = r.noClass + s.noClass + (r.failed + s.failed)
    rw [List.length_append]
    omega
  hookCount_eq := by
    rw [List.filterMap_append, List.map_append, List.sum_append, ← hr.hookCount_eq,
      ← hs.hookCount_eq]
    rfl
  text_eq := by
    rw [List.filterMap_append, List.flatMap_append, ← hr.text_eq, ← hs.text_eq]
    rfl

end Report

theorem batchReport_append (request : Request) (us vs : List HeaderUnit) :
    batchReport request (us ++ vs) = batchReport request us ++ batchReport request vs := by
  induction us with
  | nil => exact (Report.empty_append _).symm
  | cons u us ih => rw [List.cons_append, batchReport, ih, batchReport, Report.append_assoc]

theorem accounts_batchReport (request : Request) (units : List HeaderUnit) :
    (batchReport request units).Accounts request units := by
  induction units with
  | nil => exact Report.accounts_nil request
  | cons u units ih => exact (Report.accounts_ofOutcome request u).append ih

/-- Batches one behind the other are reported one behind the other, and a report is told from the
outcomes of its units alone. -/
theorem batchReport_ordered_sum (request : Request) :
    (∀ us vs, batchReport request (us ++ vs) =
      let r := batchReport request us
      let s := batchReport request vs
      ⟨r.text ++ s.text, r.hookCount + s.hookCount, r.units + s.units, r.parsed + s.parsed,
        r.noClass + s.noClass, r.failed + s.failed, r.failures ++ s.failures⟩) ∧
    ∀ units, (batchReport request units).Accounts request units :=
  ⟨batchReport_append request, accounts_batchReport request⟩

end LogosHooks

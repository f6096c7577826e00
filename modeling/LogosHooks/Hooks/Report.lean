import LogosHooks.Hooks.Request

/-!
A batch of headers. Their hook texts are put one behind the other. A header at fault contributes a
failure to the report and nothing else. No header depends on another, so it makes no difference to
the report whether they are taken one by one or at the same time; how long it takes is no part of
it.
-/
namespace LogosHooks

/-- A header and the name that reports give it. -/
structure HeaderUnit where
  label : Text
  source : Text
deriving DecidableEq, Repr

structure Failure where
  label : Text
  error : Text
deriving DecidableEq, Repr

structure Report where
  text : Text := []
  hookCount : Nat := 0
  units : Nat := 0
  /-- Units with a class, whether or not there was anything to hook. -/
  parsed : Nat := 0
  /-- Units that declare no class. -/
  noClass : Nat := 0
  /-- Units that are at fault in another way. -/
  failed : Nat := 0
  failures : List Failure := []
deriving DecidableEq, Repr

namespace Report

def errors (r : Report) : Nat := r.noClass + r.failed

def ofOutcome (label : Text) : Except Fault HookText → Report
  | .ok hooks => { text := hooks.text, hookCount := hooks.hookCount, units := 1, parsed := 1 }
  | .error e =>
    if e = .noClass then { units := 1, noClass := 1, failures := [⟨label, e.message⟩] }
    else { units := 1, failed := 1, failures := [⟨label, e.message⟩] }

def append (r s : Report) : Report :=
  ⟨r.text ++ s.text, r.hookCount + s.hookCount, r.units + s.units, r.parsed + s.parsed,
    r.noClass + s.noClass, r.failed + s.failed, r.failures ++ s.failures⟩

instance : Append Report := ⟨append⟩

end Report

def batchReport (request : Request) : List HeaderUnit → Report
  | [] => {}
  | u :: rest => .ofOutcome u.label (request.hookHeader u.source) ++ batchReport request rest

end LogosHooks

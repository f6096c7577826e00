import LogosHooks.Hooks.Report

/-!
A session holds a request and a class interface, and takes steps that change them or show something.
A step that fails leaves the session as it was.
-/
namespace LogosHooks

structure Session where
  request : Request := {}
  model : Option ClassInterface := none
deriving Repr

/-- New values for some of the options. -/
structure OptionChanges where
  properties : Option Bool := none
  getters : Option Bool := none
  setters : Option Bool := none
  logArguments : Option Bool := none
  logEntry : Option Bool := none
deriving DecidableEq, Repr

def OptionChanges.apply (changes : OptionChanges) (o : HookOptions) : HookOptions where
  properties := changes.properties.getD o.properties
  getters := changes.getters.getD o.getters
  setters := changes.setters.getD o.setters
  logArguments := changes.logArguments.getD o.logArguments
  logEntry := changes.logEntry.getD o.logEntry

namespace Session

inductive Step where
  | addNames (names : List Text)
  | setDrop (drop : Bool)
  | setOptions (changes : OptionChanges)
  | setFilter (pattern : Option Text)
  | checkTypes (types : List DeclaredType)
  | build (source : Text)
  /-- Makes a model of the given parts. -/
  | useModel (name : Text) (classMethods instanceMethods : List Method) (properties : List Property)
  /-- Leaves out of the model what the filter does not accept. -/
  | narrow
  | render
  | generate (source : Text)
  | batch (units : List HeaderUnit)
deriving Repr

inductive Answer where
  | addedCount (count : Nat)
  | drop (drop : Bool)
  | options (o : HookOptions)
  | filter (pattern : Option Text)
  | known (verdicts : List Bool)
  | model (m : ClassInterface)
  | narrowed (m : ClassInterface)
  | rendered (r : HookText) (count : Nat)
  | generated (r : HookText)
  | report (r : Report)
deriving Repr

inductive StepError where
  | nothingToNarrow
  | noModel
  | fault (e : Fault)
deriving DecidableEq, Repr

def setPolicy (s : Session) (policy : DropPolicy) : Session :=
  { s with request := { s.request with policy := policy } }

def step? (s : Session) : Step → Except StepError (Session × Answer)
  | .addNames names =>
    let registry := s.request.policy.registry.extend names
    return (s.setPolicy { s.request.policy with registry := registry },
      .addedCount registry.addedCount)
  | .setDrop drop => return (s.setPolicy { s.request.policy with dropUnknown := drop }, .drop drop)
  | .setOptions changes =>
    let options := changes.apply s.request.options
    return ({ s with request := { s.request with options := options } }, .options options)
  | .setFilter none =>
    return ({ s with request := { s.request with filter := none } }, .filter none)
  | .setFilter (some source) => do
    let pattern ← (NamePattern.compile source).mapError .fault
    return ({ s with request := { s.request with filter := some pattern } }, .filter (some source))
  | .checkTypes types => return (s, .known (types.map s.request.policy.registry.knows))
  | .build source => do
    let model ← (collect s.request.policy source).mapError .fault
    return ({ s with model := some model }, .model model)
  | .useModel name classMethods instanceMethods properties => do
    let model ←
      (ClassInterface.make name classMethods instanceMethods properties).mapError .fault
    return ({ s with model := some model }, .model model)
  | .narrow =>
    match s.model, s.request.filter with
    | some model, some _ =>
      let narrowed := s.request.narrow model
      return ({ s with model := some narrowed }, .narrowed narrowed)
    | _, _ => throw .nothingToNarrow
  | .render =>
    match s.model with
    | some model => do
      let rendered ← (writeHooks s.request.options model).mapError .fault
      return (s, .rendered rendered (plannedHooks s.request.options model))
    | none => throw .noModel
  | .generate source => do
    return (s, .generated (← (s.request.hookHeader source).mapError .fault))
  | .batch units => return (s, .report (batchReport s.request units))

def run (s : Session) : List Step → List (Except StepError Answer)
  | [] => []
  | step :: rest =>
    match s.step? step with
    | .ok (next, answer) => .ok answer :: next.run rest
    | .error e => .error e :: s.run rest

end Session
end LogosHooks

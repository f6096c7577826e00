import LogosHooks.Hooks.Session
import LogosHooks.Proofs.Hooks.HookLines
import LogosHooks.Proofs.Hooks.Requests

/-!
What a session keeps, whatever steps are taken. A step that fails leaves no trace in it: without
such steps it ends the same, and gives the same answers but for theirs. A type that is known stays
known, and a class always has a name. The hooks of a class can be written whenever there is one.
-/
namespace LogosHooks.Session

variable {s t : Session} {step : Step} {answer : Answer} {e : StepError}

/-! ### Steps -/

/-- The session behind a step. One that fails leaves the session as it was. -/
def next (s : Session) (step : Step) : Session :=
  match s.step? step with
  | .ok (next, _) => next
  | .error _ => s

theorem next_of_ok (h : s.step? step = .ok (t, answer)) : s.next step = t := by
  rw [next, h]

theorem next_of_error (h : s.step? step = .error e) : s.next step = s := by
  rw [next, h]

/-- A step changes the request or the class, and not both. It adds to the known types if it changes
them at all, and a class that it brings comes with a name, or is a part of the one before. -/
theorem step?_cases (h : s.step? step = .ok (t, answer)) :
    (t.model = s.model ∧
        ∃ names, t.request.policy.registry = s.request.policy.registry.extend names) ∨
      (t.request = s.request ∧ ∃ m, t.model = some m ∧
        (m.name ≠ [] ∨ ∃ full, s.model = some full ∧ m = s.request.narrow full)) := by
  cases step with
  | addNames names =>
    cases h
    exact Or.inl ⟨rfl, names, rfl⟩
  | setDrop drop =>
    cases h
    exact Or.inl ⟨rfl, [], rfl⟩
  | setOptions changes =>
    cases h
    exact Or.inl ⟨rfl, [], rfl⟩
  | setFilter pattern =>
    cases pattern with
    | none =>
      cases h
      exact Or.inl ⟨rfl, [], rfl⟩
    | some source =>
      obtain ⟨pattern, -, h⟩ := bind_eq_ok_iff.mp h
      cases h
      exact Or.inl ⟨rfl, [], rfl⟩
  | checkTypes types =>
    cases h
    exact Or.inl ⟨rfl, [], rfl⟩
  | build source =>
    obtain ⟨m, hm, h⟩ := bind_eq_ok_iff.mp h
    cases h
    exact Or.inr ⟨rfl, m, rfl, Or.inl (ne_nil_of_collect (mapError_eq_ok_iff.mp hm))⟩
  | useModel name classMethods instanceMethods properties =>
    obtain ⟨m, hm, h⟩ := bind_eq_ok_iff.mp h
    cases h
    exact Or.inr ⟨rfl, m, rfl, Or.inl (ClassInterface.ne_nil_of_make (mapError_eq_ok_iff.mp hm))⟩
  | narrow =>
    simp only [step?] at h
    split at h
    · next full pattern hmodel hfilter =>
      cases h
      exact Or.inr ⟨rfl, _, rfl, Or.inr ⟨full, hmodel, rfl⟩⟩
    · cases h
  | render =>
    simp only [step?] at h
    split at h
    · obtain ⟨rendered, -, h⟩ := bind_eq_ok_iff.mp h
      cases h
      exact Or.inl ⟨rfl, [], rfl⟩
    · cases h
  | generate source =>
    obtain ⟨rendered, -, h⟩ := bind_eq_ok_iff.mp h
    cases h
    exact Or.inl ⟨rfl, [], rfl⟩
  | batch units =>
    cases h
    exact Or.inl ⟨rfl, [], rfl⟩

theorem containsName_of_step? {name : Text}
    (h : s.request.policy.registry.containsName name = true)
    (hstep : s.step? step = .ok (t, answer)) :
    t.request.policy.registry.containsName name = true := by
  rcases step?_cases hstep with ⟨-, names, hregistry⟩ | ⟨hrequest, -⟩
  · rw [hregistry]
    exact Registry.containsName_extend names h
  · rwa [hrequest]

def Named (s : Session) : Prop := ∀ m, s.model = some m → m.name ≠ []

theorem Named.of_step? (h : s.Named) (hstep : s.step? step = .ok (t, answer)) : t.Named := by
  intro m hm
  rcases step?_cases hstep with ⟨hmodel, -⟩ | ⟨-, m', hmodel, hm'⟩
  · exact h m (hmodel ▸ hm)
  · obtain rfl : m' = m := Option.some.inj (hmodel.symm.trans hm)
    rcases hm' with hname | ⟨full, hfull, rfl⟩
    · exact hname
    · rw [Request.narrow_eq_restrictNames]
      exact h full hfull

/-- The hooks of a class can always be written. -/
theorem step?_render_eq_error_iff :
    s.step? .render = .error e ↔ s.model = none ∧ e = .noModel := by
  simp only [step?]
  cases s.model with
  | none =>
    constructor
    · intro h
      cases h
      exact ⟨rfl, rfl⟩
    · rintro ⟨-, rfl⟩
      rfl
  | some m =>
    constructor
    · intro h
      simp only [writeHooks_eq] at h
      cases h
    · rintro ⟨hnone, -⟩
      cases hnone

/-! ### Runs -/

theorem run_cons (s : Session) (step : Step) (rest : List Step) :
    s.run (step :: rest) = (s.step? step).map Prod.snd :: (s.next step).run rest := by
  rw [run, next]
  cases s.step? step <;> rfl

theorem run_append (s : Session) (steps later : List Step) :
    s.run (steps ++ later) = s.run steps ++ (steps.foldl next s).run later := by
  induction steps generalizing s with
  | nil => rfl
  | cons step rest ih => rw [List.cons_append, run_cons, ih, run_cons]; rfl

def succeeding (s : Session) : List Step → List Step
  | [] => []
  | step :: rest =>
    if (s.step? step).isOk then step :: (s.next step).succeeding rest else s.succeeding rest

/-- Steps that fail leave no trace but their errors. -/
theorem run_succeeding (s : Session) (steps : List Step) :
    (s.succeeding steps).foldl next s = steps.foldl next s ∧
      s.run (s.succeeding steps) = (s.run steps).filter (·.isOk) := by
  induction steps generalizing s with
  | nil => exact ⟨rfl, rfl⟩
  | cons step rest ih =>
    cases hstep : s.step? step with
    | ok result =>
      obtain ⟨hend, hrun⟩ := ih (s.next step)
      have hkept : s.succeeding (step :: rest) = step :: (s.next step).succeeding rest := by
        rw [succeeding, hstep]
        rfl
      rw [hkept, run_cons, run_cons, hstep, hrun]
      exact ⟨hend, rfl⟩
    | error e =>
      have hleft : s.succeeding (step :: rest) = s.succeeding rest := by
        rw [succeeding, hstep]
        rfl
      have hsame : s.next step = s := next_of_error hstep
      rw [hleft, List.foldl_cons, run_cons, hsame, hstep]
      exact ih s

/-- What every step keeps that succeeds is kept to the end. -/
theorem foldl_next {P : Session → Prop}
    (hstep : ∀ s t step answer, P s → s.step? step = .ok (t, answer) → P t) (h : P s)
    (steps : List Step) : P (steps.foldl next s) := by
  induction steps generalizing s with
  | nil => exact h
  | cons step rest ih =>
    refine ih ?_
    cases hnext : s.step? step with
    | ok result =>
      rw [next_of_ok hnext]
      exact hstep s result.1 step result.2 h hnext
    | error e =>
      rw [next_of_error hnext]
      exact h

/-- A type that is known once is known to the end. -/
theorem containsName_foldl {name : Text} (h : s.request.policy.registry.containsName name = true)
    (steps : List Step) :
    (steps.foldl next s).request.policy.registry.containsName name = true :=
  foldl_next (fun _ _ _ _ => containsName_of_step?) h steps

/-- No session has a class without a name. -/
theorem named_foldl (steps : List Step) : (steps.foldl next {}).Named :=
  foldl_next (fun _ _ _ _ => Named.of_step?) (fun _ hm => by cases hm) steps

end LogosHooks.Session

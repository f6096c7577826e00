import LogosHooks.Header.Collect
import LogosHooks.Proofs.Result

/-!
Which fault of a header is reported. The first line that starts a class is looked at before all
others, and then the lines are read from the top. So a header without a class has no other fault, a
fault of the class line hides the faults of the lines in front of it, and otherwise the topmost
faulty line counts. What is done with the members later cannot fail.
-/
namespace LogosHooks

/-- The line stands at this index and passes the test, and no line in front of it does. -/
structure IsFirst (p : Text → Prop) (ls : List Text) (i : Nat) (line : Text) : Prop where
  line_eq : ls[i]? = some line
  passes : p line
  earlier : ∀ j < i, ∀ other, ls[j]? = some other → ¬ p other

/-- The line cannot be told, or it is a method line with arguments that cannot be read. -/
def Faulty (line : Text) (fault : LineFault) : Prop :=
  Line.read line = .error fault ∨
    ∃ parts, Line.read line = .ok (.method parts) ∧ readArguments parts.argumentsText = .error fault

section IsFirst

variable {p : Text → Prop} {line first : Text} {rest : List Text} {i : Nat}

theorem isFirst_cons_iff :
    IsFirst p (first :: rest) i line ↔
      (i = 0 ∧ line = first ∧ p first) ∨ ∃ k, i = k + 1 ∧ ¬ p first ∧ IsFirst p rest k line := by
  constructor
  · intro h
    cases i with
    | zero =>
      have hline : first = line := Option.some.inj h.line_eq
      exact Or.inl ⟨rfl, hline.symm, hline ▸ h.passes⟩
    | succ k =>
      have hfirst : ¬ p first := h.earlier 0 (Nat.succ_pos k) first rfl
      refine Or.inr ⟨k, rfl, hfirst, h.line_eq, h.passes, fun j hj other hother => ?_⟩
      exact h.earlier (j + 1) (Nat.succ_lt_succ hj) other hother
  · rintro (⟨rfl, rfl, hp⟩ | ⟨k, rfl, hfirst, h⟩)
    · exact ⟨rfl, hp, fun j hj => absurd hj (Nat.not_lt_zero j)⟩
    · refine ⟨h.line_eq, h.passes, fun j hj other hother => ?_⟩
      cases j with
      | zero => exact Option.some.inj hother ▸ hfirst
      | succ j => exact h.earlier j (Nat.lt_of_succ_lt_succ hj) other hother

theorem exists_isFirst (p : Text → Prop) (ls : List Text) :
    (∀ line ∈ ls, ¬ p line) ∨ ∃ i line, IsFirst p ls i line := by
  induction ls with
  | nil => exact Or.inl (by simp)
  | cons first rest ih =>
    by_cases hp : p first
    · exact Or.inr ⟨0, first, isFirst_cons_iff.mpr (Or.inl ⟨rfl, rfl, hp⟩)⟩
    · rcases ih with hnone | ⟨i, line, h⟩
      · left
        intro line hline
        rcases List.mem_cons.mp hline with rfl | hline
        · exact hp
        · exact hnone line hline
      · exact Or.inr ⟨i + 1, line, isFirst_cons_iff.mpr (Or.inr ⟨i, rfl, hp, h⟩)⟩

theorem IsFirst.lt_length {ls : List Text} (h : IsFirst p ls i line) : i < ls.length := by
  obtain ⟨hlt, -⟩ := List.getElem?_eq_some_iff.mp h.line_eq
  exact hlt

end IsFirst

/-! ### One line -/

theorem atLine_eq_ok_iff {α : Type} {number : Nat} {x : Except LineFault α} {value : α} :
    atLine number x = .ok value ↔ x = .ok value := by
  cases x <;> simp [atLine]

theorem ofLine_eq_error_iff {line : Text} {fault : LineFault} :
    Member.ofLine line = .error fault ↔ Faulty line fault := by
  unfold Member.ofLine Faulty
  cases hread : Line.read line with
  | error fault' => simp [bind, Except.bind]
  | ok told =>
    cases told with
    | classStart name => simp [bind, Except.bind, pure, Except.pure]
    | other => simp [bind, Except.bind, pure, Except.pure]
    | property parts => simp [bind, Except.bind, pure, Except.pure]
    | method parts =>
      cases hargs : readArguments parts.argumentsText with
      | error fault' => simp [MethodParts.method, bind, Except.bind, hargs]
      | ok arguments => simp [MethodParts.method, bind, Except.bind, pure, Except.pure, hargs]

/-- A class line is read if a blank or nothing follows the marker, and the first word behind it
begins with a name. -/
theorem readClassName_eq_ok_iff {line name : Text} :
    readClassName line = .ok name ↔
      (line.drop classMarker.length).head?.all Text.isBlank = true ∧
        name = ((Text.words (line.drop classMarker.length)).headD []).takeWhile
          (fun c => c != '(' && c != ':' && c != '<') ∧
        name ≠ [] := by
  unfold readClassName
  simp only [bind, Except.bind, pure, Except.pure, throw, throwThe, MonadExceptOf.throw]
  constructor
  · intro h
    split at h
    case isFalse => cases h
    case isTrue hblank =>
      split at h
      case isTrue => cases h
      case isFalse hne =>
        cases h
        exact ⟨hblank, rfl, by simpa using hne⟩
  · rintro ⟨hblank, rfl, hne⟩
    rw [if_pos hblank, if_neg (by simpa using hne)]

/-! ### All lines -/

theorem firstClassName_of_forall {ls : List Text} (h : ∀ line ∈ ls, ¬ isClassLine line = true)
    (number : Nat) : firstClassName number ls = .error .noClass := by
  induction ls generalizing number with
  | nil => rfl
  | cons first rest ih =>
    rw [firstClassName, if_neg (h first List.mem_cons_self)]
    exact ih (fun line hline => h line (List.mem_cons_of_mem first hline)) (number + 1)

theorem firstClassName_of_isFirst {ls : List Text} {i : Nat} {line : Text}
    (h : IsFirst (fun l => isClassLine l = true) ls i line) (number : Nat) :
    firstClassName number ls = atLine (number + i) (readClassName line) := by
  induction ls generalizing number i with
  | nil => simpa using h.line_eq
  | cons first rest ih =>
    rw [firstClassName]
    rcases isFirst_cons_iff.mp h with ⟨rfl, rfl, hp⟩ | ⟨k, rfl, hfirst, hrest⟩
    · rw [if_pos hp, Nat.add_zero]
    · rw [if_neg hfirst, ih hrest, Nat.add_right_comm, Nat.add_assoc]

theorem readMembers_of_forall {ls : List Text} (h : ∀ line ∈ ls, ¬ ∃ fault, Faulty line fault)
    (number : Nat) : ∃ members, readMembers number ls = .ok members := by
  induction ls generalizing number with
  | nil => exact ⟨[], rfl⟩
  | cons first rest ih =>
    obtain ⟨later, hlater⟩ :=
      ih (fun line hline => h line (List.mem_cons_of_mem first hline)) (number + 1)
    cases hfirst : Member.ofLine first with
    | error fault =>
      exact absurd ⟨fault, ofLine_eq_error_iff.mp hfirst⟩ (h first List.mem_cons_self)
    | ok here =>
      refine ⟨here.toList ++ later, ?_⟩
      rw [readMembers, hfirst, hlater]
      rfl

theorem readMembers_of_isFirst {ls : List Text} {i : Nat} {line : Text} {fault : LineFault}
    (h : IsFirst (fun l => ∃ f, Faulty l f) ls i line) (hfault : Faulty line fault)
    (number : Nat) : readMembers number ls = .error (.inLine (number + i) fault) := by
  induction ls generalizing number i with
  | nil => simpa using h.line_eq
  | cons first rest ih =>
    rw [readMembers]
    rcases isFirst_cons_iff.mp h with ⟨rfl, rfl, -⟩ | ⟨k, rfl, hfirst, hrest⟩
    · rw [ofLine_eq_error_iff.mpr hfault]
      rfl
    · cases hread : Member.ofLine first with
      | error fault' => exact absurd ⟨fault', ofLine_eq_error_iff.mp hread⟩ hfirst
      | ok here =>
        have hnumber : number + 1 + k = number + (k + 1) := by omega
        rw [ih hrest (number + 1), hnumber]
        rfl

/-! ### The whole header -/

theorem ClassInterface.make_of_ne_nil {name : Text} (hname : name ≠ [])
    (classMethods instanceMethods : List Method) (properties : List Property) :
    make name classMethods instanceMethods properties =
      .ok ⟨name, classMethods, instanceMethods, properties⟩ := by
  have hne : name.isEmpty = false := by simpa using hname
  rw [make, hne]
  rfl

theorem ClassInterface.ne_nil_of_make {name : Text} {classMethods instanceMethods : List Method}
    {properties : List Property} {m : ClassInterface}
    (h : make name classMethods instanceMethods properties = .ok m) : m.name ≠ [] := by
  unfold make at h
  split at h
  · cases h
  · next hname =>
    cases h
    simpa using hname

theorem exists_line_of_className {source name : Text} (h : className source = .ok name) :
    ∃ line ∈ Text.lines source, readClassName line = .ok name := by
  rcases exists_isFirst (fun l => isClassLine l = true) (Text.lines source) with
    hnone | ⟨i, line, hfirst⟩
  · rw [className, firstClassName_of_forall hnone] at h
    cases h
  · rw [className, firstClassName_of_isFirst hfirst] at h
    exact ⟨line, List.mem_of_getElem? hfirst.line_eq, atLine_eq_ok_iff.mp h⟩

theorem ne_nil_of_className {source name : Text} (h : className source = .ok name) : name ≠ [] := by
  obtain ⟨line, -, hread⟩ := exists_line_of_className h
  exact (readClassName_eq_ok_iff.mp hread).2.2

theorem readHeader_eq_ok_iff {source name : Text} {members : List Member} :
    readHeader source = .ok (name, members) ↔
      className source = .ok name ∧ readMembers 1 (Text.lines source) = .ok members := by
  constructor
  · intro h
    obtain ⟨found, hfound, h⟩ := bind_eq_ok_iff.mp h
    obtain ⟨all, hall, heq⟩ := bind_eq_ok_iff.mp h
    cases heq
    exact ⟨hfound, hall⟩
  · rintro ⟨hname, hmembers⟩
    exact bind_eq_ok_iff.mpr ⟨name, hname, bind_eq_ok_iff.mpr ⟨members, hmembers, rfl⟩⟩

theorem collect_of_className_error (policy : DropPolicy) {source : Text} {fault : Fault}
    (h : className source = .error fault) : collect policy source = .error fault := by
  rw [collect, collectLogged, readHeader, h]
  rfl

theorem collect_of_readMembers_error (policy : DropPolicy) {source name : Text} {fault : Fault}
    (hname : className source = .ok name) (h : readMembers 1 (Text.lines source) = .error fault) :
    collect policy source = .error fault := by
  rw [collect, collectLogged, readHeader, hname]
  -- the name is read, so the members are the next step that can fail
  change Except.map _ (Except.bind (Except.bind (readMembers 1 (Text.lines source)) _) _) = _
  rw [h]
  rfl

/-- Once the members are read, what is kept of them cannot fail. -/
theorem exists_collect (policy : DropPolicy) {source name : Text} {members : List Member}
    (hname : className source = .ok name) (h : readMembers 1 (Text.lines source) = .ok members) :
    ∃ interface, collect policy source = .ok interface := by
  rw [collect, collectLogged, readHeader_eq_ok_iff.mpr ⟨hname, h⟩]
  change ∃ interface, Except.map _ (Except.bind (ClassInterface.ofMembers name _) _) = _
  rw [ClassInterface.ofMembers, ClassInterface.make_of_ne_nil (ne_nil_of_className hname)]
  exact ⟨_, rfl⟩

section Outcome

variable (policy : DropPolicy) {source line : Text} {i : Nat}

theorem className_of_isFirst
    (h : IsFirst (fun l => isClassLine l = true) (Text.lines source) i line) :
    className source = atLine (i + 1) (readClassName line) := by
  rw [className, firstClassName_of_isFirst h, Nat.add_comm]

theorem collect_of_forall (h : ∀ line ∈ Text.lines source, ¬ isClassLine line = true) :
    collect policy source = .error .noClass :=
  collect_of_className_error policy (firstClassName_of_forall h 1)

theorem collect_of_classFault {fault : LineFault}
    (h : IsFirst (fun l => isClassLine l = true) (Text.lines source) i line)
    (hfault : readClassName line = .error fault) :
    collect policy source = .error (.inLine (i + 1) fault) := by
  apply collect_of_className_error
  rw [className_of_isFirst h, hfault]
  rfl

theorem collect_of_isFirst {name other : Text} {k : Nat} {fault : LineFault}
    (h : IsFirst (fun l => isClassLine l = true) (Text.lines source) i line)
    (hname : readClassName line = .ok name)
    (hk : IsFirst (fun l => ∃ f, Faulty l f) (Text.lines source) k other)
    (hfault : Faulty other fault) : collect policy source = .error (.inLine (k + 1) fault) := by
  have hclass : className source = .ok name := by
    rw [className_of_isFirst h, hname]
    rfl
  rw [collect_of_readMembers_error policy hclass (readMembers_of_isFirst hk hfault 1), Nat.add_comm]

theorem exists_collect_of_forall {name : Text}
    (h : IsFirst (fun l => isClassLine l = true) (Text.lines source) i line)
    (hname : readClassName line = .ok name)
    (hlines : ∀ l ∈ Text.lines source, ¬ ∃ f, Faulty l f) :
    ∃ interface, collect policy source = .ok interface := by
  have hclass : className source = .ok name := by
    rw [className_of_isFirst h, hname]
    rfl
  obtain ⟨members, hmembers⟩ := readMembers_of_forall hlines 1
  exact exists_collect policy hclass hmembers

/-- A fault in a line has the number of one of the lines. -/
theorem number_of_collect_error {fault : Fault} (h : collect policy source = .error fault) :
    fault = .noClass ∨
      ∃ n cause, fault = .inLine n cause ∧ 0 < n ∧ n ≤ (Text.lines source).length := by
  rcases exists_isFirst (fun l => isClassLine l = true) (Text.lines source) with
    hnone | ⟨i, line, hfirst⟩
  · rw [collect_of_forall policy hnone, Except.error.injEq] at h
    exact Or.inl h.symm
  · right
    cases hname : readClassName line with
    | error cause =>
      rw [collect_of_classFault policy hfirst hname, Except.error.injEq] at h
      exact ⟨i + 1, cause, h.symm, Nat.succ_pos i, hfirst.lt_length⟩
    | ok name =>
      rcases exists_isFirst (fun l => ∃ f, Faulty l f) (Text.lines source) with
        hclean | ⟨k, other, hk⟩
      · obtain ⟨interface, hok⟩ := exists_collect_of_forall policy hfirst hname hclean
        rw [hok] at h
        cases h
      · obtain ⟨cause, hcause⟩ := hk.passes
        rw [collect_of_isFirst policy hfirst hname hk hcause, Except.error.injEq] at h
        exact ⟨k + 1, cause, h.symm, Nat.succ_pos k, hk.lt_length⟩

end Outcome

/-- A header without a class has no other fault. A fault of the first class line comes before all
others, and then the topmost faulty line counts. Without any of these the header is read. So every
fault but the missing class is in one of the lines, and the name of the class is always accepted. -/
theorem collect_outcome (policy : DropPolicy) (source : Text) :
    ((∀ line ∈ Text.lines source, ¬ isClassLine line = true) →
      collect policy source = .error .noClass) ∧
    (∀ i line, IsFirst (fun l => isClassLine l = true) (Text.lines source) i line →
      (∀ fault, readClassName line = .error fault →
        collect policy source = .error (.inLine (i + 1) fault)) ∧
      (∀ name, readClassName line = .ok name →
        (∀ k other fault, IsFirst (fun l => ∃ f, Faulty l f) (Text.lines source) k other →
          Faulty other fault → collect policy source = .error (.inLine (k + 1) fault)) ∧
        ((∀ l ∈ Text.lines source, ¬ ∃ f, Faulty l f) →
          ∃ interface, collect policy source = .ok interface))) ∧
    (∀ fault, collect policy source = .error fault →
      fault = .noClass ∨
        ∃ n cause, fault = .inLine n cause ∧ 0 < n ∧ n ≤ (Text.lines source).length) ∧
    (∀ name, className source = .ok name → ∀ classMethods instanceMethods properties,
      ClassInterface.make name classMethods instanceMethods properties =
        .ok ⟨name, classMethods, instanceMethods, properties⟩) := by
  refine ⟨collect_of_forall policy, fun i line hfirst => ⟨?_, fun name hname => ⟨?_, ?_⟩⟩, ?_, ?_⟩
  · exact fun fault hfault => collect_of_classFault policy hfirst hfault
  · exact fun k other fault hk hfault => collect_of_isFirst policy hfirst hname hk hfault
  · exact fun hlines => exists_collect_of_forall policy hfirst hname hlines
  · exact fun fault hfault => number_of_collect_error policy hfault
  · exact fun name hname => ClassInterface.make_of_ne_nil (ne_nil_of_className hname)

end LogosHooks

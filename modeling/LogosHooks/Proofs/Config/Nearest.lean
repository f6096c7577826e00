import LogosHooks.Config.Basic

/-!
The suggestion for an unknown key. Among the known keys, in the order in which they are declared,
it is the first at the least distance, and it is made if that distance is within range.
-/
namespace LogosHooks.Config

variable {key candidate best : Text} {candidates rest : List Text}

/-- No candidate is nearer to the key, and those in front of this one are farther away. -/
def IsNearest (key : Text) (candidates : List Text) (best : Text) : Prop :=
  ∃ front behind, candidates = front ++ best :: behind ∧
    (∀ other ∈ front, editDistance key best < editDistance key other) ∧
    ∀ other ∈ behind, editDistance key best ≤ editDistance key other

theorem IsNearest.mem (h : IsNearest key candidates best) : best ∈ candidates := by
  obtain ⟨front, behind, rfl, -, -⟩ := h
  simp

theorem IsNearest.le (h : IsNearest key candidates best) {other : Text}
    (hother : other ∈ candidates) : editDistance key best ≤ editDistance key other := by
  obtain ⟨front, behind, rfl, hfront, hbehind⟩ := h
  rcases List.mem_append.mp hother with hmem | hmem
  · exact Nat.le_of_lt (hfront other hmem)
  · rcases List.mem_cons.mp hmem with rfl | hmem
    · exact Nat.le_refl _
    · exact hbehind other hmem

theorem isNearest_cons_iff :
    IsNearest key (candidate :: rest) best ↔
      (candidate = best ∧ ∀ other ∈ rest, editDistance key candidate ≤ editDistance key other) ∨
      (editDistance key best < editDistance key candidate ∧ IsNearest key rest best) := by
  constructor
  · rintro ⟨front, behind, heq, hfront, hbehind⟩
    cases front with
    | nil =>
      obtain ⟨rfl, rfl⟩ := List.cons.inj heq
      exact Or.inl ⟨rfl, hbehind⟩
    | cons first front =>
      obtain ⟨rfl, rfl⟩ := List.cons.inj heq
      obtain ⟨hfirst, hfront⟩ := List.forall_mem_cons.mp hfront
      exact Or.inr ⟨hfirst, front, behind, rfl, hfront, hbehind⟩
  · rintro (⟨rfl, hbehind⟩ | ⟨hlt, front, behind, rfl, hfront, hbehind⟩)
    · exact ⟨[], rest, rfl, by simp, hbehind⟩
    · exact ⟨candidate :: front, behind, rfl, List.forall_mem_cons.mpr ⟨hlt, hfront⟩, hbehind⟩

theorem nearest?_eq_none_iff : nearest? key candidates = none ↔ candidates = [] := by
  cases candidates with
  | nil => simp [nearest?]
  | cons candidate rest =>
    rw [nearest?]
    cases nearest? key rest with
    | none => simp
    | some other =>
      by_cases hlt : editDistance key other < editDistance key candidate <;> simp [hlt]

/-- The search finds the first of the candidates at the least distance. -/
theorem nearest?_eq_some_iff :
    nearest? key candidates = some best ↔ IsNearest key candidates best := by
  induction candidates generalizing best with
  | nil => simp [nearest?, IsNearest]
  | cons candidate rest ih =>
    rw [isNearest_cons_iff, nearest?]
    cases hrest : nearest? key rest with
    | none =>
      have hnil : rest = [] := nearest?_eq_none_iff.mp hrest
      subst hnil
      simp [IsNearest]
    | some other =>
      have hother : IsNearest key rest other := ih.mp hrest
      have hbest : IsNearest key rest best ↔ other = best := by
        rw [← ih, hrest, Option.some.injEq]
      by_cases hlt : editDistance key other < editDistance key candidate
      · have hnot : ¬ ∀ x ∈ rest, editDistance key candidate ≤ editDistance key x := fun hall =>
          absurd (hall other hother.mem) (Nat.not_le_of_lt hlt)
        simp only [if_pos hlt, Option.some.injEq, hnot, and_false, false_or, hbest]
        exact ⟨fun h => ⟨h ▸ hlt, h⟩, fun h => h.2⟩
      · have hall : ∀ x ∈ rest, editDistance key candidate ≤ editDistance key x := fun x hx =>
          Nat.le_trans (Nat.le_of_not_lt hlt) (hother.le hx)
        simp only [if_neg hlt, Option.some.injEq, hbest]
        constructor
        · exact fun h => Or.inl ⟨h, hall⟩
        · rintro (⟨h, -⟩ | ⟨hbetter, rfl⟩)
          · exact h
          · exact absurd hbetter hlt

theorem suggestion?_eq_some_iff :
    suggestion? key = some best ↔
      IsNearest key knownKeys best ∧ editDistance key best ≤ suggestionRange := by
  rw [suggestion?, Option.filter_eq_some_iff, nearest?_eq_some_iff, decide_eq_true_eq]

/-- There is a suggestion exactly if some known key is within range. -/
theorem isSome_suggestion?_iff :
    (suggestion? key).isSome = true ↔
      ∃ known ∈ knownKeys, editDistance key known ≤ suggestionRange := by
  rw [Option.isSome_iff_exists]
  constructor
  · rintro ⟨best, hbest⟩
    obtain ⟨hnearest, hrange⟩ := suggestion?_eq_some_iff.mp hbest
    exact ⟨best, hnearest.mem, hrange⟩
  · rintro ⟨known, hknown, hrange⟩
    have hne : nearest? key knownKeys ≠ none := fun h =>
      List.ne_nil_of_mem hknown (nearest?_eq_none_iff.mp h)
    obtain ⟨best, hbest⟩ := Option.ne_none_iff_exists'.mp hne
    have hnearest := nearest?_eq_some_iff.mp hbest
    exact ⟨best, suggestion?_eq_some_iff.mpr ⟨hnearest, Nat.le_trans (hnearest.le hknown) hrange⟩⟩

end LogosHooks.Config

import LogosHooks.Proofs.Hooks.SingleLines

/-!
The layout of a hook text. Apart from the two directives, no line of it begins with `%`; the lines
that begin with a sign stand between the directives, and they are the signatures of the accessors
that are asked for, of the class methods and of the instance methods.
-/
namespace LogosHooks

open Text

/-! ### Directives -/

def isDirective (line : Text) : Bool := line.head? == some '%'

namespace Hook

theorem isDirective_opening (h : Hook) : isDirective h.opening = false := by
  rcases h.head?_opening with hhead | hhead <;> rw [isDirective, hhead] <;> rfl

theorem isDirective_of_mem_block {o : HookOptions} {h : Hook} {l : Text} (hl : l ∈ h.block o) :
    isDirective l = false := by
  rcases List.mem_append.mp hl with hl | hl
  · rcases List.mem_cons.mp hl with rfl | hl
    · exact h.isDirective_opening
    · obtain ⟨t, rfl⟩ := exists_indent_of_mem_body hl
      rfl
  · rw [List.mem_singleton.mp hl]
    rfl

end Hook

theorem HookSection.isDirective_of_mem_lines {o : HookOptions} {s : HookSection} {l : Text}
    (hl : l ∈ s.lines o) : isDirective l = false := by
  unfold lines at hl
  split at hl
  · simp at hl
  · rcases List.mem_append.mp hl with hl | hl
    · rcases List.mem_cons.mp hl with rfl | hl
      · rfl
      · obtain ⟨g, -, hl⟩ := List.mem_flatMap.mp hl
        rcases List.mem_append.mp hl with hl | hl
        · obtain ⟨h, -, hl⟩ := List.mem_flatMap.mp hl
          exact Hook.isDirective_of_mem_block hl
        · rw [List.mem_singleton.mp hl]
          rfl
    · rw [List.mem_singleton.mp hl]
      rfl

theorem isDirective_of_mem_frameLines {name l : Text} (hl : l ∈ frameLines name) :
    isDirective l = false := by
  simp only [frameLines, List.mem_cons, List.not_mem_nil, or_false] at hl
  rcases hl with rfl | rfl | rfl | rfl
  · rfl
  · rfl
  · cases name <;> rfl
  · rfl

/-- A hook text has two directives. -/
theorem filter_isDirective_hookLines (o : HookOptions) (m : ClassInterface) :
    (hookLines o m).filter isDirective = ["%hook ".toList ++ m.name, "%end".toList] := by
  have hframe : (frameLines m.name).filter isDirective = [] := by
    rw [List.filter_eq_nil_iff]
    intro l hl
    simp [isDirective_of_mem_frameLines hl]
  have hsections : ((hookSections o m).flatMap (·.lines o)).filter isDirective = [] := by
    rw [List.filter_eq_nil_iff]
    intro l hl
    obtain ⟨s, -, hl⟩ := List.mem_flatMap.mp hl
    simp [HookSection.isDirective_of_mem_lines hl]
  have hopening : ["%hook ".toList ++ m.name, []].filter isDirective =
      ["%hook ".toList ++ m.name] := rfl
  have hclosing : ["%end".toList, [], []].filter isDirective = ["%end".toList] := rfl
  rw [hookLines, List.filter_append, List.filter_append, List.filter_append, hframe, hsections,
    hopening, hclosing]
  rfl

/-- A kind of directives is looked for among the directives only. -/
theorem filter_hookLines_of_isDirective {p : Text → Bool} (hp : ∀ l, p l = true → isDirective l)
    (o : HookOptions) (m : ClassInterface) :
    (hookLines o m).filter p = ["%hook ".toList ++ m.name, "%end".toList].filter p := by
  rw [← filter_isDirective_hookLines o m, List.filter_filter]
  refine List.filter_congr fun l _ => ?_
  cases hl : p l with
  | false => rfl
  | true => rw [hp l hl, Bool.and_self]

/-! ### Signatures -/

/-- The signatures that are hooked: those of the accessors of each property, as far as they are
asked for, those of the class methods and those of the instance methods. -/
def hookSignatures (o : HookOptions) (m : ClassInterface) : List Text :=
  (if o.properties then
      m.properties.flatMap fun p =>
        (if o.getters then
          ["-(".toList ++ p.type.display ++ ") get".toList ++ capitalize p.name] else []) ++
        if o.setters then
          ["-(void) set".toList ++ capitalize p.name ++ ": (".toList ++ p.type.display ++
            ')' :: p.name] else []
    else []) ++ m.classMethods.map Method.display ++ m.instanceMethods.map Method.display

theorem map_signature_accessorHooks (o : HookOptions) (p : Property) :
    (accessorHooks o p).map Hook.signature =
      (if o.getters then
        ["-(".toList ++ p.type.display ++ ") get".toList ++ capitalize p.name] else []) ++
      if o.setters then
        ["-(void) set".toList ++ capitalize p.name ++ ": (".toList ++ p.type.display ++
          ')' :: p.name] else [] := by
  have hgetter : (Hook.getter p).signature =
      "-(".toList ++ p.type.display ++ ") get".toList ++ capitalize p.name := by
    simp [Hook.signature_getter, getterSelector]
  have hsetter : (Hook.setter p).signature = "-(void) set".toList ++ capitalize p.name ++
      ": (".toList ++ p.type.display ++ ')' :: p.name := by
    simp [Hook.signature_setter, setterSelector]
  rw [accessorHooks, List.map_append, ← hgetter, ← hsetter]
  cases o.getters <;> cases o.setters <;> rfl

theorem map_signature_allHooks (o : HookOptions) (m : ClassInterface) :
    (allHooks o m).map Hook.signature = hookSignatures o m := by
  have hmethods : ∀ ms : List Method,
      (ms.map Hook.method).map Hook.signature = ms.map Method.display := by
    intro ms
    rw [List.map_map]
    rfl
  rw [allHooks_eq, hookSignatures, List.map_append, List.map_append, hmethods, hmethods]
  congr 2
  unfold HookOptions.hooksProperties
  cases hproperties : o.properties with
  | false => rfl
  | true =>
    -- Without accessors asked for, each property has the empty list of signatures.
    cases hgetters : o.getters <;> cases hsetters : o.setters <;>
      simp [List.map_flatMap, map_signature_accessorHooks, hgetters, hsetters]

/-! ### Layout -/

/-- The lines of a hook text: each directive stands there once, and the lines that begin with a sign
are the signatures, all of them between the directives. -/
structure HookLayout (o : HookOptions) (m : ClassInterface) (ls : List Text) : Prop where
  opening : ls.filter ("%hook ".toList.isPrefixOf ·) = ["%hook ".toList ++ m.name]
  closing : ls.filter (· == "%end".toList) = ["%end".toList]
  signatures : ∃ front between back : List Text,
    ls = front ++ ("%hook ".toList ++ m.name) :: between ++ "%end".toList :: back ∧
    (∀ l ∈ front ++ back, isMethodLine l = false) ∧
    between.filter isMethodLine = (hookSignatures o m).map (· ++ [' ', '\x7b'])

theorem hookLayout_hookLines (o : HookOptions) (m : ClassInterface) :
    HookLayout o m (hookLines o m ++ [[]]) where
  opening := by
    have hdirective : ∀ l : Text, "%hook ".toList.isPrefixOf l = true → isDirective l := by
      intro l hl
      obtain ⟨rest, rfl⟩ := List.isPrefixOf_iff_prefix.mp hl
      rfl
    rw [List.filter_append, filter_hookLines_of_isDirective hdirective]
    simp
  closing := by
    have hdirective : ∀ l : Text, (l == "%end".toList) = true → isDirective l := by
      intro l hl
      rw [eq_of_beq hl]
      rfl
    rw [List.filter_append, filter_hookLines_of_isDirective hdirective]
    simp
  signatures := by
    refine ⟨frameLines m.name, [] :: (hookSections o m).flatMap (·.lines o), [[], [], []],
      by simp [hookLines], ?_, ?_⟩
    · intro l hl
      rcases List.mem_append.mp hl with hl | hl
      · exact Bool.eq_false_iff.mpr (List.filter_eq_nil_iff.mp (filter_frameLines m.name) l hl)
      · simp only [List.mem_cons, List.not_mem_nil, or_false, or_self] at hl
        rw [hl]
        rfl
    · have hempty : isMethodLine [] = false := rfl
      rw [List.filter_cons_of_neg (by simp [hempty]), List.filter_flatMap,
        ← map_signature_allHooks, List.map_map]
      simp only [HookSection.filter_lines]
      rw [allHooks, List.map_flatMap]
      rfl

/-- Writing never fails. As many hooks are counted as are announced, there is a text if and only if
there is a hook, and where no name and no type has a line feed, the lines of the text are laid out
around the signatures, one for each hook. -/
theorem writeHooks_layout (o : HookOptions) (m : ClassInterface) :
    ∃ r, writeHooks o m = .ok r ∧ r.hookCount = plannedHooks o m ∧
      (r.text = [] ↔ r.hookCount = 0) ∧
      (hookSignatures o m).length = r.hookCount ∧
      (m.SingleLine → r.text ≠ [] → HookLayout o m (r.text.splitOn '\n')) := by
  have hcount : (hookSignatures o m).length = plannedHooks o m := by
    rw [← map_signature_allHooks, List.length_map, length_allHooks]
  have hlines : ofLines (hookLines o m) ≠ [] := by
    simp [hookLines, frameLines, ofLines]
  refine ⟨_, writeHooks_eq o m, rfl, ?_, hcount, ?_⟩
  · by_cases hplanned : plannedHooks o m = 0 <;> simp [hplanned, hlines]
  · intro hm htext
    have hplanned : plannedHooks o m ≠ 0 := by
      intro hzero
      simp [hzero] at htext
    rw [if_neg hplanned, splitOn_ofLines hm.not_mem_hookLines]
    exact hookLayout_hookLines o m

theorem writeHooks_layout_lamp :
    let p : Property := ⟨"tint".toList, ⟨"UIColor".toList, 1⟩⟩
    let shared : Method := ⟨"shared".toList, true, ⟨"id".toList, 0⟩, [], false⟩
    let dim : Method := ⟨"dim".toList, false, .void,
      [⟨[], ⟨"int".toList, 0⟩, "level".toList⟩], false⟩
    let m : ClassInterface := ⟨"Lamp".toList, [shared], [dim], [p]⟩
    let o : HookOptions := { getters := true, setters := true, logArguments := true }
    hookSignatures o m = ["-(UIColor *) getTint".toList,
        "-(void) setTint: (UIColor *)tint".toList, "+(id) shared".toList,
        "-(void) dim:(int) level".toList] ∧
      ∃ r, writeHooks o m = .ok r ∧ r.hookCount = 4 ∧
        HookLayout o m (r.text.splitOn '\n') := by
  intro p shared dim m o
  have hm : m.SingleLine := by decide +kernel
  obtain ⟨r, hr, hcount, hempty, -, hlayout⟩ := writeHooks_layout o m
  have hfour : r.hookCount = 4 := hcount.trans (by decide)
  have htext : r.text ≠ [] := by
    intro hnil
    rw [hempty.mp hnil] at hfour
    exact absurd hfour (by decide)
  exact ⟨by decide +kernel, r, hr, hfour, hlayout hm htext⟩

end LogosHooks

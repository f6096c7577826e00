import LogosHooks.Declaration.Line
import LogosHooks.Hooks.HookText
import LogosHooks.Proofs.Text.Lines

/-!
The lines of a hook text. All lines but the signatures of the hooks begin with something other than
a sign, so the signatures can be told from the other lines, whatever is logged. As many hooks are
written as are announced, and a hook text is never missing.
-/
namespace LogosHooks

open Text

/-! ### Signatures -/

namespace Hook

theorem signature_getter (p : Property) : (getter p).signature =
    "-(".toList ++ p.type.display ++ ") ".toList ++ getterSelector p.name := rfl

theorem signature_setter (p : Property) : (setter p).signature =
    "-(void) ".toList ++ setterSelector p.name ++ ": (".toList ++ p.type.display ++
      ')' :: p.name := rfl

def opening (h : Hook) : Text := h.signature ++ [' ', '\x7b']

theorem head?_opening (h : Hook) :
    h.opening.head? = some '+' ∨ h.opening.head? = some '-' := by
  cases h with
  | getter p => exact Or.inr rfl
  | setter p => exact Or.inr rfl
  | method m =>
    have hhead : (opening (.method m)).head? = some m.sign := rfl
    rw [hhead, Method.sign]
    cases m.isStatic
    · exact Or.inr rfl
    · exact Or.inl rfl

theorem isMethodLine_opening (h : Hook) : isMethodLine h.opening = true := by
  rcases h.head?_opening with hhead | hhead <;> rw [isMethodLine, hhead] <;> rfl

theorem isMethodLine_indent (t : Text) : isMethodLine (indent t) = false := rfl

theorem exists_indent_of_mem_enterLog {o : HookOptions} {p : Property} {accessor : String}
    {l : Text} (hl : l ∈ enterLog o p accessor) : ∃ t, l = indent t := by
  unfold enterLog at hl
  split at hl
  · exact ⟨_, List.mem_singleton.mp hl⟩
  · simp at hl

/-- What stands between the braces is indented. -/
theorem exists_indent_of_mem_body {o : HookOptions} {h : Hook} {l : Text} (hl : l ∈ h.body o) :
    ∃ t, l = indent t := by
  cases h with
  | getter p =>
    rcases List.mem_append.mp hl with henter | hl
    · exact exists_indent_of_mem_enterLog henter
    · simp only [List.mem_cons, List.not_mem_nil, or_false] at hl
      rcases hl with rfl | rfl | rfl <;> exact ⟨_, rfl⟩
  | setter p =>
    rcases List.mem_append.mp hl with henter | hl
    · exact exists_indent_of_mem_enterLog henter
    · simp only [List.mem_cons, List.not_mem_nil, or_false] at hl
      rcases hl with rfl | rfl <;> exact ⟨_, rfl⟩
  | method m =>
    rcases List.mem_append.mp hl with hfront | hlast
    · rcases List.mem_cons.mp hfront with rfl | hlog
      · exact ⟨_, rfl⟩
      · split at hlog
        · obtain ⟨a, -, rfl⟩ := List.mem_map.mp hlog
          exact ⟨_, rfl⟩
        · simp at hlog
    · exact ⟨_, List.mem_singleton.mp hlast⟩

/-- The signature is the one line of a block that begins with a sign. -/
theorem filter_block (o : HookOptions) (h : Hook) :
    (h.block o).filter isMethodLine = [h.opening] := by
  have hbody : (h.body o).filter isMethodLine = [] := by
    rw [List.filter_eq_nil_iff]
    intro l hl
    obtain ⟨t, rfl⟩ := exists_indent_of_mem_body hl
    simp [isMethodLine_indent]
  have hclose : isMethodLine ['\x7d'] = false := rfl
  have hblock : h.block o = h.opening :: h.body o ++ [['\x7d']] := rfl
  rw [hblock, List.filter_append, List.filter_cons_of_pos h.isMethodLine_opening, hbody,
    List.filter_cons_of_neg (by simp [hclose])]
  rfl

end Hook

/-! ### Sections -/

namespace HookSection

theorem filter_flatMap_block (o : HookOptions) (g : List Hook) :
    (g.flatMap (·.block o)).filter isMethodLine = g.map Hook.opening := by
  rw [List.filter_flatMap]
  simp only [Hook.filter_block]
  exact List.map_eq_flatMap.symm

theorem filter_lines (o : HookOptions) (s : HookSection) :
    (s.lines o).filter isMethodLine = s.hooks.map Hook.opening := by
  have hempty : [([] : Text)].filter isMethodLine = [] := rfl
  have htitle : ¬ isMethodLine ("/* ".toList ++ s.title ++ " */".toList) = true := by
    simp [isMethodLine]
  have hgroups : (s.groups.flatMap fun g => g.flatMap (·.block o) ++ [[]]).filter isMethodLine =
      s.hooks.map Hook.opening := by
    rw [List.filter_flatMap]
    simp only [List.filter_append, filter_flatMap_block, hempty, List.append_nil]
    rw [hooks, List.map_flatten, List.flatMap_def]
  unfold lines
  split
  · next hnil => simp [hooks, List.isEmpty_iff.mp hnil]
  · rw [List.cons_append, List.filter_cons_of_neg htitle, List.filter_append, hgroups, hempty,
      List.append_nil]

end HookSection

theorem filter_frameLines (name : Text) : (frameLines name).filter isMethodLine = [] := by
  have hborder : ¬ isMethodLine (List.replicate name.length '=' ++ "==*/".toList) = true := by
    cases name with
    | nil => exact Bool.false_ne_true
    | cons c name => exact Bool.false_ne_true
  rw [List.filter_eq_nil_iff]
  intro l hl
  simp only [frameLines, List.mem_cons, List.not_mem_nil, or_false] at hl
  rcases hl with rfl | rfl | rfl | rfl
  · simp [isMethodLine]
  · simp [isMethodLine]
  · exact hborder
  · simp [isMethodLine]

/-! ### Hook texts -/

def allHooks (o : HookOptions) (m : ClassInterface) : List Hook :=
  (hookSections o m).flatMap (·.hooks)

/-- The lines of a hook text that begin with a sign are the signatures of the hooks. -/
theorem filter_hookLines (o : HookOptions) (m : ClassInterface) :
    (hookLines o m).filter isMethodLine = (allHooks o m).map Hook.opening := by
  have hhook : ["%hook ".toList ++ m.name, []].filter isMethodLine = [] := rfl
  have hend : ["%end".toList, [], []].filter isMethodLine = [] := rfl
  rw [hookLines, List.filter_append, List.filter_append, List.filter_append, filter_frameLines,
    hhook, hend, List.filter_flatMap]
  simp only [HookSection.filter_lines, List.nil_append, List.append_nil]
  rw [allHooks, List.map_flatMap]

theorem allHooks_eq (o : HookOptions) (m : ClassInterface) :
    allHooks o m =
      (if o.hooksProperties then m.properties.flatMap (accessorHooks o) else []) ++
        m.classMethods.map Hook.method ++ m.instanceMethods.map Hook.method := by
  have hsingle : ∀ ms : List Method,
      (ms.map fun method => [Hook.method method]).flatten = ms.map Hook.method := by
    intro ms
    rw [← List.flatMap_def, List.map_eq_flatMap]
  unfold allHooks hookSections
  simp only [List.flatMap_cons, List.flatMap_nil, HookSection.hooks, hsingle, List.append_nil,
    List.append_assoc]
  split
  · rw [← List.flatMap_def]
  · rfl

theorem mem_accessorHooks {o : HookOptions} {p : Property} {h : Hook}
    (hh : h ∈ accessorHooks o p) : h = .getter p ∨ h = .setter p := by
  unfold accessorHooks at hh
  rcases List.mem_append.mp hh with hh | hh
  · split at hh
    · exact Or.inl (List.mem_singleton.mp hh)
    · simp at hh
  · split at hh
    · exact Or.inr (List.mem_singleton.mp hh)
    · simp at hh

/-- A fact about the hooks of a class is a fact about both accessors of each property and about each
method. -/
theorem forall_allHooks {P : Hook → Prop} {o : HookOptions} {m : ClassInterface}
    (hproperties : ∀ p ∈ m.properties, P (.getter p) ∧ P (.setter p))
    (hclass : ∀ method ∈ m.classMethods, P (.method method))
    (hinstance : ∀ method ∈ m.instanceMethods, P (.method method)) :
    ∀ h ∈ allHooks o m, P h := by
  intro h hh
  rw [allHooks_eq, List.mem_append, List.mem_append] at hh
  rcases hh with (hh | hh) | hh
  · split at hh
    · obtain ⟨p, hp, hh⟩ := List.mem_flatMap.mp hh
      rcases mem_accessorHooks hh with rfl | rfl
      · exact (hproperties p hp).1
      · exact (hproperties p hp).2
    · simp at hh
  · obtain ⟨method, hmethod, rfl⟩ := List.mem_map.mp hh
    exact hclass method hmethod
  · obtain ⟨method, hmethod, rfl⟩ := List.mem_map.mp hh
    exact hinstance method hmethod

theorem length_accessorHooks (o : HookOptions) (p : Property) :
    (accessorHooks o p).length = o.accessorCount := by
  unfold accessorHooks HookOptions.accessorCount
  cases o.getters <;> cases o.setters <;> rfl

/-- As many hooks are written as are announced. -/
theorem length_allHooks (o : HookOptions) (m : ClassInterface) :
    (allHooks o m).length = plannedHooks o m := by
  rw [allHooks_eq, plannedHooks]
  simp only [List.length_append, List.length_map]
  split
  · rw [List.length_flatMap]
    simp [length_accessorHooks]
  · rfl

theorem isMethodLine_dropReturn (t : Text) : isMethodLine (dropReturn t) = isMethodLine t := by
  rcases dropReturn_cases t with heq | heq
  · rw [heq]
  · cases hfront : dropReturn t with
    | nil =>
      rw [heq, hfront]
      rfl
    | cons c rest =>
      rw [heq, hfront]
      rfl

theorem Hook.dropReturn_opening (h : Hook) : dropReturn h.opening = h.opening := by
  apply dropReturn_of_getLast?
  have hsplit : h.opening = h.signature ++ [' '] ++ ['{'] := by simp [opening]
  rw [hsplit, List.getLast?_concat]
  decide

/-- Writing never fails, and the hooks that are written are those that were announced. -/
theorem writeHooks_eq (o : HookOptions) (m : ClassInterface) :
    writeHooks o m =
      .ok ⟨if plannedHooks o m = 0 then [] else ofLines (hookLines o m), plannedHooks o m⟩ := by
  have hlength : ((hookSections o m).flatMap (·.hooks)).length = plannedHooks o m :=
    length_allHooks o m
  unfold writeHooks
  by_cases hplanned : plannedHooks o m = 0
  · simp [hplanned]
  · simp [hplanned, hlength]

/-- The signatures of the hooks are found in the text. -/
theorem exists_writeHooks {o : HookOptions} {m : ClassInterface}
    (hlines : ∀ l ∈ hookLines o m, '\n' ∉ l) :
    ∃ r, writeHooks o m = .ok r ∧
      (lines r.text).filter isMethodLine = (allHooks o m).map Hook.opening := by
  refine ⟨_, writeHooks_eq o m, ?_⟩
  by_cases hplanned : plannedHooks o m = 0
  · rw [List.length_eq_zero_iff.mp ((length_allHooks o m).trans hplanned), if_pos hplanned]
    rfl
  · have hmap : ∀ ls : List Text,
        (ls.map dropReturn).filter isMethodLine = (ls.filter isMethodLine).map dropReturn := by
      intro ls
      rw [List.filter_map]
      congr 2
      exact funext isMethodLine_dropReturn
    have hlast : [([] : Text)].filter isMethodLine = [] := rfl
    rw [if_neg hplanned, lines_ofLines hlines, List.filter_append, hmap, hlast, List.append_nil,
      filter_hookLines, List.map_map]
    exact List.map_congr_left fun h _ => h.dropReturn_opening

end LogosHooks

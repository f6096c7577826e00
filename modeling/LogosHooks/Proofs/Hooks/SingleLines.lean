import LogosHooks.Proofs.Hooks.HookLines

/-!
Classes whose names and types have no line feed in them. Then none of the lines of a hook text has
one, whatever is logged, so the lines of the text are those that are written.
-/
namespace LogosHooks

/-! ### Pieces of a line -/

theorem Text.toNat_ofNat (n : Nat) : (Char.ofNat n).toNat = n ∨ (Char.ofNat n).toNat = 0 := by
  by_cases h : n.isValidChar
  · refine Or.inl ?_
    rw [Char.ofNat, dif_pos h]
    rfl
  · refine Or.inr ?_
    rw [Char.ofNat, dif_neg h]
    rfl

/-- Only a line feed has a line feed in its uppercase form. -/
theorem Text.not_mem_upper {c : Char} (hc : c ≠ '\n') : '\n' ∉ upper c := by
  have hwide : ∀ entry ∈ wideUppercase, '\n' ∉ entry.2.map Char.ofNat := by decide +kernel
  have hruns : ∀ r ∈ caseRuns, 10 < (r.first : Int) + r.shift := by decide +kernel
  unfold upper
  split
  · next ns hns =>
    obtain ⟨front, rest, hsplit, -⟩ := List.lookup_eq_some_iff.mp hns
    exact hwide (c.toNat, ns) (by simp [hsplit])
  · split
    · next r hr =>
      have hfirst : r.first ≤ c.toNat := by
        have hcovers := List.find?_some hr
        simp only [CaseRun.covers, Bool.and_eq_true, decide_eq_true_eq] at hcovers
        exact hcovers.1.1
      have hrun := hruns r (List.mem_of_find?_eq_some hr)
      rw [List.mem_singleton]
      intro heq
      have hvalue : 10 = (Char.ofNat (c.toNat + r.shift).toNat).toNat := congrArg Char.toNat heq
      rcases toNat_ofNat (c.toNat + r.shift).toNat with h | h <;> omega
    · simpa using hc.symm

theorem not_mem_capitalize {t : Text} (ht : '\n' ∉ t) : '\n' ∉ capitalize t := by
  cases t with
  | nil => exact ht
  | cons c rest =>
    have hc : c ≠ '\n' := fun h => ht (by simp [h])
    have hrest : '\n' ∉ rest := fun h => ht (List.mem_cons_of_mem c h)
    simp [capitalize, Text.not_mem_upper hc, hrest]

namespace DeclaredType

theorem not_mem_display {ty : DeclaredType} (hname : '\n' ∉ ty.name) : '\n' ∉ ty.display := by
  unfold display
  split <;> simp [hname]

theorem not_mem_logFormat (ty : DeclaredType) : '\n' ∉ ty.logFormat := by
  have hall : ∀ f ∈ logFormats, '\n' ∉ f.2.toList := by decide
  unfold logFormat
  split
  · next f conversion hfind => exact hall _ (List.mem_of_find?_eq_some hfind)
  · decide

end DeclaredType

/-! ### Members -/

structure Argument.SingleLine (a : Argument) : Prop where
  keyword : '\n' ∉ a.keyword
  type : '\n' ∉ a.type.name
  name : '\n' ∉ a.name

instance (a : Argument) : Decidable a.SingleLine :=
  decidable_of_iff ('\n' ∉ a.keyword ∧ '\n' ∉ a.type.name ∧ '\n' ∉ a.name)
    ⟨fun ⟨h₁, h₂, h₃⟩ => ⟨h₁, h₂, h₃⟩, fun ⟨h₁, h₂, h₃⟩ => ⟨h₁, h₂, h₃⟩⟩

structure Method.SingleLine (m : Method) : Prop where
  selector : '\n' ∉ m.selector
  returnType : '\n' ∉ m.returnType.name
  arguments : ∀ a ∈ m.arguments, a.SingleLine

instance (m : Method) : Decidable m.SingleLine :=
  decidable_of_iff
    ('\n' ∉ m.selector ∧ '\n' ∉ m.returnType.name ∧ ∀ a ∈ m.arguments, a.SingleLine)
    ⟨fun ⟨h₁, h₂, h₃⟩ => ⟨h₁, h₂, h₃⟩, fun ⟨h₁, h₂, h₃⟩ => ⟨h₁, h₂, h₃⟩⟩

structure Property.SingleLine (p : Property) : Prop where
  name : '\n' ∉ p.name
  type : '\n' ∉ p.type.name

instance (p : Property) : Decidable p.SingleLine :=
  decidable_of_iff ('\n' ∉ p.name ∧ '\n' ∉ p.type.name)
    ⟨fun ⟨h₁, h₂⟩ => ⟨h₁, h₂⟩, fun ⟨h₁, h₂⟩ => ⟨h₁, h₂⟩⟩

theorem Argument.SingleLine.not_mem_display {a : Argument} (ha : a.SingleLine) :
    '\n' ∉ a.display := by
  simp [display, ha.keyword, DeclaredType.not_mem_display ha.type, ha.name]

theorem Method.SingleLine.not_mem_display {m : Method} (hm : m.SingleLine) : '\n' ∉ m.display := by
  have hsign : '\n' ≠ m.sign := by
    unfold sign
    split <;> decide
  have harguments : '\n' ∉ Text.unwords (m.arguments.map Argument.display) := by
    intro hmem
    obtain ⟨t, ht, hc⟩ := Text.exists_mem_of_mem_intercalate (by decide) hmem
    obtain ⟨a, ha, rfl⟩ := List.mem_map.mp ht
    exact (hm.arguments a ha).not_mem_display hc
  have hellipsis : '\n' ∉ (if m.isVariadic then ", ...".toList else []) := by
    split <;> simp
  simp only [display, List.mem_append, List.mem_cons, not_or]
  exact ⟨⟨⟨⟨⟨hsign, by decide, DeclaredType.not_mem_display hm.returnType⟩, by decide⟩,
    hm.selector⟩, harguments⟩, hellipsis⟩

/-! ### Hooks -/

namespace Hook

def SingleLine : Hook → Prop
  | getter p | setter p => p.SingleLine
  | method m => m.SingleLine

theorem SingleLine.not_mem_signature {h : Hook} (hh : h.SingleLine) : '\n' ∉ h.signature := by
  cases h with
  | getter p =>
    have hp : p.SingleLine := hh
    rw [signature_getter]
    simp [getterSelector, DeclaredType.not_mem_display hp.type, not_mem_capitalize hp.name]
  | setter p =>
    have hp : p.SingleLine := hh
    rw [signature_setter]
    simp [setterSelector, DeclaredType.not_mem_display hp.type, not_mem_capitalize hp.name,
      hp.name]
  | method m => exact Method.SingleLine.not_mem_display hh

theorem not_mem_logLine {message : Text} {value : Option Text} (hmessage : '\n' ∉ message)
    (hvalue : ∀ v ∈ value, '\n' ∉ v) : '\n' ∉ logLine message value := by
  cases value with
  | none => simp [logLine, indent, hmessage]
  | some v => simp [logLine, indent, hmessage, hvalue v rfl]

theorem not_mem_enterLog {o : HookOptions} {p : Property} {accessor : String}
    (hp : p.SingleLine) (haccessor : '\n' ∉ accessor.toList) :
    ∀ l ∈ enterLog o p accessor, '\n' ∉ l := by
  intro l hl
  unfold enterLog at hl
  split at hl
  · rw [List.mem_singleton.mp hl]
    exact not_mem_logLine (by simp [hp.name, haccessor]) (by simp)
  · simp at hl

theorem not_mem_accessorLog {p : Property} {bracket : String} (hp : p.SingleLine)
    (hbracket : '\n' ∉ bracket.toList) : '\n' ∉ accessorLog bracket p := by
  have htype := DeclaredType.not_mem_display hp.type
  refine not_mem_logLine ?_ (by simpa using hp.name)
  simp [hbracket, hp.name, htype, p.type.not_mem_logFormat]

theorem not_mem_argumentLog {a : Argument} (ha : a.SingleLine) : '\n' ∉ argumentLog a := by
  refine not_mem_logLine ?_ (by simpa using ha.name)
  simp [ha.not_mem_display, a.type.not_mem_logFormat]

theorem SingleLine.not_mem_body {o : HookOptions} {h : Hook} (hh : h.SingleLine) :
    ∀ l ∈ h.body o, '\n' ∉ l := by
  intro l hl
  cases h with
  | getter p =>
    have hp : p.SingleLine := hh
    rcases List.mem_append.mp hl with henter | hl
    · exact not_mem_enterLog hp (by decide) l henter
    · simp only [List.mem_cons, List.not_mem_nil, or_false] at hl
      rcases hl with rfl | rfl | rfl
      · simp [indent, hp.name, DeclaredType.not_mem_display hp.type]
      · exact not_mem_accessorLog hp (by decide)
      · simp [indent, hp.name]
  | setter p =>
    have hp : p.SingleLine := hh
    rcases List.mem_append.mp hl with henter | hl
    · exact not_mem_enterLog hp (by decide) l henter
    · simp only [List.mem_cons, List.not_mem_nil, or_false] at hl
      rcases hl with rfl | rfl
      · exact not_mem_accessorLog hp (by decide)
      · simp [indent, hp.name]
  | method m =>
    have hm : m.SingleLine := hh
    rcases List.mem_append.mp hl with hfront | hlast
    · rcases List.mem_cons.mp hfront with rfl | hlog
      · simp [indent]
      · split at hlog
        · obtain ⟨a, ha, rfl⟩ := List.mem_map.mp hlog
          exact not_mem_argumentLog (hm.arguments a ha)
        · simp at hlog
    · rw [List.mem_singleton.mp hlast]
      split <;> simp [indent]

/-- All lines of a block are single lines. -/
theorem SingleLine.not_mem_block {o : HookOptions} {h : Hook} (hh : h.SingleLine) :
    ∀ l ∈ h.block o, '\n' ∉ l := by
  intro l hl
  rcases List.mem_append.mp hl with hl | hl
  · rcases List.mem_cons.mp hl with rfl | hl
    · simp [hh.not_mem_signature]
    · exact hh.not_mem_body l hl
  · rw [List.mem_singleton.mp hl]
    decide

end Hook

/-! ### Classes -/

namespace ClassInterface

structure SingleLine (m : ClassInterface) : Prop where
  name : '\n' ∉ m.name
  classMethods : ∀ method ∈ m.classMethods, method.SingleLine
  instanceMethods : ∀ method ∈ m.instanceMethods, method.SingleLine
  properties : ∀ p ∈ m.properties, p.SingleLine

instance (m : ClassInterface) : Decidable m.SingleLine :=
  decidable_of_iff
    ('\n' ∉ m.name ∧ (∀ method ∈ m.classMethods, method.SingleLine) ∧
      (∀ method ∈ m.instanceMethods, method.SingleLine) ∧ ∀ p ∈ m.properties, p.SingleLine)
    ⟨fun ⟨h₁, h₂, h₃, h₄⟩ => ⟨h₁, h₂, h₃, h₄⟩, fun ⟨h₁, h₂, h₃, h₄⟩ => ⟨h₁, h₂, h₃, h₄⟩⟩

variable {o : HookOptions} {m : ClassInterface}

theorem SingleLine.allHooks (hm : m.SingleLine) : ∀ h ∈ allHooks o m, h.SingleLine :=
  forall_allHooks (fun p hp => ⟨hm.properties p hp, hm.properties p hp⟩) hm.classMethods
    hm.instanceMethods

theorem not_mem_sectionLines {s : HookSection} (htitle : '\n' ∉ s.title)
    (hs : ∀ h ∈ s.hooks, h.SingleLine) : ∀ l ∈ s.lines o, '\n' ∉ l := by
  intro l hl
  unfold HookSection.lines at hl
  split at hl
  · simp at hl
  · rcases List.mem_append.mp hl with hl | hl
    · rcases List.mem_cons.mp hl with rfl | hl
      · simp [htitle]
      · obtain ⟨g, hg, hl⟩ := List.mem_flatMap.mp hl
        rcases List.mem_append.mp hl with hl | hl
        · obtain ⟨h, hh, hl⟩ := List.mem_flatMap.mp hl
          exact (hs h (List.mem_flatten.mpr ⟨g, hg, hh⟩)).not_mem_block l hl
        · simp [List.mem_singleton.mp hl]
    · simp [List.mem_singleton.mp hl]

theorem not_mem_frameLines {name : Text} (hname : '\n' ∉ name) :
    ∀ l ∈ frameLines name, '\n' ∉ l := by
  have hborder : '\n' ∉ List.replicate name.length '=' := fun hmem =>
    absurd (List.eq_of_mem_replicate hmem) (by decide)
  intro l hl
  simp only [frameLines, List.mem_cons, List.not_mem_nil, or_false] at hl
  rcases hl with rfl | rfl | rfl | rfl
  · simp [hborder]
  · simp [hname]
  · simp [hborder]
  · simp

/-- All lines of a hook text are single lines. -/
theorem SingleLine.not_mem_hookLines (hm : m.SingleLine) : ∀ l ∈ hookLines o m, '\n' ∉ l := by
  have htitles : ∀ s ∈ hookSections o m, '\n' ∉ s.title := by
    simp [hookSections]
  intro l hl
  rw [hookLines, List.mem_append, List.mem_append, List.mem_append] at hl
  rcases hl with ((hl | hl) | hl) | hl
  · exact not_mem_frameLines hm.name l hl
  · simp only [List.mem_cons, List.not_mem_nil, or_false] at hl
    rcases hl with rfl | rfl
    · simp [hm.name]
    · simp
  · obtain ⟨s, hs, hl⟩ := List.mem_flatMap.mp hl
    refine not_mem_sectionLines (htitles s hs) (fun h hh => ?_) l hl
    exact hm.allHooks h (List.mem_flatMap.mpr ⟨s, hs, hh⟩)
  · simp only [List.mem_cons, List.not_mem_nil, or_false] at hl
    rcases hl with rfl | rfl | rfl <;> simp

end ClassInterface
end LogosHooks

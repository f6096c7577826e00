import LogosHooks.Proofs.Hooks.Signatures
import LogosHooks.Proofs.Hooks.SingleLines

/-!
Hook texts can be read back. No piece of a well-formed class has a line feed in it, so each line
that is written is a line of the text; and the lines that begin with a sign are read as the methods
that are hooked, in the order in which they are hooked.
-/
namespace LogosHooks

open Text

/-! ### Line feeds -/

theorem DeclaredType.IsNormal.not_mem_name {ty : DeclaredType} (hty : ty.IsNormal) :
    '\n' ∉ ty.name := by
  rw [← hty.1]
  intro hmem
  obtain ⟨w, hw, hc⟩ := exists_mem_of_mem_intercalate (by decide) hmem
  have hblank := (isWord_of_mem_words hw).2 '\n' hc
  exact absurd hblank (by decide)

theorem Text.IsKeyword.not_mem_newline {t : Text} (ht : IsKeyword t) : '\n' ∉ t := by
  intro hmem
  exact absurd (ht.isBlank '\n' hmem) (by decide)

theorem Method.WellFormed.isKeyword {m : Method} (hm : m.WellFormed) :
    ∀ a ∈ m.arguments, IsKeyword a.keyword := by
  intro a ha
  cases hargs : m.arguments with
  | nil => simp [hargs] at ha
  | cons b later =>
    rw [hargs] at ha
    rcases List.mem_cons.mp ha with rfl | ha
    · have hfirst := hm.first_keyword a (by simp [hargs])
      simp [hfirst, IsKeyword]
    · exact (hm.later_keyword a (by simpa [hargs] using ha)).2

theorem Method.WellFormed.singleLine {m : Method} (hm : m.WellFormed) : m.SingleLine where
  selector := fun hmem => absurd (hm.selector_plain _ hmem).1 (by decide)
  returnType := hm.returnType.normal.not_mem_name
  arguments := fun a ha => {
    keyword := (hm.isKeyword a ha).not_mem_newline
    type := (hm.arguments a ha).type.normal.not_mem_name
    name := (hm.arguments a ha).name.2.not_mem_newline
  }

theorem Property.WellFormed.singleLine {p : Property} (hp : p.WellFormed) : p.SingleLine :=
  ⟨hp.name.2.not_mem_newline, hp.type.normal.not_mem_name⟩

/-! ### Classes -/

namespace ClassInterface

structure WellFormed (m : ClassInterface) : Prop where
  name : '\n' ∉ m.name
  classMethods : ∀ method ∈ m.classMethods, method.WellFormed
  instanceMethods : ∀ method ∈ m.instanceMethods, method.WellFormed
  properties : ∀ p ∈ m.properties, p.WellFormed

variable {o : HookOptions} {m : ClassInterface}

theorem WellFormed.allHooks (hm : m.WellFormed) : ∀ h ∈ allHooks o m, h.WellFormed :=
  forall_allHooks (fun p hp => ⟨hm.properties p hp, hm.properties p hp⟩) hm.classMethods
    hm.instanceMethods

theorem WellFormed.singleLine (hm : m.WellFormed) : m.SingleLine where
  name := hm.name
  classMethods := fun method hmethod => (hm.classMethods method hmethod).singleLine
  instanceMethods := fun method hmethod => (hm.instanceMethods method hmethod).singleLine
  properties := fun p hp => (hm.properties p hp).singleLine

theorem WellFormed.not_mem_hookLines (hm : m.WellFormed) : ∀ l ∈ hookLines o m, '\n' ∉ l :=
  hm.singleLine.not_mem_hookLines

end ClassInterface

/-- The methods that are hooked: the accessors of the properties, as far as they are asked for, the
class methods and the instance methods. -/
def hookedMethods (o : HookOptions) (m : ClassInterface) : List Method :=
  (if o.hooksProperties then
      m.properties.flatMap fun p =>
        (if o.getters then [p.getter] else []) ++ if o.setters then [p.setter] else []
    else []) ++ m.classMethods ++ m.instanceMethods

theorem map_hooked_allHooks (o : HookOptions) (m : ClassInterface) :
    (allHooks o m).map Hook.hooked = hookedMethods o m := by
  have haccessors : ∀ p : Property, (accessorHooks o p).map Hook.hooked =
      (if o.getters then [p.getter] else []) ++ if o.setters then [p.setter] else [] := by
    intro p
    unfold accessorHooks
    cases o.getters <;> cases o.setters <;> rfl
  have hmethods : ∀ ms : List Method, (ms.map Hook.method).map Hook.hooked = ms := by
    intro ms
    rw [List.map_map]
    exact List.map_id ms
  rw [allHooks_eq, hookedMethods, List.map_append, List.map_append, hmethods, hmethods]
  split
  · simp only [List.map_flatMap, haccessors]
  · rfl

/-- The lines of a hook text that begin with a sign are signatures, each with a brace behind it, and
they are read as the methods that are hooked. -/
theorem readMethod_of_writeHooks (o : HookOptions) {m : ClassInterface} (hm : m.WellFormed) :
    ∃ r, ∃ signatures : List Text, writeHooks o m = .ok r ∧
      (lines r.text).filter isMethodLine = signatures.map (· ++ [' ', '\x7b']) ∧
      signatures.map readMethod = (hookedMethods o m).map .ok := by
  obtain ⟨r, hr, hlines⟩ := exists_writeHooks (o := o) hm.not_mem_hookLines
  refine ⟨r, (allHooks o m).map Hook.signature, hr, ?_, ?_⟩
  · rw [hlines, List.map_map]
    rfl
  · rw [← map_hooked_allHooks, List.map_map, List.map_map]
    exact List.map_congr_left fun h hh => (hm.allHooks h hh).readMethod_signature

theorem readMethod_of_writeHooks_tint :
    let p : Property := ⟨"tint".toList, ⟨"NSArray<UIColor *>".toList, 1⟩⟩
    let m : Method := ⟨"draw".toList, false, ⟨"id".toList, 0⟩,
      [⟨[], ⟨"void (^)(int)".toList, 0⟩, "then".toList⟩], true⟩
    let o : HookOptions := { getters := true, setters := true, logArguments := true }
    ∃ r, ∃ signatures : List Text, writeHooks o ⟨"Pen".toList, [], [m], [p]⟩ = .ok r ∧
      (lines r.text).filter isMethodLine = signatures.map (· ++ [' ', '\x7b']) ∧
      signatures.map readMethod = [p.getter, p.setter, m].map .ok := by
  intro p m o
  have hp : p.WellFormed := ⟨by decide +kernel, by decide +kernel, by decide +kernel, by decide⟩
  have hm : m.WellFormed := by decide +kernel
  exact readMethod_of_writeHooks o ⟨by decide, by simp, by simpa using hm, by simpa using hp⟩

end LogosHooks

import LogosHooks.Hooks.HookText
import LogosHooks.Proofs.Declaration.ReadSpelling

/-!
The signatures of hooks as spellings. The display of a method is one of its spellings, and the
signatures of the accessors spell methods too, although a setter is spaced differently. So all
signatures are read as the methods that are hooked.
-/
namespace LogosHooks

open Text

/-! ### Displays -/

theorem Text.spellsWords_unwords (ws : List Text) : SpellsWords ws (unwords ws) := by
  induction ws with
  | nil => exact .nil
  | cons w ws ih =>
    cases ws with
    | nil =>
      rw [unwords_singleton]
      exact .last w
    | cons v ws =>
      have hsplit : unwords (w :: v :: ws) = w ++ [' '] ++ unwords (v :: ws) := by
        rw [unwords_cons (by simp)]
        simp
      rw [hsplit]
      exact .cons isGap_space (by simp) ih

namespace DeclaredType

theorem spellsStars_replicate (n : Nat) : SpellsStars n (List.replicate n '*') := by
  induction n with
  | zero => exact .nil
  | succ n ih => exact .cons isGap_nil ih

theorem spells_display {ty : DeclaredType} (hty : ty.IsNormal) : ty.Spells ty.display := by
  have hname : SpellsWords (words ty.name) ty.name := by
    have h := spellsWords_unwords (words ty.name)
    rwa [hty.1] at h
  obtain ⟨stars, hstars, hdisplay⟩ :
      ∃ stars, SpellsStars ty.stars.val stars ∧ ty.display = ty.name ++ stars := by
    unfold display isPointer
    cases hcount : ty.stars.val with
    | zero => exact ⟨[], .nil, by simp⟩
    | succ n =>
      exact ⟨_, .cons isGap_space (spellsStars_replicate n), by simp [List.replicate_succ]⟩
  exact ⟨[], ty.name, stars, [], isGap_nil, hname, hstars, isGap_nil, by simp [hdisplay]⟩

theorem wellFormed_void : void.WellFormed := by decide +kernel

end DeclaredType

namespace Argument

theorem WellFormed.spells_display {a : Argument} (ha : a.WellFormed) : a.Spells a.display :=
  ⟨[], a.type.display, [' '], isGap_nil, DeclaredType.spells_display ha.type.normal, isGap_space,
    by simp [display]⟩

theorem spellsLater_display {as : List Argument} (has : ∀ a ∈ as, a.WellFormed) :
    SpellsLater as (as.flatMap fun a => ' ' :: a.display) := by
  induction as with
  | nil => exact .nil
  | cons a as ih =>
    have hlater := ih fun b hb => has b (List.mem_cons_of_mem a hb)
    exact .cons isGap_space (by simp) (has a List.mem_cons_self).spells_display hlater

theorem unwords_map_display (a : Argument) (as : List Argument) :
    unwords ((a :: as).map display) = a.display ++ as.flatMap fun b => ' ' :: b.display := by
  induction as generalizing a with
  | nil => simp [unwords_singleton]
  | cons b as ih =>
    rw [List.map_cons, unwords_cons (by simp), ih b, List.flatMap_cons]
    simp

theorem spellsAll_display {as : List Argument} (has : ∀ a ∈ as, a.WellFormed) :
    SpellsAll as (unwords (as.map display)) := by
  cases as with
  | nil => exact .nil
  | cons a as =>
    have hlater := spellsLater_display fun b hb => has b (List.mem_cons_of_mem a hb)
    have h := SpellsAll.cons isGap_nil (has a List.mem_cons_self).spells_display hlater
    rwa [List.nil_append, ← unwords_map_display] at h

end Argument

theorem Method.WellFormed.spellsCode_display {m : Method} (hm : m.WellFormed) :
    m.SpellsCode m.display := by
  have hellipsis : SpellsEllipsis m.isVariadic (if m.isVariadic then ", ...".toList else []) := by
    cases m.isVariadic with
    | false => exact .none
    | true => exact .dots isGap_nil isGap_space
  exact ⟨[], m.returnType.display, [' '], _, _, isGap_nil,
    DeclaredType.spells_display hm.returnType.normal, isGap_space,
    Argument.spellsAll_display hm.arguments, hellipsis, by simp [display]⟩

/-! ### Accessors -/

namespace Property

def getter (p : Property) : Method := ⟨getterSelector p.name, false, p.type, [], false⟩

def setter (p : Property) : Method :=
  ⟨setterSelector p.name, false, .void, [⟨[], p.type, p.name⟩], false⟩

structure WellFormed (p : Property) : Prop where
  name : IsIdentifier p.name
  capitalized : IsPlain (capitalize p.name)
  type : p.type.WellFormed
  type_named : p.type.name ≠ []

theorem WellFormed.selector_plain {p : Property} (hp : p.WellFormed) {verb : Text}
    (hverb : IsPlain verb) : IsPlain (verb ++ capitalize p.name) :=
  fun c hc => (List.mem_append.mp hc).elim (hverb c) (hp.capitalized c)

theorem WellFormed.getter {p : Property} (hp : p.WellFormed) : p.getter.WellFormed := by
  have hverb : IsPlain "get".toList := by decide
  exact {
    selector_ne_nil := by simp [Property.getter, getterSelector]
    selector_plain := hp.selector_plain hverb
    returnType := hp.type
    returnType_shown := Or.inl hp.type_named
    arguments := by simp [Property.getter]
    first_keyword := by simp [Property.getter]
    later_keyword := by simp [Property.getter]
    variadic := by simp [Property.getter]
  }

theorem WellFormed.setter {p : Property} (hp : p.WellFormed) : p.setter.WellFormed := by
  have hverb : IsPlain "set".toList := by decide
  exact {
    selector_ne_nil := by simp [Property.setter, setterSelector]
    selector_plain := hp.selector_plain hverb
    returnType := DeclaredType.wellFormed_void
    returnType_shown := Or.inl (by simp [Property.setter, DeclaredType.void])
    arguments := by
      intro a ha
      rw [List.mem_singleton.mp ha]
      exact ⟨hp.type, hp.type_named, hp.name⟩
    first_keyword := by simp [Property.setter]
    later_keyword := by simp [Property.setter]
    variadic := by simp [Property.setter]
  }

end Property

/-! ### Signatures -/

namespace Hook

def hooked : Hook → Method
  | getter p => p.getter
  | setter p => p.setter
  | method m => m

def WellFormed : Hook → Prop
  | getter p | setter p => p.WellFormed
  | method m => m.WellFormed

theorem WellFormed.hooked {h : Hook} (hh : h.WellFormed) : h.hooked.WellFormed := by
  cases h with
  | getter p => exact Property.WellFormed.getter hh
  | setter p => exact Property.WellFormed.setter hh
  | method m => exact hh

theorem spellsCode_getter {p : Property} (hp : p.WellFormed) :
    p.getter.SpellsCode (getter p).signature := by
  have hdisplay : p.getter.display = (getter p).signature ++ [] ++ [] := rfl
  rw [List.append_nil, List.append_nil] at hdisplay
  rw [← hdisplay]
  exact hp.getter.spellsCode_display

/-- A setter has its blank behind the colon and none in front of the name. -/
theorem spellsCode_setter {p : Property} (hp : p.WellFormed) :
    p.setter.SpellsCode (setter p).signature := by
  have hvoid := DeclaredType.spells_display DeclaredType.wellFormed_void.normal
  have htype := DeclaredType.spells_display hp.type.normal
  have hargument : (Argument.mk [] p.type p.name).Spells
      ([] ++ ':' :: ([' '] ++ '(' :: (p.type.display ++ ')' :: ([] ++ p.name)))) :=
    ⟨[' '], _, [], isGap_space, htype, isGap_nil, rfl⟩
  have harguments := Argument.SpellsAll.cons isGap_nil hargument .nil
  refine ⟨[], _, [' '], _, [], isGap_nil, hvoid, isGap_space, harguments, .none, ?_⟩
  have hsplit : ∀ selector shown name : Text,
      "-(void) ".toList ++ selector ++ ": (".toList ++ shown ++ ')' :: name =
        '-' :: ([] ++ '(' :: ("void".toList ++ ')' :: ([' '] ++ selector ++
          ([] ++ ([] ++ ':' :: ([' '] ++ '(' :: (shown ++ ')' :: ([] ++ name)))) ++ []) ++
            []))) := by
    intro selector shown name
    simp
  exact hsplit (setterSelector p.name) p.type.display p.name

theorem WellFormed.spellsCode_signature {h : Hook} (hh : h.WellFormed) :
    h.hooked.SpellsCode h.signature := by
  cases h with
  | getter p => exact spellsCode_getter hh
  | setter p => exact spellsCode_setter hh
  | method m => exact Method.WellFormed.spellsCode_display hh

/-- The signature is read as the method that is hooked. -/
theorem WellFormed.readMethod_signature {h : Hook} (hh : h.WellFormed) :
    readMethod h.signature = .ok h.hooked := by
  have hcode := hh.spellsCode_signature.declarationCode_eq hh.hooked isLineEnd_nil
  rw [List.append_nil] at hcode
  exact hh.spellsCode_signature.readMethod_eq hh.hooked hcode

end Hook
end LogosHooks

import LogosHooks.DeclaredType.Basic
import LogosHooks.DeclaredType.Builtin

/-!
The registry of known types. A type is known by its base name: one of the built-in names, which are
always there, or a name that was added.
-/
namespace LogosHooks

def builtinNames : List Text :=
  (DeclaredType.primitiveNames ++ DeclaredType.foundationNames).map String.toList

def isBuiltinName (name : Text) : Bool := builtinNames.contains name

theorem isBuiltinName_toList (name : String) :
    isBuiltinName name.toList =
      (DeclaredType.primitiveNames ++ DeclaredType.foundationNames).contains name := by
  rw [Bool.eq_iff_iff, isBuiltinName, builtinNames, List.contains_iff_mem, List.contains_iff_mem,
    List.mem_map]
  constructor
  · rintro ⟨other, hmem, heq⟩
    exact String.toList_inj.mp heq ▸ hmem
  · exact fun hmem => ⟨name, hmem, rfl⟩

/-- The names known beyond the built-in ones, each once. -/
structure Registry where
  added : List Text
  nodup : added.Nodup
deriving DecidableEq, Repr

namespace Registry

def builtin : Registry := ⟨[], List.nodup_nil⟩

def insert (r : Registry) (name : Text) : Registry :=
  if h : name ∈ r.added then r else ⟨name :: r.added, List.nodup_cons.mpr ⟨h, r.nodup⟩⟩

def extend (r : Registry) (names : List Text) : Registry := names.foldl insert r

def containsName (r : Registry) (name : Text) : Bool := isBuiltinName name || r.added.contains name

def knows (r : Registry) (ty : DeclaredType) : Bool := r.containsName ty.lastWord

def addedCount (r : Registry) : Nat := r.added.length

theorem mem_added_insert {r : Registry} {new name : Text} :
    name ∈ (r.insert new).added ↔ name = new ∨ name ∈ r.added := by
  unfold insert
  split
  · next h =>
    constructor
    · exact Or.inr
    · rintro (rfl | hn)
      · exact h
      · exact hn
  · exact List.mem_cons

theorem mem_added_extend {r : Registry} {names : List Text} {name : Text} :
    name ∈ (r.extend names).added ↔ name ∈ names ∨ name ∈ r.added := by
  induction names generalizing r with
  | nil => simp [extend]
  | cons n rest ih =>
    change name ∈ ((r.insert n).extend rest).added ↔ _
    rw [ih, mem_added_insert, List.mem_cons]
    exact ⟨fun h => by rcases h with h | h | h <;> simp [h],
      fun h => by rcases h with (h | h) | h <;> simp [h]⟩

theorem containsName_extend {r : Registry} {name : Text} (names : List Text)
    (h : r.containsName name = true) : (r.extend names).containsName name = true := by
  simp only [containsName, Bool.or_eq_true, List.contains_iff_mem, mem_added_extend] at h ⊢
  exact h.imp_right Or.inr

end Registry
end LogosHooks

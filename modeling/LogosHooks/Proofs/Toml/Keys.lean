import LogosHooks.Toml.Reader
import Mathlib.Data.List.Nodup

/-!
A document that is read has each of its keys once: a key is only put where it is missing, and what
it stands for changes in its place.
-/
namespace LogosHooks.Toml

def KeysOnce {α : Type} (entries : List (Text × α)) : Prop := (entries.map Prod.fst).Nodup

section

variable {α β : Type} {entries : List (Text × α)}

theorem KeysOnce.congr (h : KeysOnce entries) {other : List (Text × β)}
    (hkeys : other.map Prod.fst = entries.map Prod.fst) : KeysOnce other := by
  rw [KeysOnce, hkeys]
  exact h

theorem KeysOnce.concat (h : KeysOnce entries) {key : Text} (hkey : entries.lookup key = none)
    (a : α) : KeysOnce (entries ++ [(key, a)]) := by
  have hmissing : key ∉ entries.map Prod.fst := by
    intro hmem
    obtain ⟨entry, hentry, rfl⟩ := List.mem_map.mp hmem
    exact absurd (List.lookup_eq_none_iff.mp hkey entry hentry) (by simp)
  rw [KeysOnce, List.map_append, List.map_singleton, ← List.concat_eq_append,
    List.nodup_concat]
  exact ⟨hmissing, h⟩

theorem KeysOnce.filter (h : KeysOnce entries) (keep : Text × α → Bool) :
    KeysOnce (entries.filter keep) :=
  h.sublist (List.filter_sublist.map Prod.fst)

end

namespace Entries

theorem keys_replace (key : Text) (node : Node) (entries : Entries) :
    (entries.replace key node).map Prod.fst = entries.map Prod.fst := by
  rw [replace, List.map_map]
  refine List.map_congr_left fun entry _ => ?_
  by_cases hkey : entry.1 = key
  · rw [Function.comp_apply, if_pos hkey]
    exact hkey.symm
  · rw [Function.comp_apply, if_neg hkey]

theorem keysOnce_insertDotted? {key : Text} {v : Value} {parts : List Text}
    {entries entries' : Entries} (h : KeysOnce entries)
    (hinsert : insertDotted? key v parts entries = some entries') : KeysOnce entries' := by
  cases parts with
  | nil =>
    rw [insertDotted?] at hinsert
    split at hinsert
    · cases hinsert
    · next hmissing =>
      cases hinsert
      exact h.concat (Option.not_isSome_iff_eq_none.mp hmissing) _
  | cons part parts =>
    rw [insertDotted?] at hinsert
    split at hinsert
    · next hmissing =>
      obtain ⟨inner, -, hput⟩ := Option.bind_eq_some_iff.mp hinsert
      cases hput
      exact h.concat hmissing _
    · split at hinsert
      · cases hinsert
      · obtain ⟨inner, -, hput⟩ := Option.bind_eq_some_iff.mp hinsert
        cases hput
        exact h.congr (keys_replace _ _ _)
    · split at hinsert
      · cases hinsert
      · obtain ⟨last, -, hput⟩ := Option.bind_eq_some_iff.mp hinsert
        cases hput
        exact h.congr (keys_replace _ _ _)
    · cases hinsert

def KeepsKeys {α : Type} (f : Entries → Option (Entries × α)) : Prop :=
  ∀ ⦃entries entries' : Entries⦄ ⦃a : α⦄, KeysOnce entries → f entries = some (entries', a) →
    KeysOnce entries'

theorem KeepsKeys.within {α : Type} {f : Entries → Option (Entries × α)} (hf : KeepsKeys f)
    (parts : List Text) : KeepsKeys (within? f parts) := by
  intro entries entries' a h hwithin
  cases parts with
  | nil => exact hf h hwithin
  | cons part parts =>
    rw [within?] at hwithin
    split at hwithin
    · next hmissing =>
      obtain ⟨inner, -, hput⟩ := Option.bind_eq_some_iff.mp hwithin
      cases hput
      exact h.concat hmissing _
    · obtain ⟨inner, -, hput⟩ := Option.bind_eq_some_iff.mp hwithin
      cases hput
      exact h.congr (keys_replace _ _ _)
    · obtain ⟨last, -, hput⟩ := Option.bind_eq_some_iff.mp hwithin
      cases hput
      exact h.congr (keys_replace _ _ _)
    · cases hwithin

theorem keepsKeys_takeTable (key : Text) : KeepsKeys (takeTable? key) := by
  intro entries entries' inner h htake
  unfold takeTable? at htake
  split at htake
  · cases htake
    exact h
  · cases htake
    exact h.filter _
  · cases htake

theorem keepsKeys_allowTables (key : Text) : KeepsKeys (allowTables? key) := by
  intro entries entries' a h hallow
  unfold allowTables? at hallow
  split at hallow
  · cases hallow
    exact h
  · cases hallow
    exact h
  · cases hallow

theorem keepsKeys_putTable (key : Text) (inner : Entries) : KeepsKeys (putTable? key inner) := by
  intro entries entries' a h hput
  unfold putTable? at hput
  split at hput
  · next hmissing =>
    cases hput
    exact h.concat hmissing _
  · cases hput

theorem keepsKeys_addTable (key : Text) (inner : Entries) : KeepsKeys (addTable? key inner) := by
  intro entries entries' a h hadd
  unfold addTable? at hadd
  split at hadd
  · next hmissing =>
    cases hadd
    exact h.concat hmissing _
  · cases hadd
    exact h.congr (keys_replace _ _ _)
  · cases hadd

end Entries

namespace ReadState

/-- The document has each key once. So has the table being filled if it is the document itself; if
it is not, its keys are not those of the document. -/
structure KeysOnce (s : ReadState) : Prop where
  document : Toml.KeysOnce s.document
  current : s.path = [] → Toml.KeysOnce s.current

variable {s s' : ReadState}

theorem KeysOnce.close (h : s.KeysOnce) {entries : Entries} (hclose : s.close? = some entries) :
    Toml.KeysOnce entries := by
  rw [close?] at hclose
  split at hclose
  · next hpath =>
    cases hclose
    exact h.current (List.getLast?_eq_none_iff.mp hpath)
  · next key hpath =>
    obtain ⟨⟨document, u⟩, hwithin, rfl⟩ := Option.map_eq_some_iff.mp hclose
    refine Entries.KeepsKeys.within ?_ s.path.dropLast h.document hwithin
    split
    · exact Entries.keepsKeys_addTable key s.current
    · exact Entries.keepsKeys_putTable key s.current

theorem KeysOnce.beginTable (h : s.KeysOnce) {path : List Text}
    (hbegin : s.beginTable? path = some s') : s'.KeysOnce := by
  obtain ⟨document, hclose, hkey⟩ := Option.bind_eq_some_iff.mp hbegin
  obtain ⟨key, hlast, htake⟩ := Option.bind_eq_some_iff.mp hkey
  obtain ⟨⟨rest, current⟩, hwithin, hstate⟩ := Option.bind_eq_some_iff.mp htake
  cases hstate
  refine ⟨(Entries.keepsKeys_takeTable key).within path.dropLast (h.close hclose) hwithin, ?_⟩
  rintro rfl
  cases hlast

theorem KeysOnce.beginTables (h : s.KeysOnce) {path : List Text}
    (hbegin : s.beginTables? path = some s') : s'.KeysOnce := by
  obtain ⟨document, hclose, hkey⟩ := Option.bind_eq_some_iff.mp hbegin
  obtain ⟨key, hlast, hallow⟩ := Option.bind_eq_some_iff.mp hkey
  obtain ⟨⟨rest, u⟩, hwithin, hstate⟩ := Option.bind_eq_some_iff.mp hallow
  cases hstate
  refine ⟨(Entries.keepsKeys_allowTables key).within path.dropLast (h.close hclose) hwithin, ?_⟩
  rintro rfl
  cases hlast

theorem KeysOnce.insert (h : s.KeysOnce) {parts : List Text} {v : Value} {current : Entries}
    (hinsert : s.current.insert? parts v = some current) :
    KeysOnce { s with current := current } := by
  obtain ⟨last, -, hdotted⟩ := Option.bind_eq_some_iff.mp hinsert
  exact ⟨h.document, fun hpath => Entries.keysOnce_insertDotted? (h.current hpath) hdotted⟩

theorem KeysOnce.line (h : s.KeysOnce) {t rest : Text} (hline : s.line? t = some (s', rest)) :
    s'.KeysOnce := by
  unfold line? at hline
  split at hline
  · obtain ⟨rest, -, hstate⟩ := Option.map_eq_some_iff.mp hline
    cases hstate
    exact h
  · cases hline
    exact h
  · cases hline
    exact h
  · simp only [bind, Option.bind_eq_some_iff] at hline
    obtain ⟨⟨path, rest⟩, -, rest, -, rest, -, rest, -, next, hbegin, hstate⟩ := hline
    cases hstate
    exact h.beginTables hbegin
  · simp only [bind, Option.bind_eq_some_iff] at hline
    obtain ⟨⟨path, rest⟩, -, rest, -, rest, -, next, hbegin, hstate⟩ := hline
    cases hstate
    exact h.beginTable hbegin
  · simp only [bind, Option.bind_eq_some_iff] at hline
    obtain ⟨⟨parts, v, rest⟩, -, rest, -, current, hinsert, hstate⟩ := hline
    cases hstate
    exact h.insert hinsert

end ReadState

theorem keys_tableOf (entries : Entries) :
    (tableOf entries).map Prod.fst = entries.map Prod.fst := by
  induction entries with
  | nil => rfl
  | cons entry rest ih => exact congrArg (entry.1 :: ·) ih

theorem keys_settledEntries? {table table' : Table} (h : settledEntries? table = some table') :
    table'.map Prod.fst = table.map Prod.fst := by
  induction table generalizing table' with
  | nil =>
    cases h
    rfl
  | cons entry rest ih =>
    obtain ⟨v, -, hsettled⟩ := Option.bind_eq_some_iff.mp h
    obtain ⟨rest', hrest, htable⟩ := Option.bind_eq_some_iff.mp hsettled
    cases htable
    exact congrArg (entry.1 :: ·) (ih hrest)

theorem ReadState.KeysOnce.run {fuel : Nat} {s : ReadState} (h : s.KeysOnce) {t : Text}
    {table : Table} (hrun : s.run? fuel t = some table) : Toml.KeysOnce table := by
  induction fuel generalizing s t with
  | zero => cases hrun
  | succ fuel ih =>
    rw [run?] at hrun
    split at hrun
    · obtain ⟨entries, hclose, rfl⟩ := Option.map_eq_some_iff.mp hrun
      exact (h.close hclose).congr (keys_tableOf entries)
    · obtain ⟨⟨next, rest⟩, hline, hrun⟩ := Option.bind_eq_some_iff.mp hrun
      exact ih (h.line hline) hrun

/-- A table that is read from a document has each key once. -/
theorem keysOnce_read? {document : Text} {table : Table} (h : read? document = some table) :
    KeysOnce table := by
  obtain ⟨read, hrun, hsettled⟩ := Option.bind_eq_some_iff.mp h
  have hstart : ReadState.KeysOnce {} := ⟨List.nodup_nil, fun _ => List.nodup_nil⟩
  exact (hstart.run hrun).congr (keys_settledEntries? hsettled)

end LogosHooks.Toml

import LogosHooks.Proofs.Config.Nearest
import LogosHooks.Proofs.Text.ByteOrder
import LogosHooks.Proofs.Toml.Keys

/-!
What a configuration takes from a table. Each known key has one type of value that sets it, and only
such values count: the configuration is a function of the settings, so that all other entries may
change without any effect. The unknown keys among the entries are what is warned of.
-/
namespace LogosHooks.Toml.Table

def put (table : Table) (key : Text) (v : Value) : Table := (key, v) :: table.filter (·.1 != key)

def remove (table : Table) (key : Text) : Table := table.filter (·.1 != key)

theorem lookup_remove_of_ne {key other : Text} (h : other ≠ key) (table : Table) :
    (table.remove key).lookup other = table.lookup other := lookup_filter_ne h table

theorem lookup_put_self (table : Table) (key : Text) (v : Value) :
    (table.put key v).lookup key = some v := by
  simp [put]

theorem lookup_put_of_ne {key other : Text} (h : other ≠ key) (table : Table) (v : Value) :
    (table.put key v).lookup other = table.lookup other := by
  have hkey : (other == key) = false := by simpa using h
  rw [put, List.lookup_cons, hkey]
  exact lookup_filter_ne h table

end LogosHooks.Toml.Table

namespace LogosHooks.Config

/-- What is taken from the value of a key. -/
inductive Setting where
  | flag (b : Bool)
  | text (t : Text)
  | names (ts : List Text)
deriving DecidableEq, Repr

def flagKeys : List Text :=
  ["drop_unknown_types", "getters", "setters", "params", "debug", "includes", "load_hook"].map
    String.toList

def textKeys : List Text := ["method_regex", "output"].map String.toList

def nameKeys : List Text := ["extra_known_types"].map String.toList

/-- What a value sets a key to. A value of another type than expected sets nothing. -/
def settingOf? (key : Text) : Toml.Value → Option Setting
  | .boolean b => if flagKeys.contains key then some (.flag b) else none
  | .string t => if textKeys.contains key then some (.text t) else none
  | .array items =>
    if nameKeys.contains key then
      some (.names (items.filterMap fun | .string t => some t | _ => none))
    else none
  | _ => none

def setting? (table : Toml.Table) (key : Text) : Option Setting :=
  (table.lookup key).bind (settingOf? key)

/-! ### The configuration is a function of the settings -/

theorem mem_knownKeys_iff {key : Text} :
    key ∈ knownKeys ↔ key ∈ nameKeys ∨ key ∈ flagKeys ∨ key ∈ textKeys := by
  have hperm : knownKeys.Perm (nameKeys ++ (flagKeys ++ textKeys)) := by decide
  rw [hperm.mem_iff, List.mem_append, List.mem_append]

/-- Nothing sets a key that is not known. -/
theorem settingOf?_of_not_mem {key : Text} (h : key ∉ knownKeys) (v : Toml.Value) :
    settingOf? key v = none := by
  rw [mem_knownKeys_iff, not_or, not_or] at h
  cases v <;> simp [settingOf?, h]

theorem setting?_of_not_mem {key : Text} (h : key ∉ knownKeys) (table : Toml.Table) :
    setting? table key = none := by
  rw [setting?, Option.bind_eq_none_iff]
  exact fun v _ => settingOf?_of_not_mem h v

section

variable {key : String} (table : Toml.Table)

theorem flag_eq (hkey : key.toList ∈ flagKeys) (default : Bool) :
    flag table key default =
      match setting? table key.toList with
      | some (.flag b) => b
      | _ => default := by
  rw [flag, setting?]
  cases table.lookup key.toList with
  | none => rfl
  | some v =>
    cases v with
    | boolean b => simp [settingOf?, hkey]
    | string t => by_cases h : key.toList ∈ textKeys <;> simp [settingOf?, h]
    | array items => by_cases h : key.toList ∈ nameKeys <;> simp [settingOf?, h]
    | _ => rfl

theorem string?_eq (hkey : key.toList ∈ textKeys) :
    string? table key =
      match setting? table key.toList with
      | some (.text t) => some t
      | _ => none := by
  rw [string?, setting?]
  cases table.lookup key.toList with
  | none => rfl
  | some v =>
    cases v with
    | boolean b => by_cases h : key.toList ∈ flagKeys <;> simp [settingOf?, h]
    | string t => simp [settingOf?, hkey]
    | array items => by_cases h : key.toList ∈ nameKeys <;> simp [settingOf?, h]
    | _ => rfl

theorem strings_eq (hkey : key.toList ∈ nameKeys) :
    strings table key =
      match setting? table key.toList with
      | some (.names ts) => ts
      | _ => [] := by
  rw [strings, setting?]
  cases table.lookup key.toList with
  | none => rfl
  | some v =>
    cases v with
    | boolean b => by_cases h : key.toList ∈ flagKeys <;> simp [settingOf?, h]
    | string t => by_cases h : key.toList ∈ textKeys <;> simp [settingOf?, h]
    | array items =>
      rewrite [Option.bind_some, settingOf?, if_pos (List.contains_iff_mem.mpr hkey)]
      rfl
    | _ => rfl

end

/-- Two tables with the same settings are read as the same configuration. -/
theorem ofTable_congr {table other : Toml.Table}
    (h : ∀ key ∈ knownKeys, setting? other key = setting? table key) :
    ofTable other = ofTable table := by
  have hsettings : setting? other = setting? table := by
    funext key
    by_cases hkey : key ∈ knownKeys
    · exact h key hkey
    · rw [setting?_of_not_mem hkey, setting?_of_not_mem hkey]
  have hflag : ∀ {key : String}, key.toList ∈ flagKeys → ∀ default,
      flag other key default = flag table key default := by
    intro key hkey default
    rw [flag_eq other hkey, flag_eq table hkey, hsettings]
  have htext : ∀ {key : String}, key.toList ∈ textKeys →
      string? other key = string? table key := by
    intro key hkey
    rw [string?_eq other hkey, string?_eq table hkey, hsettings]
  have hnames : ∀ {key : String}, key.toList ∈ nameKeys →
      strings other key = strings table key := by
    intro key hkey
    rw [strings_eq other hkey, strings_eq table hkey, hsettings]
  rw [ofTable, ofTable, Config.mk.injEq]
  exact ⟨hnames (by decide), hflag (by decide) _, hflag (by decide) _, hflag (by decide) _,
    hflag (by decide) _, hflag (by decide) _, hflag (by decide) _, hflag (by decide) _,
    htext (by decide), htext (by decide)⟩

/-- An entry that sets nothing may be put where nothing was set. -/
theorem ofTable_put {table : Toml.Table} {key : Text} (hkey : setting? table key = none)
    {v : Toml.Value} (hv : settingOf? key v = none) :
    ofTable (table.put key v) = ofTable table := by
  apply ofTable_congr
  intro known _
  by_cases hknown : known = key
  · rw [hknown, hkey, setting?, Toml.Table.lookup_put_self, Option.bind_some, hv]
  · rw [setting?, setting?, Toml.Table.lookup_put_of_ne hknown]

theorem ofTable_remove {table : Toml.Table} {key : Text} (hkey : key ∉ knownKeys) :
    ofTable (table.remove key) = ofTable table := by
  apply ofTable_congr
  intro known hknown
  have hne : known ≠ key := fun h => hkey (h ▸ hknown)
  rw [setting?, setting?, Toml.Table.lookup_remove_of_ne hne]

/-! ### Warnings -/

def unknownKeys (table : Toml.Table) : List Text :=
  ((table.map Prod.fst).mergeSort Utf8.bytesLE).filter fun key => !knownKeys.contains key

theorem mem_unknownKeys_iff {table : Toml.Table} {key : Text} :
    key ∈ unknownKeys table ↔ key ∈ table.map Prod.fst ∧ key ∉ knownKeys := by
  rw [unknownKeys, List.mem_filter, List.mem_mergeSort, Bool.not_eq_true', ← Bool.not_eq_true,
    List.contains_iff_mem]

theorem pairwise_unknownKeys {table : Toml.Table} (honce : (table.map Prod.fst).Nodup) :
    (unknownKeys table).Pairwise fun s t => Utf8.encode s < Utf8.encode t := by
  have hsorted := List.pairwise_mergeSort Utf8.bytesLE_trans Utf8.bytesLE_total
    (table.map Prod.fst)
  have hnodup := (List.mergeSort_perm (table.map Prod.fst) Utf8.bytesLE).nodup_iff.mpr honce
  refine ((hsorted.and hnodup).imp fun ⟨hle, hne⟩ => ?_).filter _
  exact Std.lt_of_le_of_ne ((Utf8.bytesLE_iff _ _).mp hle) fun h => hne (Utf8.encode_injective h)

/-- A document has no key twice, so no key of it is warned of twice. -/
theorem pairwise_unknownKeys_of_read? {document : Text} {table : Toml.Table}
    (h : Toml.read? document = some table) :
    (unknownKeys table).Pairwise fun s t => Utf8.encode s < Utf8.encode t :=
  pairwise_unknownKeys (Toml.keysOnce_read? h)

/-- A configuration is read from the settings of the known keys alone. So unknown keys may be added,
changed and removed, and a value of the wrong type may be given to a known key that is absent. There
is one warning for each unknown key, in the order of their bytes, and none for a known one. It has a
suggestion exactly if some known key is within a distance of three, and then it is the first of
those at the least distance. -/
theorem ofTable_and_warnings {table : Toml.Table} (honce : (table.map Prod.fst).Nodup) :
    (∀ other : Toml.Table, (∀ key ∈ knownKeys, setting? other key = setting? table key) →
      ofTable other = ofTable table) ∧
    (∀ key v, key ∉ knownKeys →
      ofTable (table.put key v) = ofTable table ∧ ofTable (table.remove key) = ofTable table) ∧
    (∀ key v, table.lookup key = none → settingOf? key v = none →
      ofTable (table.put key v) = ofTable table) ∧
    (∃ keys : List Text, warnings table = keys.map (fun key => .unknownKey key (suggestion? key)) ∧
      keys.Pairwise (fun s t => Utf8.encode s < Utf8.encode t) ∧
      ∀ key, key ∈ keys ↔ key ∈ table.map Prod.fst ∧ key ∉ knownKeys) ∧
    ∀ key, ((suggestion? key).isSome = true ↔ ∃ known ∈ knownKeys, editDistance key known ≤ 3) ∧
      ∀ known, suggestion? key = some known ↔
        IsNearest key knownKeys known ∧ editDistance key known ≤ 3 := by
  refine ⟨fun _ => ofTable_congr, fun key v hkey => ?_, fun key v habsent hv => ?_,
    ⟨unknownKeys table, rfl, pairwise_unknownKeys honce, fun _ => mem_unknownKeys_iff⟩,
    fun _ => ⟨isSome_suggestion?_iff, fun _ => suggestion?_eq_some_iff⟩⟩
  · exact ⟨ofTable_put (setting?_of_not_mem hkey table) (settingOf?_of_not_mem hkey v),
      ofTable_remove hkey⟩
  · have hkey : setting? table key = none := by rw [setting?, habsent, Option.bind_none]
    exact ofTable_put hkey hv

/-- The key `etters` is as near to `getters` as to `setters`, and the first of them is suggested. -/
theorem ofTable_and_warnings_etters :
    let table : Toml.Table :=
      [("etters".toList, .boolean true), ("debug".toList, .string "yes".toList),
        ("extra_known_types".toList,
          .array [.string "Ink".toList, .integer 3, .string "Pen".toList]),
        ("colour".toList, .table [])]
    (table.map Prod.fst).Nodup ∧
    ofTable table = { addedTypes := ["Ink".toList, "Pen".toList] } ∧
    ofTable (table.put "getters".toList (.integer 1)) = ofTable table ∧
    ofTable (table.remove "etters".toList) = ofTable table ∧
    (warnings table =
      [.unknownKey "colour".toList none, .unknownKey "etters".toList (some "getters".toList)] ∧
      IsNearest "etters".toList knownKeys "getters".toList ∧
      ¬ ∃ known ∈ knownKeys, editDistance "colour".toList known ≤ 3) := by
  intro table
  have honce : (table.map Prod.fst).Nodup := by decide
  have hsorted : (table.map Prod.fst).mergeSort Utf8.bytesLE =
      ["colour".toList, "debug".toList, "etters".toList, "extra_known_types".toList] :=
    List.Perm.eq_of_pairwise (fun _ _ _ _ => Utf8.bytesLE_antisymm)
      (List.pairwise_mergeSort Utf8.bytesLE_trans Utf8.bytesLE_total _) (by decide +kernel)
      ((List.mergeSort_perm _ _).trans (by decide))
  have hwarnings : warnings table =
      [.unknownKey "colour".toList none, .unknownKey "etters".toList (some "getters".toList)] := by
    rw [warnings, hsorted]
    decide +kernel
  have hetters : suggestion? "etters".toList = some "getters".toList := by decide +kernel
  have hcolour : ¬ (suggestion? "colour".toList).isSome = true := by decide +kernel
  obtain ⟨-, hunknown, habsent, -, hsuggestion⟩ := ofTable_and_warnings honce
  refine ⟨honce, by decide +kernel, habsent _ _ (by decide) rfl,
    (hunknown "etters".toList (.integer 1) (by decide)).2, hwarnings, ?_, ?_⟩
  · exact (((hsuggestion _).2 _).mp hetters).1
  · exact fun h => hcolour ((hsuggestion _).1.mpr h)

end LogosHooks.Config

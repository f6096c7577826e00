import LogosHooks.Config.EditDistance
import LogosHooks.DeclaredType.Registry
import LogosHooks.Files.Tree
import LogosHooks.Toml.Reader

/-!
The configuration file. Every key is optional, and a key whose value has another type than expected
counts as absent. Keys that are not known are reported, with a suggestion if one of the known keys
is close.
-/
namespace LogosHooks

structure Config where
  addedTypes : List Text := []
  dropUnknownTypes : Bool := true
  getters : Bool := false
  setters : Bool := false
  params : Bool := false
  debug : Bool := false
  includes : Bool := false
  loadHook : Bool := false
  methodRegex : Option Text := none
  output : Option Text := none
deriving DecidableEq, Repr

inductive ConfigWarning where
  | unknownKey (key : Text) (suggestion : Option Text)
  /-- The file is a directory, or its bytes are no text. -/
  | unreadable
  /-- The text of the file is no TOML document. -/
  | unparsable
deriving DecidableEq, Repr

namespace Config

def fileName : Text := ".hooker.toml".toList

def knownKeys : List Text :=
  ["extra_known_types", "drop_unknown_types", "getters", "setters", "params", "debug", "includes",
    "load_hook", "method_regex", "output"].map String.toList

def suggestionRange : Nat := 3

/-- The first of the keys at the least distance. -/
def nearest? (key : Text) : List Text → Option Text
  | [] => none
  | candidate :: rest =>
    match nearest? key rest with
    | some other =>
      if editDistance key other < editDistance key candidate then some other else some candidate
    | none => some candidate

def suggestion? (key : Text) : Option Text :=
  (nearest? key knownKeys).filter fun candidate => editDistance key candidate ≤ suggestionRange

def warnings (table : Toml.Table) : List ConfigWarning :=
  (((table.map (·.1)).mergeSort Utf8.bytesLE).filter fun key => !knownKeys.contains key).map
    fun key => .unknownKey key (suggestion? key)

def flag (table : Toml.Table) (key : String) (default : Bool) : Bool :=
  match table.lookup key.toList with
  | some (.boolean b) => b
  | _ => default

def string? (table : Toml.Table) (key : String) : Option Text :=
  match table.lookup key.toList with
  | some (.string t) => some t
  | _ => none

/-- The strings of a list. Items of other types are left out. -/
def strings (table : Toml.Table) (key : String) : List Text :=
  match table.lookup key.toList with
  | some (.array items) => items.filterMap fun | .string t => some t | _ => none
  | _ => []

def ofTable (table : Toml.Table) : Config where
  addedTypes := strings table "extra_known_types"
  dropUnknownTypes := flag table "drop_unknown_types" true
  getters := flag table "getters" false
  setters := flag table "setters" false
  params := flag table "params" false
  debug := flag table "debug" false
  includes := flag table "includes" false
  loadHook := flag table "load_hook" false
  methodRegex := string? table "method_regex"
  output := string? table "output"

def registry (c : Config) : Registry := Registry.builtin.extend c.addedTypes

def ofFile (tree : FileTree) (path : Text) : Config × List ConfigWarning :=
  match (tree.resolve? path).filter fun p => tree.isDir p || tree.isFile p with
  | none => ({}, [])
  | some p =>
    match (tree.read? p).bind Utf8.decode? with
    | none => ({}, [.unreadable])
    | some document =>
      match Toml.read? document with
      | none => ({}, [.unparsable])
      | some table => (ofTable table, warnings table)

end Config

namespace ConfigWarning

def message : ConfigWarning → Text
  | unknownKey _ (some suggestion) =>
    "Unknown key in ".toList ++ Config.fileName ++ ", did you mean '".toList ++ suggestion ++
      "'?".toList
  | unknownKey _ none =>
    "Unknown key in ".toList ++ Config.fileName ++ " (known keys: ".toList ++
      ", ".toList.intercalate Config.knownKeys ++ ")".toList
  | unreadable => "Could not read config file".toList
  | unparsable => "Failed to parse config file".toList

def fields : ConfigWarning → List (String × Text)
  | unknownKey key (some suggestion) => [("key", key), ("suggestion", suggestion)]
  | unknownKey key none => [("key", key)]
  | unreadable | unparsable => []

end ConfigWarning
end LogosHooks

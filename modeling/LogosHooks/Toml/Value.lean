import LogosHooks.Text.Blank

/-!
Values of a TOML document, and the tables that are filled while one is read. A table that was only
mentioned on the way to another may be filled by its own header later; a table that dotted keys made
may get further dotted keys; all others are closed.
-/
namespace LogosHooks.Toml

inductive Value where
  | string (t : Text)
  | integer (n : Int)
  /-- A number with a fraction or an exponent, as it is spelled. -/
  | float (spelling : Text)
  | boolean (b : Bool)
  /-- A date, a time of day or both, as it is spelled. -/
  | moment (spelling : Text)
  | array (items : List Value)
  | table (entries : List (Text × Value))
deriving Inhabited, Repr

abbrev Table := List (Text × Value)

/-- What a key stands for while the document is read. -/
inductive Node where
  | value (v : Value)
  /-- With `implicit` the table has no header so far, with `dotted` it comes from a dotted key. -/
  | table (implicit dotted : Bool) (entries : List (Text × Node))
  /-- Tables under one header in double brackets. -/
  | tables (earlier : List (List (Text × Node))) (last : List (Text × Node))

abbrev Entries := List (Text × Node)

namespace Entries

def replace (key : Text) (node : Node) (entries : Entries) : Entries :=
  entries.map fun entry => if entry.1 = key then (key, node) else entry

def insertDotted? (key : Text) (v : Value) : List Text → Entries → Option Entries
  | [], entries =>
    if (entries.lookup key).isSome then none else some (entries ++ [(key, .value v)])
  | part :: parts, entries =>
    match entries.lookup part with
    | none => do
      return entries ++ [(part, .table true true (← insertDotted? key v parts []))]
    | some (.table implicit dotted inner) =>
      if !implicit || (parts.isEmpty && !dotted) then none
      else do
        let inner ← insertDotted? key v parts inner
        return entries.replace part (.table implicit dotted inner)
    | some (.tables earlier last) =>
      if parts.isEmpty then none
      else do
        let last ← insertDotted? key v parts last
        return entries.replace part (.tables earlier last)
    | some (.value _) => none

/-- Works on the table under the parts of a header, which are made where they are missing. -/
def within? {α : Type} (f : Entries → Option (Entries × α)) :
    List Text → Entries → Option (Entries × α)
  | [], entries => f entries
  | part :: parts, entries =>
    match entries.lookup part with
    | none => do
      let (inner, a) ← within? f parts []
      return (entries ++ [(part, .table true false inner)], a)
    | some (.table implicit dotted inner) => do
      let (inner, a) ← within? f parts inner
      return (entries.replace part (.table implicit dotted inner), a)
    | some (.tables earlier last) => do
      let (last, a) ← within? f parts last
      return (entries.replace part (.tables earlier last), a)
    | some (.value _) => none

/-- Takes out the table that a header is about to fill: one without a header so far, or none. -/
def takeTable? (key : Text) (entries : Entries) : Option (Entries × Entries) :=
  match entries.lookup key with
  | none => some (entries, [])
  | some (.table true false inner) => some (entries.filter (·.1 != key), inner)
  | some _ => none

/-- A header in double brackets can only add to others of its kind. -/
def allowTables? (key : Text) (entries : Entries) : Option (Entries × PUnit) :=
  match entries.lookup key with
  | none | some (.tables ..) => some (entries, ⟨⟩)
  | some _ => none

def putTable? (key : Text) (inner entries : Entries) : Option (Entries × PUnit) :=
  match entries.lookup key with
  | none => some (entries ++ [(key, .table false false inner)], ⟨⟩)
  | some _ => none

def addTable? (key : Text) (inner entries : Entries) : Option (Entries × PUnit) :=
  match entries.lookup key with
  | none => some (entries ++ [(key, .tables [] inner)], ⟨⟩)
  | some (.tables earlier last) =>
    some (entries.replace key (.tables (earlier ++ [last]) inner), ⟨⟩)
  | some _ => none

end Entries

mutual

def Node.toValue : Node → Value
  | .value v => v
  | .table _ _ entries => .table (tableOf entries)
  | .tables earlier last => .array (tablesOf earlier ++ [.table (tableOf last)])

def tableOf : List (Text × Node) → Table
  | [] => []
  | (key, node) :: rest => (key, node.toValue) :: tableOf rest

def tablesOf : List (List (Text × Node)) → List Value
  | [] => []
  | entries :: rest => .table (tableOf entries) :: tablesOf rest

end

end LogosHooks.Toml

import LogosHooks.Toml.Number

/-!
Reading a TOML document into a table. Each reader takes what it reads off the front of the text and
gives the rest. A document is read line by line; the table of the last header takes the keys that
follow, and it goes into the document when the next header comes or the document ends.
-/
namespace LogosHooks.Toml

def dropSpace (t : Text) : Text := t.dropWhile fun c => c == ' ' || c == '\t'

def isBareKeyChar (c : Char) : Bool := (c.isAlphanum && c.toNat < 128) || c == '_' || c == '-'

def dropComment : Text → Text
  | '#' :: rest => rest.dropWhile isPlain
  | t => t

def endOfLine? : Text → Option Text
  | [] => some []
  | '\n' :: rest => some rest
  | '\r' :: '\n' :: rest => some rest
  | _ => none

def endLine? (t : Text) : Option Text := endOfLine? (dropComment (dropSpace t))

def keyPart? (t : Text) : Option (Text × Text) :=
  match t with
  | '"' :: _ => lineString? t
  | '\'' :: _ => lineString? t
  | _ =>
    let part := t.takeWhile isBareKeyChar
    if part.isEmpty then none else some (part, t.drop part.length)

/-- The number of parts that a key must stay below, and of arrays and tables around a value. -/
def nestingLimit : Nat := 80

def keyParts? : Nat → Text → Option (List Text × Text)
  | 0, _ => none
  | fuel + 1, t => do
    let (part, rest) ← keyPart? (dropSpace t)
    match dropSpace rest with
    | '.' :: rest => do
      let (parts, rest) ← keyParts? fuel rest
      return (part :: parts, rest)
    | rest => return ([part], rest)

def key? (t : Text) : Option (List Text × Text) := do
  let (parts, rest) ← keyParts? (t.length + 1) t
  guard (parts.length < nestingLimit)
  return (parts, rest)

def dropBetween : Nat → Text → Text
  | 0, t => t
  | fuel + 1, t =>
    match dropSpace t with
    | '#' :: rest => dropBetween fuel (dropComment ('#' :: rest))
    | '\n' :: rest => dropBetween fuel rest
    | '\r' :: '\n' :: rest => dropBetween fuel rest
    | rest => rest

/-- The items of an array behind its bracket, each read by `item?`. A comma may stand behind the
last. The fuel has to exceed the number of characters. -/
def items? (item? : Text → Option (Value × Text)) : Nat → Text → Option (List Value × Text)
  | 0, _ => none
  | fuel + 1, t =>
    match dropBetween (t.length + 1) t with
    | ']' :: rest => some ([], rest)
    | t => do
      let (item, rest) ← item? t
      match dropBetween (rest.length + 1) rest with
      | ',' :: rest => do
        let (items, rest) ← items? item? fuel rest
        return (item :: items, rest)
      | ']' :: rest => return ([item], rest)
      | _ => failure

def keyValue? (item? : Text → Option (Value × Text)) (t : Text) :
    Option (List Text × Value × Text) := do
  let (parts, rest) ← key? t
  let (v, rest) ← item? (dropSpace (← expect? '=' rest))
  return (parts, v, rest)

def Entries.insert? (entries : Entries) (parts : List Text) (v : Value) : Option Entries := do
  let last ← parts.getLast?
  Entries.insertDotted? last v parts.dropLast entries

def inlineEntries? (item? : Text → Option (Value × Text)) :
    Nat → Entries → Text → Option (Entries × Text)
  | 0, _, _ => none
  | fuel + 1, entries, t => do
    let (parts, v, rest) ← keyValue? item? t
    let entries ← entries.insert? parts v
    match dropSpace rest with
    | ',' :: rest => inlineEntries? item? fuel entries rest
    | '\x7d' :: rest => return (entries, rest)
    | _ => failure

def value? : Nat → Text → Option (Value × Text)
  | depth, t =>
    match t with
    | '"' :: _ => (string? t).map fun (s, rest) => (.string s, rest)
    | '\'' :: _ => (string? t).map fun (s, rest) => (.string s, rest)
    | '[' :: rest =>
      match depth with
      | 0 => none
      | depth + 1 => do
        let (items, rest) ← items? (value? depth) (rest.length + 1) rest
        return (.array items, rest)
    | '\x7b' :: rest =>
      match depth with
      | 0 => none
      | depth + 1 =>
        match dropSpace rest with
        | '\x7d' :: rest => some (.table [], rest)
        | rest => do
          let (entries, rest) ← inlineEntries? (value? depth) (rest.length + 1) [] rest
          return (.table (tableOf entries), rest)
    | 't' :: 'r' :: 'u' :: 'e' :: rest => some (.boolean true, rest)
    | 'f' :: 'a' :: 'l' :: 's' :: 'e' :: rest => some (.boolean false, rest)
    | _ => numberOrMoment? t

/-- The document so far, and the table that is being filled. -/
structure ReadState where
  document : Entries := []
  current : Entries := []
  path : List Text := []
  /-- The table being filled is one of several under its header. -/
  isArray : Bool := false

namespace ReadState

def close? (s : ReadState) : Option Entries :=
  match s.path.getLast? with
  | none => some s.current
  | some key =>
    let put :=
      if s.isArray then Entries.addTable? key s.current else Entries.putTable? key s.current
    (Entries.within? put s.path.dropLast s.document).map (·.1)

def beginTable? (s : ReadState) (path : List Text) : Option ReadState := do
  let document ← s.close?
  let key ← path.getLast?
  let (document, current) ← Entries.within? (Entries.takeTable? key) path.dropLast document
  return ⟨document, current, path, false⟩

def beginTables? (s : ReadState) (path : List Text) : Option ReadState := do
  let document ← s.close?
  let key ← path.getLast?
  let (document, _) ← Entries.within? (Entries.allowTables? key) path.dropLast document
  return ⟨document, [], path, true⟩

def line? (s : ReadState) (t : Text) : Option (ReadState × Text) :=
  match t with
  | '#' :: _ => (endLine? t).map (s, ·)
  | '\n' :: rest => some (s, rest)
  | '\r' :: '\n' :: rest => some (s, rest)
  | '[' :: '[' :: rest => do
    let (path, rest) ← key? rest
    let rest ← endLine? (← expect? ']' (← expect? ']' rest))
    return (← s.beginTables? path, rest)
  | '[' :: rest => do
    let (path, rest) ← key? rest
    let rest ← endLine? (← expect? ']' rest)
    return (← s.beginTable? path, rest)
  | _ => do
    let (parts, v, rest) ← keyValue? (value? (nestingLimit - 1)) t
    let rest ← endLine? rest
    return ({ s with current := ← s.current.insert? parts v }, rest)

def run? : Nat → ReadState → Text → Option Table
  | 0, _, _ => none
  | fuel + 1, s, t =>
    match dropSpace t with
    | [] => s.close?.map tableOf
    | t => do
      let (s, rest) ← s.line? t
      s.run? fuel rest

end ReadState

/-- The first key of a table that stands for a date or a time of day. -/
def momentKey : Text := "$__toml_private_datetime".toList

def isMoment (t : Text) : Bool := (moment? t).any fun (_, rest) => rest.isEmpty

mutual

/-- The value with every table that stands for a date or a time replaced by it. What such a table
holds behind its first key does not count, but that key must have a text that spells the date. -/
def Value.settled? : Value → Option Value
  | .array items => (settledItems? items).map .array
  | .table [] => some (.table [])
  | .table ((key, v) :: rest) =>
    if key = momentKey then
      match v with
      | .string t => if isMoment t then some (.moment t) else none
      | _ => none
    else do return .table ((key, ← v.settled?) :: (← settledEntries? rest))
  | v => some v

def settledItems? : List Value → Option (List Value)
  | [] => some []
  | v :: rest => do return (← v.settled?) :: (← settledItems? rest)

def settledEntries? : Table → Option Table
  | [] => some []
  | (key, v) :: rest => do return (key, ← v.settled?) :: (← settledEntries? rest)

end

/-- The table that a document describes; nothing if it is no TOML document. A byte order mark may
stand in front. The table of the whole document stands for itself, whatever its first key. -/
def read? (document : Text) : Option Table :=
  let t := if document.head? == some '\ufeff' then document.drop 1 else document
  (ReadState.run? (t.length + 1) {} t).bind settledEntries?

end LogosHooks.Toml

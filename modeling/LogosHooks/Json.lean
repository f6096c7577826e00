import LogosHooks.ClassInterface.Basic

/-!
JSON text with an indentation of two spaces.
-/
namespace LogosHooks

inductive JsonValue where
  | null
  | boolean (b : Bool)
  | number (n : Nat)
  | string (t : Text)
  | array (items : List JsonValue)
  | object (fields : List (String × JsonValue))
deriving Repr

namespace JsonValue

/-- Control characters without a short escape are written by number. -/
def escapeChar (c : Char) : Text :=
  match c with
  | '"' => ['\\', '"']
  | '\\' => ['\\', '\\']
  | '\x08' => ['\\', 'b']
  | '\t' => ['\\', 't']
  | '\n' => ['\\', 'n']
  | '\x0c' => ['\\', 'f']
  | '\r' => ['\\', 'r']
  | _ =>
    if c.toNat < 32 then
      "\\u00".toList ++ (if c.toNat < 16 then ['0'] else []) ++ Nat.toDigits 16 c.toNat
    else [c]

def quoted (t : Text) : Text := '"' :: t.flatMap escapeChar ++ ['"']

def indentation (level : Nat) : Text := '\n' :: List.replicate (2 * level) ' '

def enclosed (opening closing : Char) (level : Nat) (items : List Text) : Text :=
  if items.isEmpty then [opening, closing]
  else
    opening :: [','].intercalate (items.map fun item => indentation (level + 1) ++ item) ++
      indentation level ++ [closing]

mutual

def pretty (level : Nat) : JsonValue → Text
  | null => "null".toList
  | boolean b => (if b then "true" else "false").toList
  | number n => Nat.toDigits 10 n
  | string t => quoted t
  | array items => enclosed '[' ']' level (prettyItems (level + 1) items)
  | object fields => enclosed '\x7b' '\x7d' level (prettyFields (level + 1) fields)

def prettyItems (level : Nat) : List JsonValue → List Text
  | [] => []
  | item :: rest => item.pretty level :: prettyItems level rest

def prettyFields (level : Nat) : List (String × JsonValue) → List Text
  | [] => []
  | (key, v) :: rest =>
    (quoted key.toList ++ ": ".toList ++ v.pretty level) :: prettyFields level rest

end

def ofOption {α : Type} (f : α → JsonValue) (o : Option α) : JsonValue := o.elim null f

end JsonValue

open JsonValue

def DeclaredType.toJson (ty : DeclaredType) : JsonValue :=
  object [("name", string ty.name), ("pointer_depth", number ty.stars.val)]

def Argument.toJson (a : Argument) : JsonValue :=
  object [("external_name", string a.keyword), ("ty", a.type.toJson), ("local_name", string a.name)]

def Method.toJson (m : Method) : JsonValue :=
  object [("selector", string m.selector), ("is_static", boolean m.isStatic),
    ("return_type", m.returnType.toJson), ("arguments", array (m.arguments.map Argument.toJson)),
    ("is_variadic", boolean m.isVariadic)]

def Property.toJson (p : Property) : JsonValue :=
  object [("property_name", string p.name), ("ty", p.type.toJson)]

def ClassInterface.toJson (m : ClassInterface) : JsonValue :=
  object [("name", string m.name), ("class_methods", array (m.classMethods.map Method.toJson)),
    ("instance_methods", array (m.instanceMethods.map Method.toJson)),
    ("properties", array (m.properties.map Property.toJson))]

end LogosHooks

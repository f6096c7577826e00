import LogosHooks.Text.Blank

/-!
Quoted strings of TOML: within double quotes a backslash begins an escape, within single quotes
nothing does, and three quotes enclose a string of several lines.
-/
namespace LogosHooks.Toml

/-- The manner in which a string is quoted. -/
structure Quoting where
  quote : Char
  escapes : Bool
  multiline : Bool
deriving DecidableEq, Repr

inductive QuotedState where
  | plain
  /-- Behind a backslash. -/
  | escape
  /-- Some hexadecimal digits of a character's number are missing. -/
  | number (missing value : Nat)
  /-- Behind a carriage return that a line feed has to follow. With `kept` the line break is part of
  the string. -/
  | returned (kept : Bool)
  /-- Behind a backslash and blanks, which a line break has to follow. -/
  | gap
  /-- Behind a line break that does not count. Blanks and line breaks are left out. -/
  | trim
  /-- Behind some quotes in a string of several lines. -/
  | quotes (count : Nat)
deriving DecidableEq, Repr

def isPlain (c : Char) : Bool := c == '\t' || (32 ≤ c.toNat && c.toNat != 127)

def simpleEscape? : Char → Option Char
  | 'b' => some '\x08'
  | 't' => some '\t'
  | 'n' => some '\n'
  | 'f' => some '\x0c'
  | 'r' => some '\r'
  | '"' => some '"'
  | '\\' => some '\\'
  | _ => none

def hexValue? (c : Char) : Option Nat :=
  if c.isDigit then some (c.toNat - '0'.toNat)
  else if 'a' ≤ c && c ≤ 'f' then some (c.toNat - 'a'.toNat + 10)
  else if 'A' ≤ c && c ≤ 'F' then some (c.toNat - 'A'.toNat + 10)
  else none

namespace Quoting

def plainStep? (q : Quoting) (c : Char) : Option (Text × QuotedState) :=
  if q.multiline && c == q.quote then some ([], .quotes 1)
  else if q.escapes && c == '\\' then some ([], .escape)
  else if q.multiline && c == '\n' then some (['\n'], .plain)
  else if q.multiline && c == '\r' then some ([], .returned true)
  else if isPlain c then some ([c], .plain)
  else none

def escapeStep? (q : Quoting) (c : Char) : Option (Text × QuotedState) :=
  if c = 'u' then some ([], .number 4 0)
  else if c = 'U' then some ([], .number 8 0)
  else if q.multiline && (c == ' ' || c == '\t') then some ([], .gap)
  else if q.multiline && c == '\n' then some ([], .trim)
  else if q.multiline && c == '\r' then some ([], .returned false)
  else (simpleEscape? c).map fun d => ([d], .plain)

def numberStep? (missing value : Nat) (c : Char) : Option (Text × QuotedState) := do
  let value := 16 * value + (← hexValue? c)
  if 1 < missing then return ([], .number (missing - 1) value)
  else if value.isValidChar then return ([Char.ofNat value], .plain)
  else failure

def step? (q : Quoting) (state : QuotedState) (c : Char) : Option (Text × QuotedState) :=
  match state with
  | .plain => q.plainStep? c
  | .escape => q.escapeStep? c
  | .number missing value => numberStep? missing value c
  | .returned kept =>
    if c != '\n' then none else some (if kept then (['\n'], .plain) else ([], .trim))
  | .gap =>
    if c == ' ' || c == '\t' then some ([], .gap)
    else if c == '\n' then some ([], .trim)
    else if c == '\r' then some ([], .returned false)
    else none
  | .trim =>
    if c == ' ' || c == '\t' || c == '\n' then some ([], .trim)
    else if c == '\r' then some ([], .returned false)
    else q.plainStep? c
  | .quotes count =>
    if c == q.quote then some ([], .quotes (count + 1))
    else (q.plainStep? c).map fun (t, next) => (List.replicate count q.quote ++ t, next)

/-- Whether the string has come to its end in front of the next character. Up to two quotes may
stand in front of the three that end a string of several lines. -/
def isClosed (q : Quoting) (state : QuotedState) (next : Option Char) : Bool :=
  match state with
  | .quotes count => 3 ≤ count && (count == 5 || next != some q.quote)
  | _ => false

def body? (q : Quoting) (state : QuotedState) : Text → Option (Text × Text)
  | [] =>
    match state with
    | .quotes count =>
      if q.isClosed state none then some (List.replicate (count - 3) q.quote, []) else none
    | _ => none
  | c :: rest =>
    if q.isClosed state (some c) then
      match state with
      | .quotes count => some (List.replicate (count - 3) q.quote, c :: rest)
      | _ => none
    else if !q.multiline && state == .plain && c == q.quote then some ([], rest)
    else
      match q.step? state c with
      | some (t, next) => (q.body? next rest).map fun (content, behind) => (t ++ content, behind)
      | none => none

end Quoting

/-- A line break right behind three quotes does not count. -/
def dropLineBreak : Text → Text
  | '\n' :: rest => rest
  | '\r' :: '\n' :: rest => rest
  | t => t

def lineString? (t : Text) : Option (Text × Text) :=
  match t with
  | '"' :: rest => Quoting.body? ⟨'"', true, false⟩ .plain rest
  | '\'' :: rest => Quoting.body? ⟨'\'', false, false⟩ .plain rest
  | _ => none

def string? (t : Text) : Option (Text × Text) :=
  match t with
  | '"' :: '"' :: '"' :: rest => Quoting.body? ⟨'"', true, true⟩ .plain (dropLineBreak rest)
  | '\'' :: '\'' :: '\'' :: rest => Quoting.body? ⟨'\'', false, true⟩ .plain (dropLineBreak rest)
  | _ => lineString? t

end LogosHooks.Toml

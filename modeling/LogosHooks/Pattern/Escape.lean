import LogosHooks.Pattern.Basic
import LogosHooks.Pattern.Flags

/-!
What a backslash in a pattern makes of the characters behind it.
-/
namespace LogosHooks.Pattern

/-- One thing that a pattern asks for. -/
inductive Atom where
  /-- A character. With `asByte` it was written as a byte, in two hexadecimal digits. -/
  | literal (c : Char) (asByte : Bool)
  | chars (a : CharClass)
  | assertion (condition : Assertion)
deriving Repr

def isHexDigit (c : Char) : Bool := c.isDigit || ('a' ≤ c && c ≤ 'f') || ('A' ≤ c && c ≤ 'F')

def hexChar? (digits : Text) : Option Char :=
  let value := Unicode.hexValue digits
  if !digits.isEmpty && digits.all isHexDigit && value.isValidChar then some (Char.ofNat value)
  else none

def hexDigits? (flags : Flags) : Nat → Text → Option (Text × Text)
  | 0, t => some ([], t)
  | n + 1, t =>
    match t with
    | [] => none
    | c :: rest =>
      if isHexDigit c then
        (hexDigits? flags n (flags.skip rest)).map fun (digits, behind) => (c :: digits, behind)
      else none

def hexEscape? (flags : Flags) (count : Nat) (t : Text) : Option (Atom × Text) :=
  match flags.skip t with
  | '\x7b' :: rest => do
    let (digits, behind) ← upTo? flags.verbose false '\x7d' rest
    return (.literal (← hexChar? digits) false, flags.skip behind)
  | t => do
    let (digits, behind) ← hexDigits? flags count t
    return (.literal (← hexChar? digits) (count == 2), behind)

def Flags.finishClass (flags : Flags) (negated : Bool) (a : CharClass) : CharClass :=
  let a := if !flags.anyCase then a else if flags.unicode then a.withCases else a.withAsciiCases
  if negated then a.compl else a

def splitAtMark? (mark : Text) : Text → Option (Text × Text)
  | [] => none
  | c :: rest =>
    match List.isPrefixOf? mark (c :: rest) with
    | some behind => some ([], behind)
    | none => (splitAtMark? mark rest).map fun (front, behind) => (c :: front, behind)

def bracedProperty? (content : Text) : Option (CharClass × Bool) :=
  match splitAtMark? "!=".toList content with
  | some (name, value) => (CharClass.propertyValue? name value).map (·, true)
  | none =>
    match splitAtMark? [':'] content <|> splitAtMark? ['='] content with
    | some (name, value) => (CharClass.propertyValue? name value).map (·, false)
    | none => (CharClass.property? content).map (·, false)

def propertyName? (flags : Flags) : Text → Option ((CharClass × Bool) × Text)
  | [] => none
  | '\x7b' :: rest => do
    let (content, behind) ← upTo? flags.verbose false '\x7d' rest
    return (← bracedProperty? content, behind)
  | c :: rest =>
    if c = '\\' then none
    else (CharClass.property? [c]).map fun a => ((a, false), flags.skip rest)

def propertyEscape? (flags : Flags) (negated : Bool) (t : Text) : Option (Atom × Text) :=
  if !flags.unicode then none
  else (propertyName? flags (flags.skip t)).map fun (found, behind) =>
    (.chars (flags.finishClass (negated != found.2) found.1), behind)

/-- The classes `\d`, `\s` and `\w`, and with a capital letter all other characters. Without
Unicode, those others are no characters. -/
def namedEscape? (flags : Flags) (unicode ascii : CharClass) (negated : Bool) : Option Atom :=
  if flags.unicode then some (.chars (if negated then unicode.compl else unicode))
  else if negated then none
  else some (.chars ascii)

def wordPlaces : List (String × WordPlace) :=
  [("start", .start), ("end", .finish), ("start-half", .afterNoWord), ("end-half", .beforeNoWord)]

def borderName? (flags : Flags) (t : Text) : Option (WordPlace × Text) := do
  let (name, behind) ← upTo? flags.verbose false '\x7d' t
  let (_, place) ← wordPlaces.find? (·.1.toList == name)
  return (place, behind)

/-- The assertion behind `\b`: any border of a word, or one named in braces. Braces that do not hold
letters belong to a repetition. -/
def wordBorder? (flags : Flags) (t : Text) : Option (WordPlace × Text) :=
  match t with
  | '\x7b' :: rest =>
    match flags.skip rest with
    | [] => none
    | c :: name =>
      if c.isAlpha || c == '-' then borderName? flags (c :: name) else some (.boundary, t)
  | _ => some (.boundary, t)

def metaChars : Text := "\\.+*?()|[]\x7b\x7d^$#&-~".toList

/-- ASCII characters other than letters and digits stand for themselves behind a backslash. -/
def isEscapable (c : Char) : Bool :=
  metaChars.contains c || (c.toNat < 128 && !c.isAlphanum && c != '<' && c != '>')

def escapedChar? (flags : Flags) (c : Char) : Option Atom :=
  let literal (d : Char) : Option Atom := some (.literal d false)
  let word (place : WordPlace) : Option Atom := some (.assertion (.word flags.unicode place))
  match c with
  | 'd' => namedEscape? flags CharClass.digits CharClass.asciiDigits false
  | 'D' => namedEscape? flags CharClass.digits CharClass.asciiDigits true
  | 's' => namedEscape? flags CharClass.spaces CharClass.asciiSpaces false
  | 'S' => namedEscape? flags CharClass.spaces CharClass.asciiSpaces true
  | 'w' => namedEscape? flags CharClass.wordChars CharClass.asciiWordChars false
  | 'W' => namedEscape? flags CharClass.wordChars CharClass.asciiWordChars true
  | 'a' => literal '\x07'
  | 'f' => literal '\x0c'
  | 't' => literal '\t'
  | 'n' => literal '\n'
  | 'r' => literal '\r'
  | 'v' => literal '\x0b'
  | 'A' => some (.assertion .textStart)
  | 'z' => some (.assertion .textEnd)
  | 'B' => word .noBoundary
  | '<' => word .start
  | '>' => word .finish
  | _ => if isEscapable c then literal c else none

def escape? (flags : Flags) : Text → Option (Atom × Text)
  | [] => none
  | c :: rest =>
    match c with
    | 'x' => hexEscape? flags 2 rest
    | 'u' => hexEscape? flags 4 rest
    | 'U' => hexEscape? flags 8 rest
    | 'p' => propertyEscape? flags false rest
    | 'P' => propertyEscape? flags true rest
    | 'b' =>
      (wordBorder? flags rest).map fun (place, behind) =>
        (.assertion (.word flags.unicode place), behind)
    | _ => (escapedChar? flags c).map (·, rest)

def Flags.literalClass? (flags : Flags) (c : Char) (asByte : Bool) : Option CharClass :=
  if !flags.unicode && asByte && 128 ≤ c.toNat then none
  else some (flags.finishClass false (.single c))

end LogosHooks.Pattern

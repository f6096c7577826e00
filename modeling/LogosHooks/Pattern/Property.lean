import LogosHooks.Pattern.CharClass
import LogosHooks.Unicode.Age
import LogosHooks.Unicode.Binary
import LogosHooks.Unicode.Category
import LogosHooks.Unicode.Script
import LogosHooks.Unicode.Segment

/-!
The character classes that patterns refer to by a name: properties as of Unicode 16, the classes
`\d`, `\s` and `\w`, and the named classes of ASCII.
-/
namespace LogosHooks.CharClass

open Unicode

def hasName (names : List String) (name : Text) : Bool := names.any (·.toList == name)

def ofHex (hex : List String) : CharClass := hex.flatMap Ranges.ofHex

def lookUp? (table : List (List String × List String)) (name : Text) : Option CharClass :=
  (table.find? fun (names, _) => hasName names name).map fun (_, hex) => ofHex hex

/-- Case, blanks, hyphens and underscores do not count in a name, nor does `is` in front of it. -/
def looseName (name : Text) : Text :=
  let startsWithIs := (name.take 2).map Char.toLower == "is".toList
  let kept := (if startsWithIs then name.drop 2 else name).filterMap fun c =>
    if c = ' ' || c = '_' || c = '-' || 128 ≤ c.toNat then Option.none else some c.toLower
  if startsWithIs && kept == ['c'] then "isc".toList else kept

def categoryGroups : List (List String × List String) :=
  [(["l", "letter"], ["lu", "ll", "lt", "lm", "lo"]),
    (["lc", "casedletter"], ["lu", "ll", "lt"]),
    (["m", "mark", "combiningmark"], ["mn", "mc", "me"]),
    (["n", "number"], ["nd", "nl", "no"]),
    (["p", "punctuation", "punct"], ["pc", "pd", "ps", "pe", "pi", "pf", "po"]),
    (["s", "symbol"], ["sm", "sc", "sk", "so"]),
    (["z", "separator"], ["zs", "zl", "zp"])]

def ofCategories (names : List String) : CharClass :=
  unions (names.filterMap fun name => lookUp? categoryTable name.toList)

def assigned : CharClass :=
  unions (categoryTable.map fun (_, hex) => ofHex hex)

def category? (name : Text) : Option CharClass :=
  if name == "any".toList then some (.compl none)
  else if name == "assigned".toList then some assigned
  else if name == "ascii".toList then some [(0, 0x7F)]
  else if hasName ["cn", "unassigned"] name then some assigned.compl
  else if hasName ["c", "other"] name then
    some (unions (categoryGroups.map fun (_, members) => ofCategories members)).compl
  else
    match categoryGroups.find? fun (names, _) => hasName names name with
    | some (_, members) => some (ofCategories members)
    | .none => lookUp? categoryTable name

def script? (name : Text) : Option CharClass := lookUp? scriptTable name

def scriptExtension? (name : Text) : Option CharClass :=
  lookUp? scriptExtensionTable name <|> script? name

/-- The characters that the standard has as of a version, those of older versions among them. -/
def age? (name : Text) : Option CharClass := do
  let place ← ageTable.findIdx? fun (names, _) => hasName names name
  return unions ((ageTable.take (place + 1)).map fun (_, hex) => ofHex hex)

/-- A property by its name alone. Three short names mean a category, though they abbreviate other
properties too. -/
def property? (name : Text) : Option CharClass :=
  let name := looseName name
  let binary? :=
    if hasName ["cf", "sc", "lc"] name then Option.none else lookUp? binaryTable name
  binary? <|> category? name <|> script? name

def propertyValue? (property value : Text) : Option CharClass :=
  let property := looseName property
  let value := looseName value
  if hasName ["gc", "generalcategory"] property then category? value
  else if hasName ["sc", "script"] property then script? value
  else if hasName ["scx", "scriptextensions"] property then scriptExtension? value
  else if hasName ["age"] property then age? value
  else if hasName ["gcb", "graphemeclusterbreak"] property then lookUp? graphemeBreakTable value
  else if hasName ["wb", "wordbreak"] property then lookUp? wordBreakTable value
  else if hasName ["sb", "sentencebreak"] property then lookUp? sentenceBreakTable value
  else Option.none

def digits : CharClass := ofCategories ["nd"]

def spaces : CharClass := unions (Text.blanks.map single)

def alphabetic : CharClass := (lookUp? binaryTable "alphabetic".toList).getD none

def wordChars : CharClass :=
  unions [alphabetic, ofCategories ["mn", "mc", "me", "nd", "pc"],
    (lookUp? binaryTable "joincontrol".toList).getD none]

def asciiDigits : CharClass := between '0' '9'

def asciiSpaces : CharClass := unions (['\t', '\n', '\x0b', '\x0c', '\r', ' '].map single)

def asciiWordChars : CharClass :=
  unions [between 'a' 'z', between 'A' 'Z', asciiDigits, single '_']

def asciiNamed? (name : Text) : Option CharClass :=
  [("alnum", unions [between '0' '9', between 'A' 'Z', between 'a' 'z']),
    ("alpha", unions [between 'A' 'Z', between 'a' 'z']),
    ("ascii", between '\x00' '\x7f'),
    ("blank", unions [single '\t', single ' ']),
    ("cntrl", unions [between '\x00' '\x1f', single '\x7f']),
    ("digit", asciiDigits),
    ("graph", between '!' '~'),
    ("lower", between 'a' 'z'),
    ("print", between ' ' '~'),
    ("punct", unions [between '!' '/', between ':' '@', between '[' '`', between '\x7b' '~']),
    ("space", asciiSpaces),
    ("upper", between 'A' 'Z'),
    ("word", asciiWordChars),
    ("xdigit", unions [between '0' '9', between 'A' 'F', between 'a' 'f'])].find?
      (fun entry => entry.1.toList == name) |>.map (·.2)

end LogosHooks.CharClass

import LogosHooks.ClassInterface.Basic
import LogosHooks.Declaration.Argument

/-!
A line of a header, told by its first characters: the start of a class, a method, a property, or
anything else. A declaration ends before `//`, and a semicolon at its end does not count.
-/
namespace LogosHooks

def classMarker : Text := "@interface".toList
def propertyMarker : Text := "@property".toList

def declarationCode (line : Text) : Text :=
  let code := Text.trimRight (Text.before "//".toList line)
  Text.trimRight ((Text.cutSuffix? [';'] code).getD code)

def readClassName (line : Text) : Except LineFault Text := do
  let rest := line.drop classMarker.length
  unless rest.head?.all Text.isBlank do throw (.badDeclaration .interfaceRunsOn)
  let word := (Text.words rest).headD []
  let name := word.takeWhile fun c => c != '(' && c != ':' && c != '<'
  if name.isEmpty then throw (.badDeclaration .interfaceUnnamed)
  return name

/-- A method line, cut into its parts. -/
structure MethodParts where
  isStatic : Bool
  returnText : Text
  selector : Text
  /-- From the first colon on, without the `, ...` of a variadic method. -/
  argumentsText : Text
  isVariadic : Bool
deriving DecidableEq, Repr

/-- Cuts `, ...` off the end. Blanks may stand on either side of the comma. -/
def cutEllipsis (t : Text) : Text × Bool :=
  match (Text.cutSuffix? "...".toList t).bind fun front =>
      Text.cutSuffix? [','] (Text.trimRight front) with
  | some front => (Text.trimRight front, true)
  | none => (t, false)

def readMethodParts (line : Text) : Except LineFault MethodParts := do
  let code := declarationCode line
  let rest := Text.trimLeft (code.drop 1)
  unless rest.head? == some '(' do throw (.badDeclaration .noReturnType)
  let some (inside, behind) := Text.parenthesized? rest | throw .openParenthesis
  let returnText := Text.trim inside
  if returnText.isEmpty then throw (.badDeclaration .emptyReturnType)
  let selector := Text.trim (behind.takeWhile (· != ':'))
  if selector.isEmpty then throw (.badDeclaration .noSelector)
  if Text.hasBlank selector then throw (.badDeclaration (.selectorSplit selector))
  let (argumentsText, isVariadic) := cutEllipsis (Text.trim (behind.dropWhile (· != ':')))
  return ⟨code.head? == some '+', returnText, selector, argumentsText, isVariadic⟩

def MethodParts.method (parts : MethodParts) : Except LineFault Method := do
  let arguments ← readArguments parts.argumentsText
  return ⟨parts.selector, parts.isStatic, .ofText parts.returnText, arguments, parts.isVariadic⟩

def readMethod (line : Text) : Except LineFault Method := do
  (← readMethodParts line).method

/-- A property line, cut into its parts. -/
structure PropertyParts where
  /-- The type with its stars. -/
  typeText : Text
  name : Text
deriving DecidableEq, Repr

def PropertyParts.property (parts : PropertyParts) : Property :=
  ⟨parts.name, .ofText parts.typeText⟩

def cutLastIdentifier (t : Text) : Text × Text :=
  ((t.reverse.dropWhile Text.isIdentifierChar).reverse,
    (t.reverse.takeWhile Text.isIdentifierChar).reverse)

def readPropertyParts (line : Text) : Except LineFault PropertyParts := do
  let rest := Text.trimLeft ((declarationCode line).drop propertyMarker.length)
  let rest ←
    if rest.head? == some '(' then
      match Text.parenthesized? rest with
      | some (_, behind) => pure behind
      | none => throw .openParenthesis
    else pure rest
  let (typeText, name) := cutLastIdentifier (Text.trim rest)
  let typeText := Text.trim typeText
  if name.isEmpty then throw (.badDeclaration .propertyUnnamed)
  if typeText.isEmpty then throw (.badDeclaration (.propertyUntyped name))
  return ⟨typeText, name⟩

inductive Line where
  | classStart (name : Text)
  | method (parts : MethodParts)
  | property (parts : PropertyParts)
  | other
deriving DecidableEq, Repr

def isClassLine (line : Text) : Bool := classMarker.isPrefixOf line

def isPropertyLine (line : Text) : Bool := propertyMarker.isPrefixOf line

def isMethodLine (line : Text) : Bool := line.head? == some '+' || line.head? == some '-'

def Line.read (line : Text) : Except LineFault Line :=
  if isClassLine line then .classStart <$> readClassName line
  else if isPropertyLine line then .property <$> readPropertyParts line
  else if isMethodLine line then .method <$> readMethodParts line
  else return .other

end LogosHooks

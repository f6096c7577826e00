import LogosHooks.Text.Blank

/-!
What can be wrong with a declaration, a header or a pattern. Faults of a single line do not know
where the line stands; `Fault.inLine` adds its number, counted from 1, and 0 stands for a line
that belongs to no header. Why a pattern is none is left open: its message ends with the pattern,
and a colon and the reason may be put behind it.
-/
namespace LogosHooks

/-- Why a line does not declare what its first characters promise. -/
inductive DeclarationFault where
  /-- Something other than a blank follows `@interface`. -/
  | interfaceRunsOn
  | interfaceUnnamed
  /-- No parenthesis follows the sign of a method. -/
  | noReturnType
  | emptyReturnType
  | noSelector
  /-- The text between the return type and the first colon has a blank in it. -/
  | selectorSplit (selector : Text)
  | propertyUnnamed
  | propertyUntyped (name : Text)
  | emptyClassName
deriving DecidableEq, Repr

def DeclarationFault.message : DeclarationFault → Text
  | interfaceRunsOn => "expected whitespace after @interface".toList
  | interfaceUnnamed => "@interface without a class name".toList
  | noReturnType => "expected '(' after method sigil".toList
  | emptyReturnType => "empty return type".toList
  | noSelector => "missing selector".toList
  | selectorSplit selector =>
    "unexpected text in selector '".toList ++ selector ++ "'".toList
  | propertyUnnamed => "property without a name".toList
  | propertyUntyped name => "property '".toList ++ name ++ "' without a type".toList
  | emptyClassName => "empty class name".toList

inductive LineFault where
  | badDeclaration (cause : DeclarationFault)
  | badArgument (segment : Text)
  | openParenthesis
deriving DecidableEq, Repr

inductive Fault where
  | noClass
  | inLine (line : Nat) (fault : LineFault)
  | badPattern (pattern : Text)
  /-- The hooks that were written are not as many as were announced. -/
  | hooksMissing
deriving DecidableEq, Repr

namespace Fault

def message : Fault → Text
  | noClass => "No @interface declaration found".toList
  | inLine line fault =>
    let number := Nat.toDigits 10 line
    match fault with
    | .badDeclaration cause =>
      "Malformed declaration on line ".toList ++ number ++ ": ".toList ++ cause.message
    | .badArgument segment =>
      "Malformed argument on line ".toList ++ number ++ ": '".toList ++ segment ++ "'".toList
    | .openParenthesis => "Unbalanced parenthesis on line ".toList ++ number
  | badPattern pattern => "Invalid pattern '".toList ++ pattern ++ "'".toList
  | hooksMissing => "Renderer failed to write hook text".toList

def isRecoverable : Fault → Bool
  | noClass | inLine .. => true
  | badPattern _ | hooksMissing => false

end Fault
end LogosHooks

import LogosHooks.DeclaredType.Basic

/-!
Methods of a class, and the signature that declares one: `-(void) setName:(NSString *) name`.
-/
namespace LogosHooks

/-- One `keyword:(type) name` of a method. The keyword of the first argument is empty in what a
declaration gives, because the selector stands in its place. -/
structure Argument where
  keyword : Text
  type : DeclaredType
  name : Text
deriving DecidableEq, Repr

def Argument.display (a : Argument) : Text :=
  a.keyword ++ ":(".toList ++ a.type.display ++ ") ".toList ++ a.name

structure Method where
  selector : Text
  isStatic : Bool := false
  returnType : DeclaredType := .void
  arguments : List Argument := []
  /-- The declaration ends in `, ...`. -/
  isVariadic : Bool := false
deriving DecidableEq, Repr

namespace Method

def sign (m : Method) : Char := if m.isStatic then '+' else '-'

/-- The keywords with a colon for each argument: `setObject:forKey:`. The keyword of the first
argument is the selector. -/
def wholeSelector (m : Method) : Text :=
  m.selector ++
    match m.arguments with
    | [] => []
    | _ :: later => ':' :: later.flatMap fun a => a.keyword ++ [':']

def display (m : Method) : Text :=
  m.sign :: '(' :: m.returnType.display ++ ") ".toList ++ m.selector ++
    Text.unwords (m.arguments.map Argument.display) ++
    if m.isVariadic then ", ...".toList else []

end Method
end LogosHooks

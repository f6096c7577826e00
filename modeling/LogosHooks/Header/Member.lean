import LogosHooks.Declaration.Line
import LogosHooks.DeclaredType.Registry

/-!
The members that a header declares, in the order of their lines, whatever is done with them later.
A header with a fault anywhere has no members at all: the name of its class is looked up first, and
then the lines are read from the top.
-/
namespace LogosHooks

/-- What one line declares for the class. -/
inductive Member where
  | method (m : Method)
  | property (p : Property)
deriving DecidableEq, Repr

namespace Member

def ofLine (line : Text) : Except LineFault (Option Member) := do
  match ← Line.read line with
  | .method parts => return some (.method (← parts.method))
  | .property parts => return some (.property parts.property)
  | .classStart _ | .other => return none

/-- The type that decides whether the member can be hooked. -/
def type : Member → DeclaredType
  | method m => m.returnType
  | property p => p.type

end Member

def atLine {α : Type} (number : Nat) : Except LineFault α → Except Fault α
  | .ok value => .ok value
  | .error fault => .error (.inLine number fault)

def firstClassName (number : Nat) : List Text → Except Fault Text
  | [] => .error .noClass
  | line :: rest =>
    if isClassLine line then atLine number (readClassName line)
    else firstClassName (number + 1) rest

def readMembers (number : Nat) : List Text → Except Fault (List Member)
  | [] => .ok []
  | line :: rest => do
    let here ← atLine number (Member.ofLine line)
    let later ← readMembers (number + 1) rest
    return here.toList ++ later

def className (source : Text) : Except Fault Text := firstClassName 1 (Text.lines source)

def readHeader (source : Text) : Except Fault (Text × List Member) := do
  let name ← className source
  return (name, ← readMembers 1 (Text.lines source))

end LogosHooks

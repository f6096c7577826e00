import LogosHooks.Fault
import LogosHooks.Pattern.Parser

/-!
Patterns that names are tested with. The text of the pattern is put into a group behind `^`, so a
name matches if a match begins at its front; the match need not reach to the end of the name.
-/
namespace LogosHooks

structure NamePattern where
  /-- The pattern as it was given. -/
  source : Text
  expression : Pattern
deriving Repr

namespace NamePattern

def anchored (source : Text) : Text := "^(?:".toList ++ source ++ [')']

def compile (source : Text) : Except Fault NamePattern :=
  match Pattern.parse? (anchored source) with
  | some expression => .ok ⟨source, expression⟩
  | none => .error (.badPattern source)

def accepts (p : NamePattern) (name : Text) : Bool := p.expression.matchesSomewhere name

end NamePattern
end LogosHooks

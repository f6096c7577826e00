import LogosHooks.Header.Collect
import LogosHooks.Hooks.HookText
import LogosHooks.Pattern.NamePattern

/-!
What the headers of one run have in common, and the hooks of one header under it.
-/
namespace LogosHooks

structure Request where
  policy : DropPolicy := {}
  /-- Members whose name the pattern does not accept are left out. -/
  filter : Option NamePattern := none
  options : HookOptions := {}
deriving Repr

namespace Request

def accepts (request : Request) (name : Text) : Bool := request.filter.all (·.accepts name)

def narrow (request : Request) (interface : ClassInterface) : ClassInterface :=
  match request.filter with
  | some pattern => interface.restrictNames pattern.accepts
  | none => interface

def hookHeader (request : Request) (source : Text) : Except Fault HookText := do
  writeHooks request.options (request.narrow (← collect request.policy source))

end Request
end LogosHooks

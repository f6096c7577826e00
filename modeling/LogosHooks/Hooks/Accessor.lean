import LogosHooks.Text.Upper

/-!
The names of the methods that read and set a property.
-/
namespace LogosHooks

/-- The property's name with its first character in upper case: `Color` for `color`. -/
def capitalize : Text → Text
  | [] => []
  | c :: rest => Text.upper c ++ rest

def getterSelector (property : Text) : Text := "get".toList ++ capitalize property

def setterSelector (property : Text) : Text := "set".toList ++ capitalize property

end LogosHooks

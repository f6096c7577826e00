import LogosHooks.DeclaredType.Basic

/-!
The conversion with which a value of a type is logged, without the percent sign.
-/
namespace LogosHooks.DeclaredType

/-- Conversions of the types that are not logged as objects, by display form. -/
def logFormats : List (String × String) :=
  [("int", "d"), ("unsigned", "d"), ("BOOL", "d"), ("bool", "d"), ("short", "d"),
    ("unsigned int", "u"), ("long", "ld"), ("unsigned long", "lu"), ("long long", "lld"),
    ("unsigned long long", "llu"), ("float", "g"), ("double", "g"), ("char", "c"),
    ("char *", "s"), ("const char *", "s")]

def logFormat (ty : DeclaredType) : Text :=
  match logFormats.find? fun (shown, _) => shown.toList == ty.display with
  | some (_, conversion) => conversion.toList
  | none => ['@']

end LogosHooks.DeclaredType

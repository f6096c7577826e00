import LogosHooks.ClassInterface.Method
import LogosHooks.Fault

/-!
What a header declares of one class. Each of the three lists keeps the order of the declarations,
and `restrict` leaves out members without touching the others.
-/
namespace LogosHooks

structure Property where
  name : Text
  type : DeclaredType
deriving DecidableEq, Repr

structure ClassInterface where
  name : Text
  classMethods : List Method
  instanceMethods : List Method
  properties : List Property
deriving DecidableEq, Repr

namespace ClassInterface

def make (name : Text) (classMethods instanceMethods : List Method) (properties : List Property) :
    Except Fault ClassInterface :=
  if name.isEmpty then .error (.inLine 0 (.badDeclaration .emptyClassName))
  else .ok ⟨name, classMethods, instanceMethods, properties⟩

def isEmpty (m : ClassInterface) : Bool :=
  m.classMethods.isEmpty && m.instanceMethods.isEmpty && m.properties.isEmpty

def restrict (m : ClassInterface) (keepMethod : Method → Bool) (keepProperty : Property → Bool) :
    ClassInterface :=
  ⟨m.name, m.classMethods.filter keepMethod, m.instanceMethods.filter keepMethod,
    m.properties.filter keepProperty⟩

def restrictNames (m : ClassInterface) (accepts : Text → Bool) : ClassInterface :=
  m.restrict (fun method => accepts method.selector) (fun property => accepts property.name)

theorem restrict_restrict (m : ClassInterface) (p p' : Method → Bool) (q q' : Property → Bool) :
    (m.restrict p q).restrict p' q' =
      m.restrict (fun x => p' x && p x) (fun x => q' x && q x) := by
  simp [restrict, List.filter_filter]

end ClassInterface
end LogosHooks

import LogosHooks.Header.Member

/-!
From the members of a header to the interface of its class, as far as it is to be hooked. Two
methods are never hooked, because hooking them breaks the construction and destruction of objects.
Members whose type is unknown are dropped on request. The log tells for each member what became of
it.
-/
namespace LogosHooks

/-- Compiler-generated methods that set up and tear down the variables of an object. -/
def unhookableSelectors : List Text := [".cxx_destruct".toList, ".cxx_construct".toList]

/-- Which types are known, and whether members of unknown types are dropped. -/
structure DropPolicy where
  registry : Registry := .builtin
  dropUnknown : Bool := true
deriving DecidableEq, Repr

def DropPolicy.keepsType (policy : DropPolicy) (ty : DeclaredType) : Bool :=
  !policy.dropUnknown || policy.registry.knows ty

/-- What becomes of a member. -/
inductive Verdict where
  | unhookable
  | dropped
  | kept
deriving DecidableEq, Repr

def Member.isUnhookable : Member → Bool
  | method m => unhookableSelectors.contains m.selector
  | property _ => false

def DropPolicy.verdict (policy : DropPolicy) (member : Member) : Verdict :=
  if member.isUnhookable then .unhookable
  else if policy.keepsType member.type then .kept
  else .dropped

def ClassInterface.ofMembers (name : Text) (members : List Member) : Except Fault ClassInterface :=
  let methods := members.filterMap fun | .method m => some m | .property _ => none
  let properties := members.filterMap fun | .property p => some p | .method _ => none
  ClassInterface.make name (methods.filter (·.isStatic)) (methods.filter (!·.isStatic)) properties

/-- What is reported while the members are collected. -/
inductive CollectEvent where
  | foundClass (name : Text)
  | hooking (className : Text) (method : Method)
  | skippingMethod (className : Text) (method : Method)
  | skippingProperty (className : Text) (property : Property)
  | collected (interface : ClassInterface)
deriving DecidableEq, Repr

/-- The report on one member. Methods that are never hooked, and properties that are kept, need
none. -/
def DropPolicy.event? (policy : DropPolicy) (className : Text) (member : Member) :
    Option CollectEvent :=
  match policy.verdict member, member with
  | .kept, .method m => some (.hooking className m)
  | .dropped, .method m => some (.skippingMethod className m)
  | .dropped, .property p => some (.skippingProperty className p)
  | _, _ => none

def collectLogged (policy : DropPolicy) (source : Text) :
    Except Fault (ClassInterface × List CollectEvent) := do
  let (name, members) ← readHeader source
  let interface ← ClassInterface.ofMembers name (members.filter (policy.verdict · == .kept))
  return (interface,
    .foundClass name :: members.filterMap (policy.event? name) ++ [.collected interface])

def collect (policy : DropPolicy) (source : Text) : Except Fault ClassInterface :=
  (collectLogged policy source).map (·.1)

namespace CollectEvent

def kindOf (m : Method) : Text :=
  if m.isStatic then "class method".toList else "instance method".toList

def message : CollectEvent → Text
  | foundClass _ => "Found class".toList
  | hooking _ m => "Hooking ".toList ++ kindOf m
  | skippingMethod _ m => "Unknown return type; skipping ".toList ++ kindOf m
  | skippingProperty .. => "Unknown type; skipping property".toList
  | collected _ => "Built class model".toList

def fields : CollectEvent → List (String × Text)
  | foundClass name => [("class", name)]
  | hooking name m => [("class", name), ("selector", m.wholeSelector)]
  | skippingMethod name m =>
    [("class", name), ("selector", m.wholeSelector), ("return_type", m.returnType.display)]
  | skippingProperty name p => [("class", name), ("property", p.name), ("ty", p.type.display)]
  | collected interface =>
    [("class", interface.name),
      ("class_methods", Nat.toDigits 10 interface.classMethods.length),
      ("instance_methods", Nat.toDigits 10 interface.instanceMethods.length),
      ("properties", Nat.toDigits 10 interface.properties.length)]

end CollectEvent
end LogosHooks

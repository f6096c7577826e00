import LogosHooks.ClassInterface.Basic
import LogosHooks.DeclaredType.LogFormat
import LogosHooks.Hooks.Accessor
import LogosHooks.Text.Line

/-!
The hook text of a class: a framed header, the line `%hook` with the class name, a section for the
accessors of the properties, one for the class methods and one for the instance methods, and `%end`.
Each section is a list of blocks, and each block hooks one method: it begins with the method's
signature, logs the call and forwards it. A class with nothing to hook has an empty text.
-/
namespace LogosHooks

structure HookOptions where
  properties : Bool := true
  getters : Bool := false
  setters : Bool := false
  /-- One line of log for each argument. -/
  logArguments : Bool := false
  /-- A line of log where an accessor is entered. -/
  logEntry : Bool := false
deriving DecidableEq, Repr

namespace HookOptions

def hooksProperties (o : HookOptions) : Bool :=
  o.properties && (o.getters || o.setters)

def accessorCount (o : HookOptions) : Nat := o.getters.toNat + o.setters.toNat

end HookOptions

structure HookText where
  text : Text := []
  hookCount : Nat := 0
deriving DecidableEq, Repr

def HookText.isEmpty (r : HookText) : Bool := r.hookCount == 0

/-- One method to hook. -/
inductive Hook where
  | getter (p : Property)
  | setter (p : Property)
  | method (m : Method)
deriving DecidableEq, Repr

namespace Hook

def signature : Hook → Text
  | getter p => "-(".toList ++ p.type.display ++ ") ".toList ++ getterSelector p.name
  | setter p =>
    "-(void) ".toList ++ setterSelector p.name ++ ": (".toList ++ p.type.display ++ ')' :: p.name
  | method m => m.display

def indent (t : Text) : Text := "    ".toList ++ t

def logLine (message : Text) (value : Option Text) : Text :=
  indent ("NSLog(@\"".toList ++ message ++ '"' ::
    (value.elim [] fun v => ", ".toList ++ v) ++ ");".toList)

def accessorLog (bracket : String) (p : Property) : Text :=
  logLine (bracket.toList ++ '(' :: p.type.display ++ ") ".toList ++ p.name ++ ": %".toList ++
    p.type.logFormat) (some p.name)

def enterLog (o : HookOptions) (p : Property) (accessor : String) : List Text :=
  if o.logEntry then
    [logLine (" >>> Enter ".toList ++ p.name ++ ' ' :: accessor.toList ++ " >>>".toList) none]
  else []

def argumentLog (a : Argument) : Text :=
  logLine ("    [Param]".toList ++ a.display ++ " -> %".toList ++ a.type.logFormat) (some a.name)

def body (o : HookOptions) : Hook → List Text
  | getter p =>
    enterLog o p "Getter" ++
      [indent (p.type.display ++ ' ' :: p.name ++ " = %orig;".toList),
        accessorLog "[<- Getter]" p,
        indent ("return ".toList ++ p.name ++ [';'])]
  | setter p =>
    enterLog o p "Setter" ++
      [accessorLog "[Setter ->]" p, indent ("%orig(".toList ++ p.name ++ ");".toList)]
  | method m =>
    indent "%log;".toList :: (if o.logArguments then m.arguments.map argumentLog else []) ++
      [indent (if m.returnType.isVoid then "%orig;".toList else "return %orig;".toList)]

def block (o : HookOptions) (h : Hook) : List Text :=
  (h.signature ++ [' ', '\x7b']) :: h.body o ++ [['\x7d']]

end Hook

/-- The hooks of a section, in groups with an empty line behind each. -/
structure HookSection where
  title : Text
  groups : List (List Hook)
deriving DecidableEq, Repr

namespace HookSection

def hooks (s : HookSection) : List Hook := s.groups.flatten

def lines (o : HookOptions) (s : HookSection) : List Text :=
  if s.groups.isEmpty then []
  else
    ("/* ".toList ++ s.title ++ " */".toList) ::
      (s.groups.flatMap fun g => g.flatMap (·.block o) ++ [[]]) ++ [[]]

end HookSection

def accessorHooks (o : HookOptions) (p : Property) : List Hook :=
  (if o.getters then [.getter p] else []) ++ if o.setters then [.setter p] else []

def hookSections (o : HookOptions) (m : ClassInterface) : List HookSection :=
  [⟨"Properties".toList,
      if o.hooksProperties then m.properties.map (accessorHooks o) else []⟩,
    ⟨"Class Methods".toList, m.classMethods.map fun method => [.method method]⟩,
    ⟨"Instance Methods".toList, m.instanceMethods.map fun method => [.method method]⟩]

def frameLines (name : Text) : List Text :=
  let border := List.replicate name.length '='
  ["/*==".toList ++ border, "  ".toList ++ name ++ "  ".toList, border ++ "==*/".toList, []]

def hookLines (o : HookOptions) (m : ClassInterface) : List Text :=
  frameLines m.name ++ ["%hook ".toList ++ m.name, []] ++
    (hookSections o m).flatMap (·.lines o) ++ ["%end".toList, [], []]

def plannedHooks (o : HookOptions) (m : ClassInterface) : Nat :=
  (if o.hooksProperties then m.properties.length * o.accessorCount else 0) +
    m.classMethods.length + m.instanceMethods.length

/-- The hook text of a class and the number of its hooks, which has to be the number announced by
`plannedHooks`. -/
def writeHooks (o : HookOptions) (m : ClassInterface) : Except Fault HookText :=
  let expected := plannedHooks o m
  if expected = 0 then .ok {}
  else
    let written := ((hookSections o m).flatMap (·.hooks)).length
    if written ≠ expected then .error .hooksMissing
    else .ok ⟨Text.ofLines (hookLines o m), written⟩

end LogosHooks

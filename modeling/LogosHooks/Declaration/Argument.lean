import LogosHooks.Declaration.Segment
import LogosHooks.Text.Identifier
import LogosHooks.Text.Line

/-!
Reading arguments: a segment `keyword:(type) name` becomes an `Argument`, and a text of them a list.
-/
namespace LogosHooks

/-- Reads one segment. The keyword may be missing only from the first, since the selector stands in
its place. -/
def Argument.ofSegment (first : Bool) (segment : Text) : Except LineFault Argument := do
  let malformed : LineFault := .badArgument segment
  let some (front, behind) := Text.cutOnce? ':' segment | throw malformed
  let keyword := Text.trim front
  if keyword.isEmpty && !first then throw malformed
  unless keyword.all Text.isIdentifierChar do throw malformed
  let some (inside, name) := Text.parenthesized? (Text.trimLeft behind) | throw malformed
  let type := DeclaredType.ofText inside
  if type.name.isEmpty then throw malformed
  let name := Text.trim name
  if name.isEmpty || Text.hasBlank name then throw malformed
  return ⟨keyword, type, name⟩

def Argument.ofSegments : List Text → Except LineFault (List Argument)
  | [] => return []
  | head :: later => do
    let head ← ofSegment true head
    return head :: (← later.mapM (ofSegment false))

def readArguments (t : Text) : Except LineFault (List Argument) := do
  Argument.ofSegments (← segments t)

end LogosHooks

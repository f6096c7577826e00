import LogosHooks.Text.Blank

/-!
A type as a declaration spells it, such as `NSString *` or `unsigned int`: words and trailing stars.
Reading a spelling forgets how the words are spaced and where the stars stand, and `display` writes
the one spelling that stands for all of them.
-/
namespace LogosHooks

/-- The words of a type, joined by single spaces, and the number of its trailing stars. A type never
has more than 255 of them. -/
structure DeclaredType where
  name : Text
  stars : Fin 256
deriving DecidableEq, Repr

namespace DeclaredType

def void : DeclaredType := ⟨"void".toList, 0⟩

def addStar (stars : Fin 256) : Fin 256 :=
  if h : stars.val < 255 then ⟨stars.val + 1, by omega⟩ else stars

/-- Reads a spelling from its end: first the stars and the blanks around them, then the words. -/
def ofReversed (stars : Fin 256) : Text → DeclaredType
  | [] => ⟨[], stars⟩
  | c :: rest =>
    if c = '*' then ofReversed (addStar stars) rest
    else if Text.isBlank c then ofReversed stars rest
    else ⟨Text.unwords (Text.words (c :: rest).reverse), stars⟩

def ofText (spelling : Text) : DeclaredType := ofReversed 0 spelling.reverse

def isPointer (ty : DeclaredType) : Bool := 0 < ty.stars.val

def lastWord (ty : DeclaredType) : Text := ((ty.name.splitOn ' ').getLast?).getD []

/-- Nothing is returned. Qualified forms such as `oneway void` count, a pointer to `void` does
not. -/
def isVoid (ty : DeclaredType) : Bool := ty.lastWord == "void".toList && !ty.isPointer

def display (ty : DeclaredType) : Text :=
  ty.name ++ if ty.isPointer then ' ' :: List.replicate ty.stars.val '*' else []

theorem val_addStar (stars : Fin 256) : (addStar stars).val = min (stars.val + 1) 255 := by
  unfold addStar
  split
  · next h =>
    change stars.val + 1 = min (stars.val + 1) 255
    omega
  · omega

end DeclaredType
end LogosHooks

import LogosHooks.Pattern.Escape

/-!
Character classes in brackets, such as `[a-z_&&[^x]]`. Within brackets stand single characters,
ranges, classes with a name and further brackets, and the operations `&&`, `--` and `~~` combine
what stands on their two sides, from left to right.
-/
namespace LogosHooks.Pattern

/-- A class and how deep its brackets and operations are nested. -/
structure Nested where
  chars : CharClass
  depth : Nat
deriving Repr

def Nested.ofItems : List Nested → Nested
  | [] => ⟨.none, 0⟩
  | [item] => item
  | items => ⟨.unions (items.map (·.chars)), 1 + (items.map (·.depth)).foldl max 0⟩

inductive SetOp where
  | intersection
  | difference
  | symmetricDifference
deriving DecidableEq, Repr

def SetOp.combine : SetOp → CharClass → CharClass → CharClass
  | intersection => Unicode.Ranges.inter
  | difference => Unicode.Ranges.diff
  | symmetricDifference => Unicode.Ranges.symmDiff

def setOp? : Text → Option (SetOp × Text)
  | '&' :: '&' :: rest => some (.intersection, rest)
  | '-' :: '-' :: rest => some (.difference, rest)
  | '~' :: '~' :: rest => some (.symmetricDifference, rest)
  | _ => none

/-- Combines the items with what stands before the last operation, if there was one. The operands
have their cases added first. -/
def closeOperand (flags : Flags) (pending : Option (SetOp × Nested)) (items : List Nested) :
    Nested :=
  let right := Nested.ofItems items
  match pending with
  | none => right
  | some (op, left) =>
    ⟨op.combine (flags.finishClass false left.chars) (flags.finishClass false right.chars),
      1 + max left.depth right.depth⟩

def asciiName? (t : Text) : Option (CharClass × Text) :=
  match t.dropWhile (· != ':') with
  | ':' :: ']' :: behind => (CharClass.asciiNamed? (t.takeWhile (· != ':'))).map (·, behind)
  | _ => none

def asciiItem? (flags : Flags) : Text → Option (CharClass × Text)
  | '[' :: ':' :: '^' :: rest =>
    (asciiName? rest).map fun (a, behind) => (flags.finishClass true a, behind)
  | '[' :: ':' :: rest =>
    (asciiName? rest).map fun (a, behind) => (flags.finishClass false a, behind)
  | _ => none

def bracketAtom? (flags : Flags) : Text → Option (Atom × Text)
  | [] => none
  | '\\' :: rest => escape? flags rest
  | c :: rest => some (.literal c false, rest)

def endpoint? (flags : Flags) : Atom → Option Char
  | .literal c _ => if flags.unicode || c.toNat < 128 then some c else none
  | .chars _ | .assertion _ => none

def Flags.peek (flags : Flags) (t : Text) : Option Char :=
  if flags.verbose then
    let rest := t.dropWhile Text.isBlank
    if rest.head? = some '#' then (rest.tail.dropWhile Text.isBlank).head? else rest.head?
  else t.head?

/-- Whether the text goes on with a hyphen that makes a range. A hyphen before `]` or before another
hyphen does not. -/
def rangeFollows (flags : Flags) : Text → Bool
  | '-' :: rest => flags.peek rest != some ']' && flags.peek rest != some '-'
  | _ => false

def rangeClass? (flags : Flags) (first last : Atom) : Option CharClass := do
  let first ← endpoint? flags first
  let last ← endpoint? flags last
  guard (first ≤ last)
  return .between first last

def Atom.class? (flags : Flags) : Atom → Option CharClass
  | .literal c asByte => (endpoint? flags (.literal c asByte)).map .single
  | .chars a => some a
  | .assertion _ => none

def itemFrom? (flags : Flags) (atom : Atom) (t : Text) : Option (CharClass × Text) :=
  if rangeFollows flags t then do
    let (last, rest) ← bracketAtom? flags (flags.skip (t.drop 1))
    return (← rangeClass? flags atom last, rest)
  else (atom.class? flags).map (·, t)

def bracketItem? (flags : Flags) (t : Text) : Option (CharClass × Text) := do
  let (atom, rest) ← bracketAtom? flags t
  itemFrom? flags atom (flags.skip rest)

/-- The hyphens at the front of a class. The fuel has to reach for all of them. -/
def hyphens (flags : Flags) : Nat → List Nested → Text → List Nested × Text
  | n + 1, items, '-' :: rest => hyphens flags n (items ++ [⟨.single '-', 0⟩]) (flags.skip rest)
  | _, items, t => (items, t)

def leadingItems (flags : Flags) (t : Text) : List Nested × Text :=
  match hyphens flags t.length [] t with
  | ([], ']' :: rest) => ([⟨.single ']', 0⟩], flags.skip rest)
  | (items, rest) => (items, rest)

def openBracket (flags : Flags) (t : Text) : (Bool × List Nested) × Text :=
  let (negated, t) :=
    match flags.skip t with
    | '^' :: rest => (true, flags.skip rest)
    | t => (false, t)
  let (items, rest) := leadingItems flags t
  ((negated, items), rest)

def closeBracket? (flags : Flags) (negated : Bool) (inside : Nested) : Option Nested :=
  let a := flags.finishClass negated inside.chars
  if flags.unicode || a.isAscii then some ⟨a, 1 + inside.depth⟩ else none

/-- One thing within brackets. -/
inductive BracketPiece where
  | item (item : Nested)
  | operation (op : SetOp)
  /-- Further brackets, with the items directly behind the opening one. -/
  | opening (negated : Bool) (leading : List Nested)
  | closing
deriving Repr

def bracketPiece? (flags : Flags) : Text → Option (BracketPiece × Text)
  | [] => none
  | ']' :: rest => some (.closing, rest)
  | '[' :: rest =>
    match asciiItem? flags ('[' :: rest) with
    | some (a, rest) => if !flags.unicode && !a.isAscii then none else some (.item ⟨a, 0⟩, rest)
    | none =>
      let ((negated, leading), rest) := openBracket flags rest
      some (.opening negated leading, rest)
  | t =>
    match setOp? t with
    | some (op, rest) => some (.operation op, rest)
    | none => (bracketItem? flags t).map fun (a, rest) => (.item ⟨a, 0⟩, rest)

def bracketBody? (flags : Flags) : Nat → Option (SetOp × Nested) → List Nested → Text →
    Option (Nested × Text)
  | 0, _, _, _ => none
  | fuel + 1, pending, items, t => do
    let (piece, rest) ← bracketPiece? flags (flags.skip t)
    match piece with
    | .item item => bracketBody? flags fuel pending (items ++ [item]) rest
    | .operation op =>
      bracketBody? flags fuel (some (op, closeOperand flags pending items)) [] rest
    | .opening negated leading =>
      let (inside, rest) ← bracketBody? flags fuel none leading rest
      let item ← closeBracket? flags negated inside
      bracketBody? flags fuel pending (items ++ [item]) rest
    | .closing => return (closeOperand flags pending items, rest)

def brackets? (flags : Flags) (t : Text) : Option (Nested × Text) := do
  let ((negated, leading), inner) := openBracket flags t
  let (inside, rest) ← bracketBody? flags (t.length + 1) none leading inner
  return (← closeBracket? flags negated inside, rest)

end LogosHooks.Pattern

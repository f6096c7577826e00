import LogosHooks.Pattern.Basic

/-!
Patterns in the form in which a machine is built for them. Characters that follow each other are one
run, alternatives of one character each are a class, what all alternatives begin with stands in front
of them, and a repetition of what can only be empty is not counted. A sequence holds no sequence,
an alternative no alternatives, and in both the rest stands in the second place.
-/
namespace LogosHooks

inductive Plan where
  | empty
  /-- Characters one behind the other, at least one. -/
  | literal (t : Text)
  | chars (a : CharClass)
  | assertion (condition : Assertion)
  | seq (first rest : Plan)
  | alt (first rest : Plan)
  | repeated (least : Nat) (most : Option Nat) (reluctant : Bool) (body : Plan)
  /-- A group with a number, which keeps what it matches. -/
  | captured (number : Nat) (body : Plan)
deriving DecidableEq, Repr

namespace Plan

def byteCount (n : Nat) : Nat :=
  if n < 0x80 then 1 else if n < 0x800 then 2 else if n < 0x10000 then 3 else 4

def leastLength? : Plan → Option Nat
  | empty | assertion _ => some 0
  | literal t => some (t.map fun c => byteCount c.toNat).sum
  | chars a => a.head?.map fun (first, _) => byteCount first
  | seq first rest => do return (← first.leastLength?) + (← rest.leastLength?)
  | alt first rest => do return min (← first.leastLength?) (← rest.leastLength?)
  | repeated least _ _ body => body.leastLength?.map (least * ·)
  | captured _ body => body.leastLength?

def isAlwaysEmpty : Plan → Bool
  | empty | assertion _ => true
  | literal t => t.isEmpty
  | chars _ => false
  | seq first rest | alt first rest => first.isAlwaysEmpty && rest.isAlwaysEmpty
  | repeated _ most _ body => most.isSome && body.isAlwaysEmpty
  | captured _ body => body.isAlwaysEmpty

def beginsAtStart : Plan → Bool
  | assertion condition => condition == .textStart
  | seq first rest => first.beginsAtStart || (first.isAlwaysEmpty && rest.beginsAtStart)
  | alt first rest => first.beginsAtStart && rest.beginsAtStart
  | repeated least _ _ body => least != 0 && body.beginsAtStart
  | captured _ body => body.beginsAtStart
  | empty | literal _ | chars _ => false

def endsAtEnd : Plan → Bool
  | assertion condition => condition == .textEnd
  | seq first rest => rest.endsAtEnd || (rest.isAlwaysEmpty && first.endsAtEnd)
  | alt first rest => first.endsAtEnd && rest.endsAtEnd
  | repeated least _ _ body => least != 0 && body.endsAtEnd
  | captured _ body => body.endsAtEnd
  | empty | literal _ | chars _ => false

def ofClass (a : CharClass) : Plan :=
  match CharClass.only? a with
  | some c => literal [c]
  | none => chars a

def parts : Plan → List Plan
  | empty => []
  | seq first rest => first :: rest.parts
  | p => [p]

def putInFront : Plan → Plan → Plan
  | empty, q => q
  | literal s, literal t => literal (s ++ t)
  | literal s, seq (literal t) q => seq (literal (s ++ t)) q
  | p, empty => p
  | p, q => seq p q

def andThen (p q : Plan) : Plan := p.parts.foldr putInFront q

def ofParts (ps : List Plan) : Plan := ps.foldr andThen empty

def branches : Plan → List Plan
  | alt first rest => first :: rest.branches
  | p => [p]

def ofBranches : List Plan → Plan
  | [] => chars .none
  | [p] => p
  | p :: ps => alt p (ofBranches ps)

def singleChar? : Plan → Option CharClass
  | literal [c] => some (.single c)
  | _ => none

def class? : Plan → Option CharClass
  | chars a => some a
  | _ => none

/-- Alternatives as they stand, but those of one character each or of classes only are one class. -/
def oneOf (ps : List Plan) : Plan :=
  match ps.flatMap branches with
  | [] => ofBranches []
  | [p] => p
  | ps =>
    match ps.mapM singleChar? <|> ps.mapM class? with
    | some classes => ofClass (.unions classes)
    | none => ofBranches ps

def sequence? : Plan → Option (List Plan)
  | seq first rest => some (first :: rest.parts)
  | _ => none

def commonFront : List Plan → List Plan → List Plan
  | p :: ps, q :: qs => if p = q then p :: commonFront ps qs else []
  | _, _ => []

/-- What all alternatives begin with, if all are sequences. -/
def sharedFront (ps : List Plan) : List Plan :=
  match ps.mapM sequence? with
  | some (first :: rest) => rest.foldl commonFront first
  | _ => []

def alternatives (ps : List Plan) : Plan :=
  let found := oneOf ps
  match found with
  | alt .. =>
    let branches := found.branches
    let front := sharedFront branches
    if front.isEmpty then found
    else
      ofParts (front ++ [oneOf (branches.map fun p => ofParts (p.parts.drop front.length))])
  | _ => found

/-- What can only be empty is matched once at most. -/
def repetition (least : Nat) (most : Option Nat) (reluctant : Bool) (body : Plan) : Plan :=
  let (least, most) :=
    if body.isAlwaysEmpty then (min least 1, some (min (most.getD 1) 1)) else (least, most)
  if most = some 0 then empty
  else if least = 1 ∧ most = some 1 then body
  else repeated least most reluctant body

end Plan

namespace Pattern

def branchPlans : Pattern → List Plan
  | empty => [.empty]
  | one a => [.ofClass a]
  | assertion condition => [.assertion condition]
  | seq first second =>
    [(Plan.alternatives first.branchPlans).andThen (Plan.alternatives second.branchPlans)]
  | alt left right => left.branchPlans ++ right.branchPlans
  | repeated least most reluctant body =>
    [.repetition least most reluctant (Plan.alternatives body.branchPlans)]
  | group number body =>
    let inside := Plan.alternatives body.branchPlans
    match number with
    | some n => [.captured n inside]
    | none => [inside]

def plan (p : Pattern) : Plan := Plan.alternatives p.branchPlans

end Pattern
end LogosHooks

import LogosHooks.Pattern.Property

/-!
Patterns for names, and the search for a match. A text is read once from front to back with a list
of patterns in hand: a match is under way for each of them, and it is complete if the rest of the
text goes on with a match of that pattern. Reading a character turns each pattern into those that
are left of it, its partial derivatives.
-/
namespace LogosHooks

/-- What a place in a text is asked about the words around it. -/
inductive WordPlace where
  | boundary
  | noBoundary
  | start
  | finish
  | afterNoWord
  | beforeNoWord
deriving DecidableEq, Repr

/-- A condition on a place in a text. -/
inductive Assertion where
  | textStart
  | textEnd
  /-- With `crlf`, a carriage return is a line break too, and one break with a line feed behind
  it. -/
  | lineStart (crlf : Bool)
  | lineEnd (crlf : Bool)
  | word (unicode : Bool) (place : WordPlace)
deriving DecidableEq, Repr

inductive Pattern where
  | empty
  | one (chars : CharClass)
  | assertion (condition : Assertion)
  | seq (first second : Pattern)
  | alt (left right : Pattern)
  /-- At least `least` times, and at most `most` times if there is a bound. Whether a repetition is
  reluctant has no bearing on what texts match. -/
  | repeated (least : Nat) (most : Option Nat) (reluctant : Bool) (body : Pattern)
  /-- What stands in parentheses, with the number of the group if it has one. -/
  | group (number : Option Nat) (body : Pattern)
deriving DecidableEq, Repr

namespace Assertion

def isWordChar (unicode : Bool) (c : Char) : Bool :=
  if unicode then CharClass.wordChars.contains c else CharClass.asciiWordChars.contains c

def holdsBetween (before after : Option Char) : Assertion → Bool
  | textStart => before.isNone
  | textEnd => after.isNone
  | lineStart false => before.all (· == '\n')
  | lineStart true => before.all fun c => c == '\n' || (c == '\r' && after != some '\n')
  | lineEnd false => after.all (· == '\n')
  | lineEnd true => after.all fun c => c == '\r' || (c == '\n' && before != some '\r')
  | word unicode place =>
    let left := before.any (isWordChar unicode)
    let right := after.any (isWordChar unicode)
    match place with
    | .boundary => left != right
    | .noBoundary => left == right
    | .start => !left && right
    | .finish => left && !right
    | .afterNoWord => !left
    | .beforeNoWord => !right

end Assertion

namespace Pattern

def matchesBetween (before after : Option Char) : Pattern → Bool
  | empty => true
  | one _ => false
  | assertion condition => condition.holdsBetween before after
  | seq first second => first.matchesBetween before after && second.matchesBetween before after
  | alt left right => left.matchesBetween before after || right.matchesBetween before after
  | repeated least _ _ body => least == 0 || body.matchesBetween before after
  | group _ body => body.matchesBetween before after

def andThen : Pattern → Pattern → Pattern
  | empty, second => second
  | first, second => seq first second

/-- What is left of the pattern once `c` is read behind `before`. In a repetition, rounds in which
nothing is read can make up for those that are required. -/
def derivatives (before : Option Char) (c : Char) : Pattern → List Pattern
  | empty => []
  | one chars => if chars.contains c then [empty] else []
  | assertion _ => []
  | seq first second =>
    (first.derivatives before c).map (·.andThen second) ++
      if first.matchesBetween before (some c) then second.derivatives before c else []
  | alt left right => left.derivatives before c ++ right.derivatives before c
  | repeated least most reluctant body =>
    if most == some 0 then []
    else
      let required := if body.matchesBetween before (some c) then 0 else least - 1
      (body.derivatives before c).map
        (·.andThen (repeated required (most.map (· - 1)) reluctant body))
  | group _ body => body.derivatives before c

/-- A match is complete at this place or further on. At each place, matches of the patterns `fresh`
can begin besides those under way. -/
def search (fresh : List Pattern) (before : Option Char) (underWay : List Pattern) : Text → Bool
  | [] => underWay.any (·.matchesBetween before none)
  | c :: rest =>
    underWay.any (·.matchesBetween before (some c)) ||
      search fresh (some c) ((underWay.flatMap (·.derivatives before c) ++ fresh).eraseDups) rest

def matchesSomewhere (p : Pattern) (t : Text) : Bool := search [p] none [p] t

def matchesFront (p : Pattern) (t : Text) : Bool := search [] none [p] t

end Pattern
end LogosHooks

import LogosHooks.Pattern.ByteRange
import LogosHooks.Pattern.Plan
import Std.Data.HashMap

/-!
How large a machine is that searches a text for a pattern. Two machines are built, one that reads
forward and one that reads backward, and a pattern is refused if one of them takes more than 10 MiB.
A machine reads bytes. Each state takes 32 bytes, a state with several transitions another 8 for each,
and a state where ways part another 4 for each way.
-/
namespace LogosHooks

/-- A machine under construction. -/
structure Machine where
  states : Nat := 0
  /-- The bytes for transitions and ways. -/
  extra : Nat := 0
deriving DecidableEq, Repr

inductive Direction where
  | forward
  | backward
deriving DecidableEq, Repr

namespace Machine

def maxBytes : Nat := 10 * 1024 * 1024

def bytes (m : Machine) : Nat := 32 * m.states + m.extra

def add? (m : Machine) (states extra : Nat) : Option Machine :=
  let m : Machine := ⟨m.states + states, m.extra + extra⟩
  if m.bytes ≤ maxBytes then some m else none

def times? (n : Nat) (grow? : Machine → Option Machine) (m : Machine) : Option Machine :=
  match n with
  | 0 => some m
  | n + 1 =>
    match grow? m with
    | some m => times? n grow? m
    | none => none

/-- States of a class that were built already. Each has a place by its transitions, and a later state
with the same place takes it over. -/
structure Known where
  machine : Machine
  memory : Std.HashMap UInt64 (List Nat × Nat) := {}

/-- The place of a state among so many, by a hash of its transitions (FNV-1a). -/
def place (places : UInt64) (transitions : List Nat) : UInt64 :=
  transitions.foldl (fun h n => (h ^^^ n.toUInt64) * 1099511628211) 14695981039346656037 % places

def Known.state (known : Known) (places : UInt64) (transitions : List Nat) (extra : Nat) :
    Nat × Known :=
  let here := place places transitions
  let number := known.machine.states
  let built : Nat × Known :=
    (number, ⟨⟨number + 1, known.machine.extra + extra⟩,
      known.memory.insert here (transitions, number)⟩)
  match known.memory[here]? with
  | some (transitions', number') => if transitions' = transitions then (number', known) else built
  | none => built

def byFirst : List (List ByteRange) → List (ByteRange × List (List ByteRange))
  | [] => []
  | [] :: forms => byFirst forms
  | (b :: rest) :: forms =>
    match byFirst forms with
    | (b', rests) :: groups =>
      if b = b' then (b, rest :: rests) :: groups else (b, [rest]) :: (b', rests) :: groups
    | [] => [(b, [rest])]

def formsState (target : Nat) : Nat → List (List ByteRange) → Known → Nat × Known
  | 0, _, known => (target, known)
  | depth + 1, forms, known =>
    if forms.all List.isEmpty then (target, known)
    else
      let groups := byFirst forms
      let (transitions, known) :=
        groups.foldl (fun (transitions, known) (b, rests) =>
          let (next, known) := formsState target depth rests known
          (transitions ++ [b.first, b.last, next], known)) ([], known)
      known.state 10000 transitions (8 * groups.length)

def backwardForm (target : Nat) (form : List ByteRange) (known : Known) : Known :=
  (form.foldl (fun (next, known) b => known.state 1000 [next, b.first, b.last] 0)
    (target, known)).2

/-- Adds the states of a class. Characters of ASCII need one state and another to go on from.
Forward, states from which the same transitions lead on are shared; backward, those that lead on to
the same state. -/
def addClass? (direction : Direction) (a : CharClass) (m : Machine) : Option Machine :=
  if CharClass.isAscii a then m.add? 2 (8 * a.length)
  else
    let forms := ByteRange.forms a
    let m :=
      match direction with
      | .forward => (formsState m.states 4 forms ⟨⟨m.states + 1, m.extra⟩, {}⟩).2.machine
      | .backward =>
        (forms.foldl (fun known form => backwardForm (m.states + 1) form known)
          ⟨⟨m.states + 2, m.extra + 4 * forms.length⟩, {}⟩).machine
    m.add? 0 0

/-- The branches of a tree of words. Words go their ways by their first bytes; a word that ends here
has those that came before it tried first, so those behind it begin a new round. -/
def rounds (words : List (List Nat)) : List (List (Nat × List (List Nat))) :=
  let put (b : Nat) (rest : List Nat) (round : List (Nat × List (List Nat))) :=
    if round.any (·.1 == b) then
      round.map fun (b', rests) => if b' = b then (b', rests ++ [rest]) else (b', rests)
    else round ++ [(b, [rest])]
  let step (done : List (List (Nat × List (List Nat)))) (word : List Nat) :=
    match word, done with
    | [], [[]] => [[], []]
    | [], round :: earlier =>
      if round.isEmpty && earlier.all List.isEmpty then done else [] :: round :: earlier
    | b :: rest, round :: earlier => put b rest round :: earlier
    | _, [] => done
  (words.foldl step [[]]).reverse

/-- Adds the states of a tree of words of at most `depth` bytes. In each round there is a state for
the ways that words go, and one more state where the rounds part. -/
def addTree? : Nat → List (List Nat) → Machine → Option Machine
  | 0, _, m => some m
  | depth + 1, words, m => do
    let rounds := rounds words
    let m ← rounds.foldlM (fun m round =>
      if round.isEmpty then some m
      else do
        let m ← round.foldlM (fun m (_, rests) =>
          if rests.all List.isEmpty then some m else addTree? depth rests m) m
        m.add? 1 (if round.length = 1 then 0 else 8 * round.length)) m
    m.add? 1 (4 * (rounds.countP (!·.isEmpty) + (rounds.length - 1)))

def addWords? (direction : Direction) (words : List Text) (m : Machine) : Option Machine := do
  let bytes (t : Text) : List Nat := (Utf8.encode t).map UInt8.toNat
  let words := words.map bytes
  let words :=
    match direction with
    | .forward => words
    | .backward => words.map List.reverse
  addTree? ((words.map List.length).foldl max 0) words (← m.add? 1 0)

end Machine

namespace Plan

def literal? : Plan → Option Text
  | literal t => some t
  | _ => none

/-- Where a branch stands among alternatives. -/
inductive Branch where
  | none
  | second
  | later
deriving DecidableEq, Repr

/-- Behind the second of several alternatives there are a state where their ways part and one where
they meet. -/
def Branch.close? (branch : Branch) (m : Machine) : Option Machine :=
  match branch with
  | .none => some m
  | .second => m.add? 2 8
  | .later => m.add? 0 4

def addTo? (direction : Direction) : Plan → Branch → Machine → Option Machine
  | empty, branch, m => (m.add? 1 0).bind branch.close?
  | literal t, branch, m => (m.add? (t.map fun c => byteCount c.toNat).sum 0).bind branch.close?
  | chars a, branch, m => (Machine.addClass? direction a m).bind branch.close?
  | assertion _, branch, m => (m.add? 1 0).bind branch.close?
  | seq first rest, branch, m =>
    match direction with
    | .forward => do branch.close? (← rest.addTo? .forward .none (← first.addTo? .forward .none m))
    | .backward =>
      do branch.close? (← first.addTo? .backward .none (← rest.addTo? .backward .none m))
  | alt first rest, .none, m =>
    match (alt first rest).branches.mapM literal? with
    | some words => Machine.addWords? direction words m
    | none => do rest.addTo? direction .second (← first.addTo? direction .none m)
  | alt first rest, branch, m => do
    rest.addTo? direction .later (← branch.close? (← first.addTo? direction .none m))
  | repeated least most _ body, branch, m => do
    let grow? (m : Machine) : Option Machine := body.addTo? direction .none m
    let optional? (m : Machine) : Option Machine := do grow? (← m.add? 1 8)
    let m ←
      match least, most with
      | 0, none => do
        if body.leastLength?.any (0 < ·) then optional? m else (← grow? m).add? 3 16
      | least, none => do (← m.times? least grow?).add? 1 8
      | 0, some 1 => do (← optional? m).add? 1 0
      | least, some most => do
        let m ← if least = 0 then m.add? 1 0 else m.times? least grow?
        if least = most then some m else (← m.add? 1 0).times? (most - least) optional?
    branch.close? m
  | captured _ body, branch, m =>
    match direction with
    | .forward => do branch.close? (← (← body.addTo? .forward .none (← m.add? 1 0)).add? 1 0)
    | .backward => do branch.close? (← body.addTo? .backward .none m)

/-- The machine for a plan. A search that may begin anywhere takes three states to skip what is in
front of a match. -/
def machine? (direction : Direction) (p : Plan) : Option Machine := do
  let anchored :=
    match direction with
    | .forward => p.beginsAtStart
    | .backward => p.endsAtEnd
  let m ← if anchored then Machine.add? {} 1 0 else Machine.add? {} 3 16
  match direction with
  | .forward => (← p.addTo? direction .none (← m.add? 1 0)).add? 2 0
  | .backward => (← p.addTo? direction .none m).add? 1 0

def fits (p : Plan) : Bool := (p.machine? .forward).isSome && (p.machine? .backward).isSome

end Plan
end LogosHooks

import LogosHooks.Pattern.Brackets
import LogosHooks.Pattern.MachineSize
import LogosHooks.Text.Identifier

/-!
Reading patterns. The text is read once from front to back, one construct at a time. What a construct
says depends on the text and the flags in force, and is then taken into the state, which holds the
sequence under way, the alternatives before it, and the same for each group that is open around it.
-/
namespace LogosHooks.Pattern

/-- A part of a sequence, and how deep it is nested. A directive such as `(?i)` matches nothing and
cannot be repeated. -/
structure Part where
  pattern : Pattern
  depth : Nat := 0
  isDirective : Bool := false
deriving Repr

def Part.ofSequence : List Part → Part
  | [] => ⟨.empty, 0, false⟩
  | [part] => part
  | parts =>
    ⟨parts.foldr (fun part rest => .seq part.pattern rest) .empty,
      1 + (parts.map (·.depth)).foldl max 0, false⟩

def Part.ofBranches : List Part → Part
  | [] => ⟨.empty, 0, false⟩
  | [part] => part
  | first :: rest =>
    ⟨rest.foldl (fun left part => .alt left part.pattern) first.pattern,
      1 + ((first :: rest).map (·.depth)).foldl max 0, false⟩

/-- What is under way in one group: the alternatives that are complete, and the parts of the next,
both with the last one first. -/
structure Level where
  branches : List Part := []
  parts : List Part := []
deriving Repr

namespace Level

def push (level : Level) (part : Part) : Level := { level with parts := part :: level.parts }

def bar (level : Level) : Level := ⟨Part.ofSequence level.parts.reverse :: level.branches, []⟩

def close (level : Level) : Part := Part.ofBranches level.bar.branches.reverse

end Level

/-- A group that is not closed yet. -/
structure OpenGroup where
  /-- The flags in force in front of the group. -/
  flags : Flags
  /-- What is under way around the group. -/
  level : Level
  number : Option Nat
deriving Repr

structure ReadState where
  flags : Flags := {}
  level : Level := {}
  /-- The groups around this place, the innermost first. -/
  outer : List OpenGroup := []
  groupNames : List Text := []
  /-- How many groups have a number so far. -/
  numbered : Nat := 0
deriving Repr

namespace ReadState

def push (state : ReadState) (part : Part) : ReadState :=
  { state with level := state.level.push part }

def repeatLast? (state : ReadState) (least : Nat) (most : Option Nat) (marked : Bool) :
    Option ReadState :=
  match state.level.parts with
  | part :: before =>
    if part.isDirective then none
    else
      let reluctant := state.flags.reluctant != marked
      let repeated : Part := ⟨.repeated least most reluctant part.pattern, 1 + part.depth, false⟩
      some { state with level := { state.level with parts := repeated :: before } }
  | [] => none

def openGroup (state : ReadState) (inside : Flags) (number : Option Nat) : ReadState :=
  { state with
    flags := inside, level := {}, outer := ⟨state.flags, state.level, number⟩ :: state.outer }

def openNumbered (state : ReadState) : ReadState :=
  let number := state.numbered + 1
  { state.openGroup state.flags (some number) with numbered := number }

/-- Closes the innermost group. The flags from before it are in force again. -/
def closeGroup? (state : ReadState) : Option ReadState :=
  match state.outer with
  | [] => none
  | ⟨flags, level, number⟩ :: outer =>
    let inside := state.level.close
    let group : Part := ⟨.group number inside.pattern, 1 + inside.depth, false⟩
    some { state with flags := flags, level := level.push group, outer := outer }

end ReadState

/-- What one construct of a pattern text says. -/
inductive Construct where
  | part (part : Part)
  /-- The flags from here to the end of the group. -/
  | flags (inside : Flags)
  /-- With `marked` a question mark stands behind the repetition. -/
  | repetition (least : Nat) (most : Option Nat) (marked : Bool)
  | bar
  /-- A group without a number, and the flags in force in it. -/
  | openGroup (inside : Flags)
  /-- A group that gets the next number, and its name if it has one. -/
  | openNumbered (name : Option Text)
  | closeGroup
deriving Repr

/-- Takes a construct in. No two groups have one name. -/
def ReadState.take? (state : ReadState) : Construct → Option ReadState
  | .part part => some (state.push part)
  | .flags inside => some { state.push ⟨.empty, 0, true⟩ with flags := inside }
  | .repetition least most marked => state.repeatLast? least most marked
  | .bar => some { state with level := state.level.bar }
  | .openGroup inside => some (state.openGroup inside none)
  | .openNumbered none => some state.openNumbered
  | .openNumbered (some name) =>
    if state.groupNames.contains name then none
    else some { state.openNumbered with groupNames := name :: state.groupNames }
  | .closeGroup => state.closeGroup?

def questionMark : Text → Bool × Text
  | '?' :: rest => (true, rest)
  | t => (false, t)

def maxCount : Nat := 4294967295

def count? (digits : Text) : Option Nat :=
  let value := digits.foldl (fun n c => 10 * n + (c.toNat - '0'.toNat)) 0
  if digits.isEmpty || maxCount < value then none else some value

/-- A count with blanks around it, or nothing in place of a number that is none. -/
def decimal? (flags : Flags) (t : Text) : Option Nat × Text :=
  let (digits, rest) := digitRun flags.verbose false (t.dropWhile Text.isBlank)
  (count? digits, rest.dropWhile Text.isBlank)

def closing? {α : Type} (flags : Flags) (a : α) : Text → Option (α × Text)
  | '\x7d' :: rest => some (a, flags.skip rest)
  | _ => none

def mostCount? (flags : Flags) (least : Nat) (t : Text) : Option (Option Nat × Text) :=
  match flags.skip t with
  | '\x7d' :: rest => some (none, flags.skip rest)
  | t => do
    let (most?, rest) := decimal? flags t
    let most ← most?
    if least ≤ most then closing? flags (some most) rest else none

def counts? (flags : Flags) (t : Text) : Option ((Nat × Option Nat) × Text) := do
  let (least?, rest) := decimal? flags (flags.skip t)
  let least ← least?
  match rest with
  | ',' :: rest => (mostCount? flags least rest).map fun (most, rest) => ((least, most), rest)
  | rest => closing? flags (least, some least) rest

def isGroupName : Text → Bool
  | [] => false
  | c :: rest =>
    (c == '_' || Text.isLetter c) &&
      rest.all fun c => "_.[]".toList.contains c || Text.isAlphanumeric c

def groupName? (t : Text) : Option (Construct × Text) :=
  match t.dropWhile (· != '>') with
  | [] => none
  | _ :: behind =>
    let name := t.takeWhile (· != '>')
    if isGroupName name then some (.openNumbered (some name), behind) else none

/-- Flags up to `:`, for a group that is opened, or up to `)`, for the rest of the group around
them. -/
def groupFlags? (flags : Flags) (t : Text) : Option (Construct × Text) :=
  let spec := t.takeWhile fun c => c != ':' && c != ')'
  if !Flags.isValidSpec spec then none
  else
    match t.dropWhile fun c => c != ':' && c != ')' with
    | ':' :: behind => some (.openGroup (flags.apply spec), behind)
    | ')' :: behind => if spec.isEmpty then none else some (.flags (flags.apply spec), behind)
    | _ => none

/-- What stands behind `(?`. Groups that look ahead or behind are not part of the language: `=` and
`!` are no flags, and no name begins with them. -/
def specialGroup? (flags : Flags) : Text → Option (Construct × Text)
  | '<' :: rest | 'P' :: '<' :: rest => groupName? rest
  | t => groupFlags? flags t

def group? (flags : Flags) (t : Text) : Option (Construct × Text) :=
  match flags.skip t with
  | '?' :: rest => specialGroup? flags rest
  | t => some (.openNumbered none, t)

def Flags.atomPart? (flags : Flags) : Atom → Option Part
  | .literal c asByte => (flags.literalClass? c asByte).map fun a => ⟨.one a, 0, false⟩
  | .chars a => some ⟨.one a, 0, false⟩
  | .assertion condition => some ⟨.assertion condition, 0, false⟩

def Flags.undotted (flags : Flags) : CharClass :=
  if flags.dotAll then .none
  else if flags.crlf then .unions [.single '\r', .single '\n']
  else .single '\n'

def Flags.charPart? (flags : Flags) (c : Char) : Option Part :=
  match c with
  | '.' => if flags.unicode then flags.atomPart? (.chars flags.undotted.compl) else none
  | '^' => flags.atomPart?
    (.assertion (if flags.multiLine then .lineStart flags.crlf else .textStart))
  | '$' => flags.atomPart?
    (.assertion (if flags.multiLine then .lineEnd flags.crlf else .textEnd))
  | _ => flags.atomPart? (.literal c false)

def repetition (least : Nat) (most : Option Nat) (t : Text) : Construct × Text :=
  let (marked, rest) := questionMark t
  (.repetition least most marked, rest)

def construct? (flags : Flags) (c : Char) (rest : Text) : Option (Construct × Text) :=
  match c with
  | '(' => group? flags rest
  | ')' => some (.closeGroup, rest)
  | '|' => some (.bar, rest)
  | '[' =>
    (brackets? flags rest).map fun (found, rest) =>
      (.part ⟨.one found.chars, found.depth, false⟩, rest)
  | '?' => some (repetition 0 (some 1) rest)
  | '*' => some (repetition 0 none rest)
  | '+' => some (repetition 1 none rest)
  | '\x7b' => do
    let ((least, most), rest) ← counts? flags rest
    return repetition least most rest
  | '\\' => do
    let (atom, rest) ← escape? flags rest
    (flags.atomPart? atom).map fun part => (.part part, rest)
  | _ => (flags.charPart? c).map fun part => (.part part, rest)

def ReadState.step? (state : ReadState) (c : Char) (rest : Text) : Option (ReadState × Text) := do
  let (construct, rest) ← construct? state.flags c rest
  return (← state.take? construct, rest)

/-- Reads to the end of the text. The fuel has to exceed the number of characters left. -/
def ReadState.run? : Nat → ReadState → Text → Option ReadState
  | 0, _, _ => none
  | fuel + 1, state, t =>
    match state.flags.skip t with
    | [] => some state
    | c :: rest => do
      let (state, rest) ← state.step? c rest
      state.run? fuel rest

def maxDepth : Nat := 250

def spelled? (t : Text) : Option Part := do
  let state ← ReadState.run? (t.length + 1) {} t
  guard state.outer.isEmpty
  return state.level.close

def parse? (t : Text) : Option Pattern := do
  let whole ← spelled? t
  guard (whole.depth ≤ maxDepth && whole.pattern.plan.fits)
  return whole.pattern

end LogosHooks.Pattern

import LogosHooks.ClassInterface.Method
import LogosHooks.Fault
import LogosHooks.Text.Paren

/-!
The arguments of a method are cut into segments, one for each `keyword:(type) name`. The words of
the text are read one by one. A word begins a segment, or it continues the one under way: as the
type behind a keyword, as a part of a type with parentheses still open, or as the name behind a
type. Only the end of the text can be at fault, because the last segment may lack something.
-/
namespace LogosHooks

/-- What the segment under way is waiting for. -/
inductive SegmentStage where
  /-- No segment is under way. -/
  | idle
  /-- The segment is a word that ends in a colon, and lacks its type. -/
  | keyword (segment : Text)
  /-- Some parentheses of the segment are open. -/
  | unclosed (segment : Text)
  /-- The segment ends in a parenthesis, so a name may follow. -/
  | typed (segment : Text)
deriving DecidableEq, Repr

namespace SegmentStage

def endsIn (mark : Char) (t : Text) : Bool := t.getLast? == some mark

/-- A segment that has its type, or as much of it as was read: either it is complete, or it is
under way still. -/
def settle (segment : Text) : List Text × SegmentStage :=
  if segment.leavesOpen then ([], .unclosed segment)
  else if endsIn ')' segment then ([], .typed segment)
  else ([segment], .idle)

def start (word : Text) : List Text × SegmentStage :=
  if endsIn ':' word then ([], .keyword word) else settle word

def extend (segment word : Text) : Text := segment ++ ' ' :: word

/-- The segments that a word completes, and what is under way behind it. A word with a colon in it
is no name, so it begins the next segment. -/
def next : SegmentStage → Text → List Text × SegmentStage
  | idle, word => start word
  | keyword segment, word | .unclosed segment, word => settle (extend segment word)
  | typed segment, word =>
    if word.contains ':' then
      let (complete, stage) := start word
      (segment :: complete, stage)
    else ([extend segment word], idle)

def finish : SegmentStage → Except LineFault (List Text)
  | idle => .ok []
  | keyword segment => .error (.badArgument segment)
  | .unclosed _ => .error .openParenthesis
  | typed segment => .ok [segment]

def run (stage : SegmentStage) : List Text → Except LineFault (List Text)
  | [] => stage.finish
  | word :: rest => ((stage.next word).2.run rest).map ((stage.next word).1 ++ ·)

end SegmentStage

def segments (t : Text) : Except LineFault (List Text) := SegmentStage.idle.run t.words

end LogosHooks

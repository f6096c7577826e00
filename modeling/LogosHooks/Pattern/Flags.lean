import LogosHooks.Text.Blank

/-!
The switches that a pattern sets for parts of itself, as in `(?i)` and `(?s-i:a)`.
-/
namespace LogosHooks.Pattern

structure Flags where
  /-- Flag `i`: upper and lower case match each other. -/
  anyCase : Bool := false
  /-- Flag `m`: `^` and `$` match at line breaks. -/
  multiLine : Bool := false
  /-- Flag `s`: a dot matches line breaks. -/
  dotAll : Bool := false
  /-- Flag `u`: characters are those of Unicode, and not bytes. -/
  unicode : Bool := true
  /-- Flag `R`: a carriage return is a line break. -/
  crlf : Bool := false
  /-- Flag `U`: repetitions are reluctant unless a question mark stands behind them. -/
  reluctant : Bool := false
  /-- Flag `x`: blanks and comments in the pattern mean nothing. -/
  verbose : Bool := false
deriving DecidableEq, Repr

namespace Flags

def set (flags : Flags) (on : Bool) : Char → Flags
  | 'i' => { flags with anyCase := on }
  | 'm' => { flags with multiLine := on }
  | 's' => { flags with dotAll := on }
  | 'u' => { flags with unicode := on }
  | 'R' => { flags with crlf := on }
  | 'U' => { flags with reluctant := on }
  | 'x' => { flags with verbose := on }
  | _ => flags

/-- Each flag at most once and at most one minus sign, which is not the last. -/
def isValidSpec (spec : Text) : Bool :=
  spec.all "imsUuRx-".toList.contains && spec.eraseDups == spec && spec.getLast? != some '-'

def apply (flags : Flags) (spec : Text) : Flags :=
  let on := (spec.takeWhile (· != '-')).foldl (fun f c => f.set true c) flags
  (spec.dropWhile (· != '-')).foldl (fun f c => f.set false c) on

end Flags

/-- Blanks and comments at the front of a pattern text. A comment runs from `#` to the end of its
line. -/
def dropIgnored (inComment : Bool) : Text → Text
  | [] => []
  | c :: rest =>
    if inComment then dropIgnored (c != '\n') rest
    else if Text.isBlank c then dropIgnored false rest
    else if c = '#' then dropIgnored true rest
    else c :: rest

def Flags.skip (flags : Flags) (t : Text) : Text := if flags.verbose then dropIgnored false t else t

def upTo? (verbose inComment : Bool) (mark : Char) : Text → Option (Text × Text)
  | [] => none
  | c :: rest =>
    if inComment then upTo? verbose (c != '\n') mark rest
    else if c = mark then some ([], rest)
    else if verbose && Text.isBlank c then upTo? verbose false mark rest
    else if verbose && c = '#' then upTo? verbose true mark rest
    else (upTo? verbose false mark rest).map fun (front, behind) => (c :: front, behind)

def digitRun (verbose inComment : Bool) : Text → Text × Text
  | [] => ([], [])
  | c :: rest =>
    if inComment then digitRun verbose (c != '\n') rest
    else if c.isDigit then
      let (digits, behind) := digitRun verbose false rest
      (c :: digits, behind)
    else if verbose && Text.isBlank c then digitRun verbose false rest
    else if verbose && c = '#' then digitRun verbose true rest
    else ([], c :: rest)

end LogosHooks.Pattern

import LogosHooks.Text.Blank

/-!
Sets of code points as lists of ranges, written as a text in hexadecimal such as `41-5A 5F`. The
ranges of a set come in rising order and no two of them touch, so a set has one list only. There are
no characters from U+D800 to U+DFFF; the ranges on the two sides of that gap are not joined.
-/
namespace LogosHooks.Unicode

/-- Inclusive ranges of code points. -/
abbrev Ranges := List (Nat × Nat)

def hexDigitValue (c : Char) : Nat :=
  if c.isDigit then c.toNat - '0'.toNat
  else if 'a' ≤ c then c.toNat - 'a'.toNat + 10
  else c.toNat - 'A'.toNat + 10

def hexValue (digits : Text) : Nat := digits.foldl (fun n c => 16 * n + hexDigitValue c) 0

def lastCodePoint : Nat := 0x10FFFF

def after (n : Nat) : Nat := if n = 0xD7FF then 0xE000 else n + 1

def before (n : Nat) : Nat := if n = 0xE000 then 0xD7FF else n - 1

namespace Ranges

def ofHex (s : String) : Ranges :=
  (s.toList.splitOn ' ').map fun piece =>
    match piece.splitOn '-' with
    | [first, last] => (hexValue first, hexValue last)
    | _ => (hexValue piece, hexValue piece)

def has (r : Ranges) (n : Nat) : Bool := r.any fun (first, last) => first ≤ n && n ≤ last

def contains (r : Ranges) (c : Char) : Bool := r.has c.toNat

def mergeOne (p : Nat × Nat) (merge : Ranges → Ranges) : Ranges → Ranges
  | [] => p :: merge []
  | q :: s => if p.1 ≤ q.1 then p :: merge (q :: s) else q :: mergeOne p merge s

def merge : Ranges → Ranges → Ranges
  | [], s => s
  | p :: r, s => mergeOne p (merge r) s

/-- Joins ranges that touch or overlap. They come in the order of their first code points, behind a
range that is under way. -/
def joinFrom (first last : Nat) : Ranges → Ranges
  | [] => [(first, last)]
  | (next, end') :: rest =>
    if next ≤ last + 1 then joinFrom first (max last end') rest
    else (first, last) :: joinFrom next end' rest

def join : Ranges → Ranges
  | [] => []
  | (first, last) :: rest => joinFrom first last rest

def union (r s : Ranges) : Ranges := join (merge r s)

def ofPoints (ns : List Nat) : Ranges := join (ns.map fun n => (n, n))

def inter (r s : Ranges) : Ranges :=
  r.flatMap fun (first, last) => s.filterMap fun (first', last') =>
    if max first first' ≤ min last last' then some (max first first', min last last') else none

def cut (first last : Nat) : Ranges → Ranges
  | [] => [(first, last)]
  | (low, high) :: rest =>
    if high < first then cut first last rest
    else if last < low then [(first, last)]
    else
      (if first < low then [(first, before low)] else []) ++
        if high < last then cut (after high) last rest else []

def diff (r s : Ranges) : Ranges := r.flatMap fun (first, last) => cut first last s

def symmDiff (r s : Ranges) : Ranges := (r.union s).diff (r.inter s)

/-- What lies between ranges, and behind the last of them. The complement is taken range by range:
where two ranges end and begin at the gap in the code points, what lies between them are the two
characters at the gap. -/
def gapsFrom (last : Nat) : Ranges → Ranges
  | [] => if last < lastCodePoint then [(after last, lastCodePoint)] else []
  | (low, high) :: rest =>
    (min (after last) (before low), max (after last) (before low)) :: gapsFrom high rest

def compl : Ranges → Ranges
  | [] => [(0, lastCodePoint)]
  | (low, high) :: rest => (if 0 < low then [(0, before low)] else []) ++ gapsFrom high rest

end Ranges
end LogosHooks.Unicode

import LogosHooks.Text.Utf8

/-!
The edit distance of two texts: how many bytes have to be inserted, deleted or replaced to make one
of the other. It is computed row by row. The row for the first bytes of one text holds their
distances to all beginnings of the other text, from the shortest on.
-/
namespace LogosHooks.EditDistance

/-- The rest of the row for one byte more, `left` being the last entry so far and `diagonal` the
entry above it. -/
def continueRow (byte : UInt8) (left diagonal : Nat) : Bytes → List Nat → List Nat
  | b :: bs, above :: rest =>
    let entry := min (min (above + 1) (left + 1)) (diagonal + if byte = b then 0 else 1)
    entry :: continueRow byte entry above bs rest
  | _, _ => []

def nextRow (target : Bytes) (row : List Nat) (byte : UInt8) : List Nat :=
  match row with
  | [] => []
  | first :: rest => (first + 1) :: continueRow byte (first + 1) first target rest

def firstRow (target : Bytes) : List Nat := List.range (target.length + 1)

def distance (source target : Bytes) : Nat :=
  ((source.foldl (nextRow target) (firstRow target)).getLast?).getD 0

end LogosHooks.EditDistance

namespace LogosHooks

def editDistance (s t : Text) : Nat := EditDistance.distance (Utf8.encode s) (Utf8.encode t)

end LogosHooks

import LogosHooks.Text.Utf8
import LogosHooks.Unicode.Ranges

/-!
Ranges of characters as bytes. The UTF-8 forms of a range are cut into pieces such that in each piece
every byte runs through a range of its own.
-/
namespace LogosHooks

structure ByteRange where
  first : Nat
  last : Nat
deriving DecidableEq, Repr

namespace ByteRange

def lengthBounds : List Nat := [0x7F, 0x7FF, 0xFFFF]

def blockSizes : List Nat := [0x40, 0x1000, 0x40000]

/-- The last code point of the first piece of a range that takes more than one: a piece keeps to one
number of bytes, and if it reaches over several blocks it fills them. -/
def cutPoint? (first last : Nat) : Option Nat :=
  match lengthBounds.find? fun bound => first ≤ bound && bound < last with
  | some bound => some bound
  | none =>
    if last < 0x80 then none
    else
      blockSizes.findSome? fun size =>
        if first / size = last / size then none
        else if first % size ≠ 0 then some (first / size * size + (size - 1))
        else if last % size ≠ size - 1 then some (last / size * size - 1)
        else none

def pieces (first last : Nat) : List (Nat × Nat) :=
  match cutPoint? first last with
  | none => [(first, last)]
  | some middle =>
    if _h : first ≤ middle ∧ middle < last then pieces first middle ++ pieces (middle + 1) last
    else [(first, last)]
termination_by last - first

def ofPiece (piece : Nat × Nat) : List ByteRange :=
  let bytes (n : Nat) : List Nat := (String.utf8EncodeChar (Char.ofNat n)).map UInt8.toNat
  (bytes piece.1).zipWith ByteRange.mk (bytes piece.2)

def forms (r : Unicode.Ranges) : List (List ByteRange) :=
  let sides := r.flatMap fun (first, last) =>
    if first ≤ 0xD7FF ∧ 0xE000 ≤ last then [(first, 0xD7FF), (0xE000, last)] else [(first, last)]
  (sides.flatMap fun (first, last) => pieces first last).map ofPiece

end ByteRange
end LogosHooks

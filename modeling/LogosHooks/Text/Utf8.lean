import LogosHooks.Text.Blank

/-!
Text as bytes. Reading bytes cuts them into characters and maximal invalid pieces: a piece is as
long as a character could still have begun with it. A lossy reading puts U+FFFD in the place of each
piece, a strict one refuses the whole.
-/
namespace LogosHooks

abbrev Bytes := List UInt8

namespace Utf8

def encode (t : Text) : Bytes := t.flatMap String.utf8EncodeChar

def secondRange (first : Nat) : Nat × Nat :=
  if first = 0xE0 then (0xA0, 0xBF)
  else if first = 0xED then (0x80, 0x9F)
  else if first = 0xF0 then (0x90, 0xBF)
  else if first = 0xF4 then (0x80, 0x8F)
  else (0x80, 0xBF)

/-- The number of bytes behind the first byte of a character, and the bits that it contributes. -/
def lead? (first : Nat) : Option (Nat × Nat) :=
  if 0xC2 ≤ first ∧ first ≤ 0xDF then some (1, first - 0xC0)
  else if 0xE0 ≤ first ∧ first ≤ 0xEF then some (2, first - 0xE0)
  else if 0xF0 ≤ first ∧ first ≤ 0xF4 then some (3, first - 0xF0)
  else none

/-- What reading a byte leads to: pieces that are complete, and what is under way. -/
inductive Progress where
  | idle
  /-- Another `missing` bytes complete the character, the next of them from `low` to `high`. -/
  | inside (missing : Nat) (value : Nat) (low high : Nat)
deriving DecidableEq, Repr

def start (b : Nat) : List (Option Char) × Progress :=
  if b < 0x80 then ([some (Char.ofNat b)], .idle)
  else
    match lead? b with
    | some (missing, value) => ([], .inside missing value (secondRange b).1 (secondRange b).2)
    | none => ([none], .idle)

def next : Progress → Nat → List (Option Char) × Progress
  | .idle, b => start b
  | .inside missing value low high, b =>
    if low ≤ b ∧ b ≤ high then
      let value := value * 64 + (b - 0x80)
      if missing ≤ 1 then ([some (Char.ofNat value)], .idle)
      else ([], .inside (missing - 1) value 0x80 0xBF)
    else
      let (pieces, progress) := start b
      (none :: pieces, progress)

/-- The characters of the bytes, and `none` for each invalid piece. -/
def scan (progress : Progress) : Bytes → List (Option Char)
  | [] => if progress = .idle then [] else [none]
  | b :: rest => (next progress b.toNat).1 ++ scan (next progress b.toNat).2 rest

def decodeLossy (bytes : Bytes) : Text := (scan .idle bytes).map (·.getD '\ufffd')

def decode? (bytes : Bytes) : Option Text := (scan .idle bytes).mapM id

def bytesLE (s t : Text) : Bool := !(decide (encode t < encode s))

end Utf8
end LogosHooks

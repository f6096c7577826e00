import LogosHooks.Unicode.CaseFold

/-!
Classes of characters, as patterns combine them.
-/
namespace LogosHooks

open Unicode (Ranges)

abbrev CharClass := Ranges

namespace CharClass

def none : CharClass := []

def single (c : Char) : CharClass := [(c.toNat, c.toNat)]

def between (first last : Char) : CharClass := [(first.toNat, last.toNat)]

def unions (classes : List CharClass) : CharClass := classes.foldl Ranges.union none

def isAscii (a : CharClass) : Bool := a.all fun (_, last) => last < 128

def only? : CharClass → Option Char
  | [(first, last)] => if first = last then some (Char.ofNat first) else Option.none
  | _ => Option.none

end CharClass
end LogosHooks

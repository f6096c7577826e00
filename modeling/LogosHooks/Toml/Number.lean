import LogosHooks.Toml.Quoted
import LogosHooks.Toml.Value

/-!
Numbers, dates and times of TOML. An underscore may stand between two digits. Integers have 64 bits,
and a number with a fraction or an exponent must not be too large for a double.
-/
namespace LogosHooks.Toml

/-- The text behind a run of digits, in which single underscores may separate them. -/
def pastDigits? (isDigit : Char → Bool) : Text → Option Text
  | [] => some []
  | '_' :: c :: rest => if isDigit c then pastDigits? isDigit rest else none
  | c :: rest =>
    if isDigit c then pastDigits? isDigit rest else if c = '_' then none else some (c :: rest)

def pastNumber? (isDigit : Char → Bool) : Text → Option Text
  | c :: rest => if isDigit c then pastDigits? isDigit rest else none
  | [] => none

def pastSign : Text → Text
  | '+' :: rest => rest
  | '-' :: rest => rest
  | t => t

def pastDecimal? (t : Text) : Option Text :=
  match pastSign t with
  | '0' :: rest => some rest
  | t => pastNumber? Char.isDigit t

def pastExponent? : Text → Option Text
  | c :: rest => if c = 'e' || c = 'E' then pastNumber? Char.isDigit (pastSign rest) else none
  | [] => none

def pastFraction? : Text → Option (Option Text)
  | '.' :: rest => do
    let rest ← pastNumber? Char.isDigit rest
    if rest.head?.any fun c => c == 'e' || c == 'E' then return some (← pastExponent? rest)
    else return some rest
  | t =>
    if t.head?.any fun c => c == 'e' || c == 'E' then (pastExponent? t).map some else some none

def readOff (t rest : Text) : Text := t.take (t.length - rest.length)

def digitsValue (base : Nat) (digits : Text) : Nat :=
  digits.foldl (fun n c => (hexValue? c).elim n (base * n + ·)) 0

def isInt64 (n : Int) : Bool := -0x8000000000000000 ≤ n && n ≤ 0x7FFFFFFFFFFFFFFF

/-- The least value that rounds to infinity, as a double. -/
def overflowBound : Nat := Nat.pow 2 1024 - Nat.pow 2 970

def withZeros (n zeros : Nat) : Nat := n * Nat.pow 10 zeros

def overflows (spelling : Text) : Bool :=
  let spelling := spelling.filter (· != '_')
  let mantissa := spelling.takeWhile fun c => c != 'e' && c != 'E'
  let exponent := (spelling.drop mantissa.length).drop 1
  let whole := mantissa.takeWhile (· != '.')
  let fraction := (mantissa.drop whole.length).drop 1
  let digits := digitsValue 10 (whole ++ fraction)
  let shift := digitsValue 10 (pastSign exponent)
  if digits = 0 then false
  else if exponent.head? == some '-' then
    shift ≤ whole.length && withZeros overflowBound (fraction.length + shift) ≤ digits
  else if fraction.length + 400 < shift then true
  else withZeros overflowBound fraction.length ≤ withZeros digits shift

def basedInteger? (base : Nat) (isDigit : Char → Bool) (t : Text) : Option (Value × Text) := do
  let rest ← pastNumber? isDigit t
  let n : Int := digitsValue base (readOff t rest)
  guard (isInt64 n)
  return (.integer n, rest)

def isNegative (t : Text) : Bool := t.head? == some '-'

def decimalNumber? (t : Text) : Option (Value × Text) := do
  let afterInteger ← pastDecimal? t
  match ← pastFraction? afterInteger with
  | some rest =>
    let spelling := readOff t rest
    guard (isNegative t || !overflows spelling)
    return (.float spelling, rest)
  | none =>
    let magnitude : Int := digitsValue 10 (readOff t afterInteger)
    let n := if isNegative t then -magnitude else magnitude
    guard (isInt64 n)
    return (.integer n, afterInteger)

def number? (t : Text) : Option (Value × Text) :=
  match t with
  | '0' :: 'x' :: rest => basedInteger? 16 (hexValue? · |>.isSome) rest
  | '0' :: 'o' :: rest => basedInteger? 8 (fun c => '0' ≤ c && c ≤ '7') rest
  | '0' :: 'b' :: rest => basedInteger? 2 (fun c => c == '0' || c == '1') rest
  | _ =>
    match pastSign t with
    | 'i' :: 'n' :: 'f' :: rest => some (.float (readOff t rest), rest)
    | 'n' :: 'a' :: 'n' :: rest => some (.float (readOff t rest), rest)
    | _ => decimalNumber? t

def fixedNumber? (count low high : Nat) (t : Text) : Option (Nat × Text) :=
  let digits := t.take count
  let n := digitsValue 10 digits
  if digits.length = count && digits.all Char.isDigit && low ≤ n && n ≤ high then
    some (n, t.drop count)
  else none

def expect? (c : Char) : Text → Option Text
  | d :: rest => if d = c then some rest else none
  | [] => none

def daysInMonth (year month : Nat) : Nat :=
  if month = 2 then if year % 4 = 0 && (year % 100 != 0 || year % 400 = 0) then 29 else 28
  else if [4, 6, 9, 11].contains month then 30
  else 31

def pastDate? (t : Text) : Option Text := do
  let (year, rest) ← fixedNumber? 4 0 9999 t
  let (month, rest) ← fixedNumber? 2 1 12 (← expect? '-' rest)
  let (_, rest) ← fixedNumber? 2 1 (daysInMonth year month) (← expect? '-' rest)
  return rest

def pastTime? (t : Text) : Option Text := do
  let (_, rest) ← fixedNumber? 2 0 23 t
  let (_, rest) ← fixedNumber? 2 0 59 (← expect? ':' rest)
  let (_, rest) ← fixedNumber? 2 0 60 (← expect? ':' rest)
  match rest with
  | '.' :: c :: more => return if c.isDigit then more.dropWhile Char.isDigit else rest
  | _ => return rest

def pastOffset? : Text → Option Text
  | 'Z' :: rest => some rest
  | 'z' :: rest => some rest
  | t =>
    if t.head? == some '+' || isNegative t then do
      let (_, rest) ← fixedNumber? 2 0 23 (t.drop 1)
      let (_, rest) ← fixedNumber? 2 0 59 (← expect? ':' rest)
      return rest
    else some t

def startsWithDigits (count : Nat) (mark : Char) (t : Text) : Bool :=
  (t.take count).all Char.isDigit && t[count]? == some mark

def moment? (t : Text) : Option (Value × Text) := do
  let rest ←
    if startsWithDigits 4 '-' t then do
      let rest ← pastDate? t
      match rest with
      | c :: time =>
        if (c == 'T' || c == 't' || c == ' ') && startsWithDigits 2 ':' time then
          (pastTime? time).bind pastOffset?
        else pure rest
      | [] => pure rest
    else pastTime? t
  return (.moment (readOff t rest), rest)

def numberOrMoment? (t : Text) : Option (Value × Text) :=
  if startsWithDigits 4 '-' t || startsWithDigits 2 ':' t then moment? t else number? t

end LogosHooks.Toml

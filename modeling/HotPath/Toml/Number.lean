import HotPath.Toml.Lexeme

/-!
The numbers of TOML: integers of 64 bits in four bases, and floats, which are recognised but not
evaluated.
-/

namespace HotPath.Toml

def isHexDigit (c : Char) : Bool := (hexValue? c).isSome

def isOctalDigit (c : Char) : Bool := '0' ≤ c && c ≤ '7'

def isBinaryDigit (c : Char) : Bool := c == '0' || c == '1'

/-- Digits with single underscores between them, after a first digit. -/
def moreDigits (isDigit : Char → Bool) : List Char → Option (List Char × List Char)
  | '_' :: c :: rest => if isDigit c then consChar c (moreDigits isDigit rest) else none
  | c :: rest =>
    if isDigit c then consChar c (moreDigits isDigit rest)
    else if c == '_' then none
    else some ([], c :: rest)
  | [] => some ([], [])

def digitRun (isDigit : Char → Bool) : List Char → Option (List Char × List Char)
  | c :: rest => if isDigit c then consChar c (moreDigits isDigit rest) else none
  | [] => none

/-- The digits of a decimal integer: a zero stands alone. -/
def wholeDigits : List Char → Option (List Char × List Char)
  | '0' :: rest => some (['0'], rest)
  | s => digitRun Char.isDigit s

def numeral (base : Nat) (digits : List Char) : Nat :=
  digits.foldl (fun n c => base * n + (hexValue? c).getD 0) 0

def integer? (n : Int) : Option Item :=
  if Int64.minValue.toInt ≤ n ∧ n ≤ Int64.maxValue.toInt then some (.integer n) else none

def basedInteger (base : Nat) (isDigit : Char → Bool) : Reader Item := fun s => do
  let (digits, rest) ← digitRun isDigit s
  return (← integer? (numeral base digits), rest)

def exponent? : List Char → Option (Option (Int × List Char))
  | c :: rest =>
    if c == 'e' || c == 'E' then do
      let (negative, rest) := match rest with
        | '-' :: rest => (true, rest)
        | '+' :: rest => (false, rest)
        | _ => (false, rest)
      let (digits, rest) ← digitRun Char.isDigit rest
      let n : Int := numeral 10 digits
      return some (if negative then -n else n, rest)
    else some none
  | [] => some none

def fraction? : List Char → Option (Option (List Char × List Char))
  | '.' :: rest => (digitRun Char.isDigit rest).map some
  | _ => some none

/-- Whether the decimal `digits · 10 ^ e` is nearer to the first power of two past
the doubles than to a double. -/
def exceedsDoubles (digits : List Char) (e : Int) : Bool :=
  let digits := digits.dropWhile (· == '0')
  let magnitude := digits.length + e
  if digits.isEmpty then false
  else if magnitude ≠ 309 then 309 < magnitude
  else
    let n := numeral 10 digits
    let bound := Nat.pow 2 1024 - Nat.pow 2 970
    if 0 ≤ e then bound ≤ n * Nat.pow 10 e.toNat else bound * Nat.pow 10 (-e).toNat ≤ n

def decimal (negative : Bool) : Reader Item := fun s => do
  let (whole, rest) ← wholeDigits s
  let fraction ← fraction? rest
  let rest := (fraction.map (·.2)).getD rest
  let exponent ← exponent? rest
  let rest := (exponent.map (·.2)).getD rest
  if fraction.isNone && exponent.isNone then
    let n : Int := numeral 10 whole
    return (← integer? (if negative then -n else n), rest)
  else
    let places := (fraction.map (·.1)).getD []
    let e := (exponent.map (·.1)).getD 0 - places.length
    if !negative && exceedsDoubles (whole ++ places) e then none else some (.float, rest)

def signedNumber (negative : Bool) : Reader Item
  | 'i' :: 'n' :: 'f' :: rest | 'n' :: 'a' :: 'n' :: rest => some (.float, rest)
  | s => decimal negative s

/-- Read an integer or a float. A float too large for a double is refused, unless
it is negative. -/
def number : Reader Item
  | '+' :: rest => signedNumber false rest
  | '-' :: rest => signedNumber true rest
  | '0' :: 'x' :: rest => basedInteger 16 isHexDigit rest
  | '0' :: 'o' :: rest => basedInteger 8 isOctalDigit rest
  | '0' :: 'b' :: rest => basedInteger 2 isBinaryDigit rest
  | s => signedNumber false s

end HotPath.Toml

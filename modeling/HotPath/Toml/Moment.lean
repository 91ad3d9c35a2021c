import HotPath.Toml.Lexeme

/-!
The dates and times of TOML. They are checked against the calendar and recognised, not evaluated.
-/

namespace HotPath.Toml

def fixedDigits : Nat → Nat → Reader Nat
  | 0, n, s => some (n, s)
  | count + 1, n, c :: rest =>
    if c.isDigit then fixedDigits count (10 * n + (c.toNat - '0'.toNat)) rest else none
  | _ + 1, _, [] => none

def literally (c : Char) : Reader Unit
  | d :: rest => if c = d then some ((), rest) else none
  | [] => none

def inRange (low high : Nat) (read : Option (Nat × List Char)) :
    Option (Nat × List Char) :=
  read.filter fun (n, _) => low ≤ n && n ≤ high

def daysInMonth (year month : Nat) : Nat :=
  let leap := year % 4 = 0 ∧ (year % 100 ≠ 0 ∨ year % 400 = 0)
  if month = 2 then (if leap then 29 else 28)
  else if month = 4 ∨ month = 6 ∨ month = 9 ∨ month = 11 then 30
  else 31

def date : Reader Unit := fun s => do
  let (year, s) ← fixedDigits 4 0 s
  let ((), s) ← literally '-' s
  let (month, s) ← inRange 1 12 (fixedDigits 2 0 s)
  let ((), s) ← literally '-' s
  let (_, s) ← inRange 1 (daysInMonth year month) (fixedDigits 2 0 s)
  return ((), s)

def hourMinute : Reader Unit := fun s => do
  let (_, s) ← inRange 0 23 (fixedDigits 2 0 s)
  let ((), s) ← literally ':' s
  let (_, s) ← inRange 0 59 (fixedDigits 2 0 s)
  return ((), s)

/-- A time with seconds, which may be a leap second, and an optional fraction. -/
def time : Reader Unit := fun s => do
  let ((), s) ← hourMinute s
  let ((), s) ← literally ':' s
  let (_, s) ← inRange 0 60 (fixedDigits 2 0 s)
  match s with
  | '.' :: c :: rest => return ((), if c.isDigit then rest.dropWhile Char.isDigit else s)
  | _ => return ((), s)

def skipOffset (s : List Char) : List Char :=
  match s with
  | 'Z' :: rest | 'z' :: rest => rest
  | c :: rest =>
    if c == '+' || c == '-' then ((hourMinute rest).map (·.2)).getD s else s
  | [] => s

def isTimeSeparator (c : Char) : Bool := c == 'T' || c == 't' || c == ' '

/-- Read a date, a time, or a date followed by a time with an optional offset. -/
def moment : Reader Item := fun s =>
  match date s with
  | some ((), rest) =>
    match rest with
    | c :: after =>
      match if isTimeSeparator c then time after else none with
      | some ((), after) => some (.moment, skipOffset after)
      | none => some (.moment, rest)
    | [] => some (.moment, [])
  | none => (time s).map fun ((), rest) => (.moment, rest)

end HotPath.Toml

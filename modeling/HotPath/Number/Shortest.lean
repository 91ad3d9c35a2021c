import HotPath.Number.Binary

/-!
The fewest decimal digits that read back as a given double, and the two layouts in which they are
written: plain notation, and plain notation with a scientific form for very large and small values.
-/

namespace HotPath.Number

/-- The decimal `0.d₁d₂… · 10 ^ point`; the digits have no leading or trailing zero. -/
structure Decimal where
  digits : List Char
  point : Int
  deriving DecidableEq, Repr

def dropTrailingZeros (digits : List Char) : List Char :=
  (digits.reverse.dropWhile (· == '0')).reverse

/-- The reals that round to a double, scaled by `4 · 2 ^ -q`: half a unit on each
side, a quarter below a power of two, with the ends belonging to an even significand. -/
structure RoundingInterval where
  low : Nat
  value : Nat
  high : Nat
  closed : Bool

def RoundingInterval.ofSignificand (m : Nat) (q : Int) : RoundingInterval :=
  let powerOfTwo := m = Binary.hiddenBit ∧ Binary.minExponent < q
  ⟨4 * m - (if powerOfTwo then 1 else 2), 4 * m, 4 * m + 2, m % 2 = 0⟩

/-- Membership of `n · scale` in the interval whose ends are multiples of `unit`. -/
def RoundingInterval.contains (interval : RoundingInterval) (unit scaled : Nat) : Bool :=
  if interval.closed then interval.low * unit ≤ scaled && scaled ≤ interval.high * unit
  else interval.low * unit < scaled && scaled < interval.high * unit

/-- The multiple of `grid` next to `interval.value * unit` that lies in the
interval, the nearer of two, the upper one of a tie. -/
def RoundingInterval.nearest? (interval : RoundingInterval) (unit grid : Nat) : Option Nat :=
  let value := interval.value * unit
  let below := value / grid
  let inside (n : Nat) : Bool := interval.contains unit (n * grid)
  if inside below && inside (below + 1) then
    some (if 2 * (value % grid) < grid then below else below + 1)
  else if inside below then some below
  else if inside (below + 1) then some (below + 1)
  else none

/-- Search the grids `10 ^ e, 10 ^ (e-1), …` for the first one that has a point
in the interval. -/
def search (interval : RoundingInterval) (unit denominator : Nat) : Nat → Int → Decimal
  | 0, _ => ⟨[], 0⟩
  | steps + 1, e =>
    let hit :=
      if 0 ≤ e then interval.nearest? unit (denominator * Nat.pow 10 e.toNat)
      else interval.nearest? (unit * Nat.pow 10 (-e).toNat) denominator
    match hit with
    | some n =>
      let digits := Nat.toDigits 10 n
      ⟨dropTrailingZeros digits, digits.length + e⟩
    | none => search interval unit denominator steps (e - 1)

/-- The shortest decimal that reads back as `m · 2 ^ q`, for a nonzero `m`. The
search starts one place above the leading digit; seventeen digits always suffice. -/
def shortest (m : Nat) (q : Int) : Decimal :=
  let interval := RoundingInterval.ofSignificand m q
  let unit := Nat.pow 2 (q - 2).toNat
  let denominator := Nat.pow 2 (2 - q).toNat
  let leading : Int :=
    (Nat.toDigits 10 (interval.value * unit)).length - (Nat.toDigits 10 denominator).length
  search interval unit denominator 20 (leading + 1)

def zeros (count : Nat) : String := "".pushn '0' count

namespace Decimal

/-- Plain notation without an exponent; an integer has no decimal point. -/
def positional (d : Decimal) : String :=
  if d.point ≤ 0 then "0." ++ zeros (-d.point).toNat ++ String.ofList d.digits
  else
    let whole := d.point.toNat
    if d.digits.length ≤ whole then String.ofList d.digits ++ zeros (whole - d.digits.length)
    else String.ofList (d.digits.take whole) ++ "." ++ String.ofList (d.digits.drop whole)

def scientific (d : Decimal) : String :=
  let fraction := String.ofList (d.digits.drop 1)
  String.ofList (d.digits.take 1) ++ (if fraction.isEmpty then "" else "." ++ fraction) ++
    "e" ++ toString (d.point - 1)

def isWhole (d : Decimal) : Bool := (d.digits.length : Int) ≤ d.point

end Decimal

def signed (negative : Bool) (text : String) : String :=
  if negative then "-" ++ text else text

/-- Text of a double for messages: plain notation, as few digits as read back. -/
def plainText (x : Float) : String :=
  match Binary.ofFloat x with
  | .nan => "NaN"
  | .infinite negative => signed negative "inf"
  | .finite negative 0 _ => signed negative "0"
  | .finite negative m q => signed negative (shortest m q).positional

/-- Text of a double for inspection: it always shows that it is no integer, and
leaves plain notation at `10 ^ 16` and below `10 ^ -4`. -/
def inspectText (x : Float) : String :=
  match Binary.ofFloat x with
  | .nan => "NaN"
  | .infinite negative => signed negative "inf"
  | .finite negative 0 _ => signed negative "0.0"
  | .finite negative m q =>
    let d := shortest m q
    signed negative <|
      if d.point < -3 ∨ 16 < d.point then d.scientific
      else if d.isWhole then d.positional ++ ".0"
      else d.positional

end HotPath.Number

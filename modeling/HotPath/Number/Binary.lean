/-!
The exact value of a double: a finite double is `± m · 2 ^ q` with natural `m` and integer `q`.
The remainder of two doubles and the widening of a 64-bit integer are computed on that form.
-/

namespace HotPath.Number

inductive Binary where
  | nan
  | infinite (negative : Bool)
  /-- The number `m · 2 ^ q`, negated if `negative`; `m` may be zero. -/
  | finite (negative : Bool) (m : Nat) (q : Int)
  deriving DecidableEq, Repr

namespace Binary

def hiddenBit : Nat := Nat.pow 2 52

/-- The exponent of the last place of the smallest doubles. -/
def minExponent : Int := -1074

def ofFloat (x : Float) : Binary :=
  let bits := x.toBits.toNat
  let negative := Nat.pow 2 63 ≤ bits
  let field : Nat := bits / hiddenBit % Nat.pow 2 11
  let fraction := bits % hiddenBit
  if field = 2047 then
    if fraction = 0 then .infinite negative else .nan
  else if field = 0 then .finite negative fraction minExponent
  else .finite negative (fraction + hiddenBit) ((field : Int) - 1075)

/-- Shift a significand up until it fills 53 bits or reaches the last place of
the smallest doubles, keeping `m · 2 ^ q`. -/
def fill : Nat → Nat → Int → Nat × Int
  | 0, m, q => (m, q)
  | steps + 1, m, q =>
    if hiddenBit ≤ m ∨ q ≤ minExponent then (m, q) else fill steps (2 * m) (q - 1)

/-- The double `± m · 2 ^ q`, for an `m` below `2 ^ 53` and a `q` not below
`minExponent` that together stay in range. -/
def toFloat (negative : Bool) (m : Nat) (q : Int) : Float :=
  let sign := if negative then Nat.pow 2 63 else 0
  let (m, q) := fill 53 m q
  let magnitude :=
    if m < hiddenBit then m else (q + 1075).toNat * hiddenBit + (m - hiddenBit)
  Float.ofBits (UInt64.ofNat (sign + magnitude))

end Binary

def nan : Float := 0.0 / 0.0

/-- The exact remainder of a division truncated toward zero: it has the sign of
the dividend, and a dividend smaller than the divisor is its own remainder. -/
def remainder (a b : Float) : Float :=
  match Binary.ofFloat a, Binary.ofFloat b with
  | .nan, _ | _, .nan | .infinite _, _ => nan
  | .finite .., .infinite _ => a
  | .finite negative m p, .finite _ n q =>
    if n = 0 then nan
    else
      let low := min p q
      Binary.toFloat negative (m * Nat.pow 2 (p - low).toNat % (n * Nat.pow 2 (q - low).toNat)) low

/-- The double nearest to an integer, ties to the even significand. -/
def widen (n : Int64) : Float :=
  let magnitude := (UInt64.ofNat n.toInt.natAbs).toFloat
  if n < 0 then -magnitude else magnitude

end HotPath.Number

/-!
Runtime values. A box is a shared mutable place that a value can refer to; boxes are told apart by
identity, never by what they hold.
-/

namespace HotPath

/-- Identity of a box. The host and the frames of calls draw theirs from two
separate supplies, so the boxes a host sees never depend on how a call was run. -/
inductive BoxId where
  | host (index : Nat)
  | frame (index : Nat)
  deriving DecidableEq, Repr

inductive Value where
  | unit
  | bool (b : Bool)
  | int (n : Int64)
  | float (x : Float)
  | str (s : String)
  | ref (box : BoxId)
  deriving Inhabited

inductive Kind where
  | unit | bool | int | float | str | ref
  deriving DecidableEq, Repr

def Kind.name : Kind → String
  | .unit => "unit"
  | .bool => "bool"
  | .int => "int"
  | .float => "float"
  | .str => "str"
  | .ref => "ref"

namespace Value

def kind : Value → Kind
  | .unit => .unit
  | .bool _ => .bool
  | .int _ => .int
  | .float _ => .float
  | .str _ => .str
  | .ref _ => .ref

def asInt? : Value → Option Int64
  | .int n => some n
  | _ => none

def asBool? : Value → Option Bool
  | .bool b => some b
  | _ => none

def isUnit : Value → Bool
  | .unit => true
  | _ => false

/-- Equality of values of one kind. Floats compare as numbers, so a NaN differs
from itself and the two zeros agree; boxes compare by identity. -/
def same : Value → Value → Bool
  | .unit, .unit => true
  | .bool a, .bool b => a == b
  | .int a, .int b => a == b
  | .float a, .float b => a == b
  | .str a, .str b => a == b
  | .ref a, .ref b => a == b
  | _, _ => false

end Value

end HotPath

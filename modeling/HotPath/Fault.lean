import HotPath.Value.Printer

/-!
The errors a running function can end with. They reach the host unchanged, whichever tier served
the call.
-/

namespace HotPath

inductive Fault where
  /-- The function raised a value of its own. -/
  | raised (value : Value)
  | divisionByZero
  /-- Checked integer arithmetic left the 64-bit range. -/
  | overflow (symbol : String)
  /-- A binary operator does not take operands of these kinds. -/
  | operands (symbol : String) (left right : Kind)
  /-- A unary operator or a condition does not take a value of this kind. -/
  | operand (symbol : String) (found : Kind)
  /-- A function was called with the wrong number of arguments. -/
  | arity (expected got : Nat)
  /-- The body reached a captured variable that has no cell. -/
  | unboundCapture (slot : Nat)

def Fault.message (store : Store) : Fault → String
  | .raised value => "Raised: " ++ value.display store
  | .divisionByZero => "Division by zero"
  | .overflow symbol => "Integer overflow in " ++ symbol
  | .operands symbol left right =>
    s!"Type error: cannot apply {symbol} to {left.name} and {right.name}"
  | .operand symbol found => s!"Type error: {symbol} does not accept {found.name}"
  | .arity expected got => s!"Arity mismatch: expected {expected} arguments, got {got}"
  | .unboundCapture slot => s!"No closure cell bound to slot {slot}"

end HotPath

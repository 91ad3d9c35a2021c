import HotPath.Signature

/-!
The calling conventions of compiled code. Three of them serve a signature exactly; every other
signature takes the uniform shape, in which by-reference arguments travel in boxes.
-/

namespace HotPath

inductive Shape where
  /-- By-value arguments, gives back a value. -/
  | func (arity : Nat)
  /-- By-value arguments, gives back nothing. -/
  | action (arity : Nat)
  /-- Exactly two by-reference arguments, gives back nothing. -/
  | actionRef2
  /-- Any arguments, those by reference in boxes. -/
  | uniform (arity : Nat) (returns : Bool)
  deriving DecidableEq, Repr

namespace Shape

def arity : Shape → Nat
  | .func arity | .action arity | .uniform arity _ => arity
  | .actionRef2 => 2

def display : Shape → String
  | .func arity => s!"Func/{arity}"
  | .action arity => s!"Action/{arity}"
  | .actionRef2 => "ActionRef/2"
  | .uniform arity returns => s!"Uniform/{arity}" ++ (if returns then "" else " void")

def inspect : Shape → String
  | .func arity => s!"Func \x7b arity: {arity} \x7d"
  | .action arity => s!"Action \x7b arity: {arity} \x7d"
  | .actionRef2 => "ActionRef2"
  | .uniform arity returns => s!"Uniform \x7b arity: {arity}, returns: {returns} \x7d"

end Shape

def maxDirectArity : Nat := 16

/-- The shape that a signature is compiled to, and whether code of that shape
serves the signature without an adapter. -/
structure ShapeSelection where
  shape : Shape
  exact : Bool
  deriving DecidableEq, Repr

def Signature.selectShape (signature : Signature) : ShapeSelection :=
  let arity := signature.arity
  let byRef := signature.byRefIndices.length
  if signature.isVoid ∧ arity = 2 ∧ byRef = 2 then ⟨.actionRef2, true⟩
  else if byRef = 0 ∧ arity ≤ maxDirectArity then
    ⟨if signature.isVoid then .action arity else .func arity, true⟩
  else ⟨.uniform arity (!signature.isVoid), false⟩

end HotPath

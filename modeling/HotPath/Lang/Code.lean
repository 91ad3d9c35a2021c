import HotPath.Lang.Frame
import HotPath.Lang.Operator

/-!
Compiled bodies. In compiled code every place has been resolved to the way it is reached, and a
block has become a chain of two-part sequences.
-/

namespace HotPath

/-- How compiled code reaches a place. -/
inductive Access where
  /-- The parameter slot holds the value. -/
  | slot (index : Nat)
  /-- The parameter slot holds a box of the caller, or the value if it is no box. -/
  | boxedSlot (index : Nat)
  | frameLocal (index : Nat)
  | capture (slot : Nat)
  deriving DecidableEq, Repr

inductive Code where
  | const (value : Value)
  | load (place : Access)
  | store (place : Access) (value : Code)
  | unary (op : UnaryOp) (operand : Code)
  | binary (op : BinaryOp) (left right : Code)
  | branch (test yes no : Code)
  | loop (test body : Code)
  /-- Run the first part for its effects; the value is that of the second. -/
  | seq (first second : Code)
  | ret (value : Code)
  | raise (value : Code)
  deriving Inhabited

def Access.load (binding : Binding) : Access → Run Value
  | .slot index => Run.readParam index
  | .boxedSlot index => do
    match ← Run.readParam index with
    | .ref box => Run.readBox box
    | other => pure other
  | .frameLocal index => Run.readLocal index
  | .capture index => Run.readCapture binding index

def Access.store (binding : Binding) (value : Value) : Access → Run Unit
  | .slot index => Run.writeParam index value
  | .boxedSlot index => do
    match ← Run.readParam index with
    | .ref box => Run.writeBox box value
    | _ => Run.writeParam index value
  | .frameLocal index => Run.writeLocal index value
  | .capture index => Run.writeCapture binding index value

/-- Run compiled code on cells bound to its captured variables; each loop may run
`rounds` tests. -/
def Code.exec (rounds : Nat) (binding : Binding) : Code → Run Value
  | .const value => pure value
  | .load place => place.load binding
  | .store place code => do
    let value ← code.exec rounds binding
    place.store binding value
    pure value
  | .unary op code => do
    let operand ← code.exec rounds binding
    Run.ofOperator (Value.unary op operand)
  | .binary op a b => do
    let left ← a.exec rounds binding
    let right ← b.exec rounds binding
    Run.ofOperator (Value.binary op left right)
  | .branch test yes no => do
    let value ← test.exec rounds binding
    if ← Run.ofOperator (Value.condition .ifElse value) then yes.exec rounds binding
    else no.exec rounds binding
  | .loop test body =>
    Run.whileTrue
      (do
        let value ← test.exec rounds binding
        Run.ofOperator (Value.condition .whileLoop value))
      (body.exec rounds binding) rounds
  | .seq first second => do
    let _ ← first.exec rounds binding
    second.exec rounds binding
  | .ret code => do
    let value ← code.exec rounds binding
    throw (.returned value)
  | .raise code => do
    let value ← code.exec rounds binding
    throw (.faulted (.raised value))

structure Procedure where
  root : Code
  locals : Nat

def Procedure.run (procedure : Procedure) (rounds : Nat) (binding : Binding)
    (params : List Value) (store : Store) : Reply :=
  Run.onFrame (procedure.root.exec rounds binding) procedure.locals params store

end HotPath

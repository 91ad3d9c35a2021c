import HotPath.Definition
import HotPath.Lang.Frame

/-!
The interpreter walks a body on every call. Its parameters live in plain slots of the frame, and the
by-reference ones are copied back to the caller when the call is over.
-/

namespace HotPath

namespace Expr

mutual

/-- The value of an expression; each loop may run `rounds` tests. -/
def eval (rounds : Nat) (binding : Binding) : Expr → Run Value
  | .const value => pure value
  | .readParam index => Run.readParam index
  | .writeParam index e => do
    let value ← e.eval rounds binding
    Run.writeParam index value
    pure value
  | .readLocal index => Run.readLocal index
  | .writeLocal index e => do
    let value ← e.eval rounds binding
    Run.writeLocal index value
    pure value
  | .readCapture slot => Run.readCapture binding slot
  | .writeCapture slot e => do
    let value ← e.eval rounds binding
    Run.writeCapture binding slot value
    pure value
  | .unary op e => do
    let operand ← e.eval rounds binding
    Run.ofOperator (Value.unary op operand)
  | .binary op a b => do
    let left ← a.eval rounds binding
    let right ← b.eval rounds binding
    Run.ofOperator (Value.binary op left right)
  | .ifElse test yes no => do
    let value ← test.eval rounds binding
    if ← Run.ofOperator (Value.condition .ifElse value) then yes.eval rounds binding
    else no.eval rounds binding
  | .whileLoop test body =>
    Run.whileTrue
      (do
        let value ← test.eval rounds binding
        Run.ofOperator (Value.condition .whileLoop value))
      (body.eval rounds binding) rounds
  | .block items => evalBlock rounds binding .unit items
  | .ret e => do
    let value ← e.eval rounds binding
    throw (.returned value)
  | .raise e => do
    let value ← e.eval rounds binding
    throw (.faulted (.raised value))

/-- The value of the last of some expressions run in order, `last` if there is none. -/
def evalBlock (rounds : Nat) (binding : Binding) (last : Value) : List Expr → Run Value
  | [] => pure last
  | e :: rest => do
    let value ← e.eval rounds binding
    evalBlock rounds binding value rest

end

end Expr

/-- A function that declares more locals than a frame has room for. -/
def Definition.Oversized (definition : Definition) : Prop := maxLocals < definition.locals

instance (definition : Definition) : Decidable definition.Oversized := Nat.decLt ..

/-- Call a function on the interpreter. Without a closure every captured variable
is unbound. -/
def Definition.interpret (definition : Definition) (rounds : Nat) (args : List Value)
    (closure : Option Binding) (store : Store) : Reply :=
  let signature := definition.signature
  if args.length ≠ signature.arity then
    ⟨.fault (.arity signature.arity args.length), args, store⟩
  else
    let reply := Run.onFrame (definition.body.eval rounds (closure.getD [])) definition.locals
      args store
    { reply with
      outcome := if signature.isVoid then reply.outcome.map fun _ => .unit else reply.outcome
      slots := Signature.writeBack signature.modes args reply.slots }

end HotPath

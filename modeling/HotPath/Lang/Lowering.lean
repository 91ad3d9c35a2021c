import HotPath.Lang.Code
import HotPath.Native.Compiler

/-!
The reference compiler. It lowers a body once, resolving every place, and wraps the result in an
entry point of the requested shape. It takes any body up to an optional number of nodes, but only
for the shape that the signature selects.
-/

namespace HotPath

/-- How the code of a shape reaches the parameters of a signature: in the uniform
shape a by-reference argument is a box. -/
def Signature.accesses (signature : Signature) (shape : Shape) (index : Nat) : Access :=
  match shape, signature.params[index]? with
  | .uniform _ _, some parameter =>
    if parameter.isByRef then .boxedSlot index else .slot index
  | _, _ => .slot index

namespace Expr

mutual

def lower (param : Nat → Access) : Expr → Code
  | .const value => .const value
  | .readParam index => .load (param index)
  | .writeParam index e => .store (param index) (e.lower param)
  | .readLocal index => .load (.frameLocal index)
  | .writeLocal index e => .store (.frameLocal index) (e.lower param)
  | .readCapture slot => .load (.capture slot)
  | .writeCapture slot e => .store (.capture slot) (e.lower param)
  | .unary op e => .unary op (e.lower param)
  | .binary op a b => .binary op (a.lower param) (b.lower param)
  | .ifElse test yes no => .branch (test.lower param) (yes.lower param) (no.lower param)
  | .whileLoop test body => .loop (test.lower param) (body.lower param)
  | .block [] => .const .unit
  | .block (e :: rest) => lowerBlock param (e.lower param) rest
  | .ret e => .ret (e.lower param)
  | .raise e => .raise (e.lower param)

def lowerBlock (param : Nat → Access) (first : Code) : List Expr → Code
  | [] => first
  | e :: rest => .seq first (lowerBlock param (e.lower param) rest)

end

end Expr

/-- Wrap a compiled body in an entry point of a shape, for cells bound to its
captured variables. -/
def Procedure.entryPoint (procedure : Procedure) (binding : Binding) : Shape → NativeFn
  | .func arity => .func arity fun rounds args store =>
    let reply := procedure.run rounds binding args store
    (reply.outcome, reply.store)
  | .action arity => .action arity fun rounds args store =>
    let reply := procedure.run rounds binding args store
    (reply.outcome.map fun _ => (), reply.store)
  | .actionRef2 => .actionRef2 fun rounds a b store =>
    let reply := procedure.run rounds binding [a, b] store
    (reply.outcome.map fun _ => (), reply.slots.getD 0 .unit, reply.slots.getD 1 .unit, reply.store)
  | .uniform arity returns => .uniform arity returns fun rounds args store =>
    let reply := procedure.run rounds binding args store
    (if returns then reply.outcome else reply.outcome.map fun _ => .unit, reply.store)

/-- Compile a function to a shape. Another shape than the selected one is refused
before the number of nodes is looked at. -/
def Definition.lower (definition : Definition) (nodeLimit : Option Nat) (shape : Shape) :
    Except CompileError Procedure :=
  let expected := definition.signature.selectShape.shape
  let nodes := definition.body.nodeCount
  if shape ≠ expected then
    .error (.unsupported (s!"shape {shape.display} for signature " ++
      definition.signature.display ++ s!" (expected {expected.display})"))
  else match nodeLimit.filter (· < nodes) with
    | some limit =>
      .error (.unsupported s!"body of {definition.name} has {nodes} nodes (limit {limit})")
    | none => .ok ⟨definition.body.lower (definition.signature.accesses shape), definition.locals⟩

/-- The compiler of the body language, with an optional limit on the nodes of a body. -/
def Compiler.reference (nodeLimit : Option Nat) : Compiler where
  direct definition shape :=
    match definition.lower nodeLimit shape with
    | .error error => .refused error
    | .ok procedure => .produced (procedure.entryPoint [] shape)
  factory definition shape :=
    match definition.lower nodeLimit shape with
    | .error error => .refused error
    | .ok procedure => .produced fun binding => procedure.entryPoint binding shape

end HotPath

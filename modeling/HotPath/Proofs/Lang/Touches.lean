import HotPath.Lang.Interpreter

/-!
What an interpreted run does with its parameters. Each time the body reads or assigns a parameter it
touches the slot of that parameter; the touches of a run are listed in the order they happen.
-/

namespace HotPath

/-- An access to a parameter slot, with what the slot held just then. -/
structure Touch where
  index : Nat
  held : Option Value

def Frame.touch (frame : Frame) (index : Nat) : Touch := ⟨index, frame.params[index]?⟩

namespace Run

variable {α : Type}

/-- The touches of a run followed by those of what comes after it, if the run has
not stopped. -/
def chain (touches : Frame → List Touch) (run : Run α) (later : α → Frame → List Touch)
    (frame : Frame) : List Touch :=
  touches frame ++
    match run frame with
    | .ok value after => later value after
    | .error _ _ => []

@[simp] theorem chain_nil (touches : Frame → List Touch) (run : Run α) :
    chain touches run (fun _ _ => []) = touches := by
  funext frame
  unfold chain
  cases run frame <;> exact List.append_nil _

/-- The touches of a loop, from those of its test and its body. -/
def touchesWhile (test : Run Bool) (body : Run Value) (ofTest ofBody : Frame → List Touch) :
    (rounds : Nat) → Frame → List Touch
  | 0 => fun _ => []
  | rounds + 1 => chain ofTest test fun holds =>
    if holds then chain ofBody body fun _ => touchesWhile test body ofTest ofBody rounds
    else fun _ => []

end Run

open Run (chain)

namespace Expr

mutual

/-- What `Expr.eval` touches on a frame. An assignment touches its parameter once
the assigned value is there. -/
def touches (rounds : Nat) (binding : Binding) : Expr → Frame → List Touch
  | .const _ | .readLocal _ | .readCapture _ => fun _ => []
  | .readParam index => fun frame => [frame.touch index]
  | .writeParam index e => chain (e.touches rounds binding) (e.eval rounds binding)
      fun _ frame => [frame.touch index]
  | .writeLocal _ e | .writeCapture _ e | .unary _ e | .ret e | .raise e =>
    e.touches rounds binding
  | .binary _ a b => chain (a.touches rounds binding) (a.eval rounds binding)
      fun _ => b.touches rounds binding
  | .ifElse test yes no =>
    chain (test.touches rounds binding)
      (do
        let value ← test.eval rounds binding
        Run.ofOperator (Value.condition .ifElse value))
      fun holds => if holds then yes.touches rounds binding else no.touches rounds binding
  | .whileLoop test body =>
    Run.touchesWhile
      (do
        let value ← test.eval rounds binding
        Run.ofOperator (Value.condition .whileLoop value))
      (body.eval rounds binding) (test.touches rounds binding) (body.touches rounds binding) rounds
  | .block items => touchesAll rounds binding items

def touchesAll (rounds : Nat) (binding : Binding) : List Expr → Frame → List Touch
  | [] => fun _ => []
  | e :: rest => chain (e.touches rounds binding) (e.eval rounds binding)
      fun _ => touchesAll rounds binding rest

end

end Expr

def Definition.touches (definition : Definition) (rounds : Nat) (args : List Value)
    (closure : Option Binding) (store : Store) : List Touch :=
  if definition.Oversized then []
  else definition.body.touches rounds (closure.getD [])
    ⟨args, List.replicate definition.locals .unit, store⟩

end HotPath

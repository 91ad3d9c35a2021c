import HotPath.Native.Entry
import HotPath.Tier.Counters
import HotPath.Tier.Event
import HotPath.Tier.Promotion

/-!
The controller of a function: its promotion, the code or the error that compiling it gave, and its
counters. Code generation happens at most once; what it gave is kept for good.
-/

namespace HotPath

/-- What an engine works with: fixed for its whole life, but for the thread on
which it is used. -/
structure Setup where
  /-- Whether there is an interpreter to fall back on. -/
  interprets : Bool
  compiler : Compiler
  policy : Policy
  /-- What the clock shows for generating the code of a function. -/
  codegenMicros : Definition → Nat
  /-- The allowance of loop tests of one loop in one call. -/
  rounds : Nat
  thread : Thread

structure Controller where
  definition : Definition
  /-- The scheduler that takes its background compilation. -/
  scheduler : SchedulerId
  /-- Counted interpreted calls. -/
  executionCount : Nat := 0
  promotion : Promotion := .cold
  published : Option CompiledCode := none
  failure : Option CompileError := none
  counters : Counters := {}

namespace Controller

def selection (controller : Controller) : ShapeSelection :=
  controller.definition.signature.selectShape

def hasCompiled (controller : Controller) : Bool := controller.published.isSome

/-- The answer to a request to compile that needs no compiler any more. -/
def settled? (controller : Controller) : Option (Except CompileError Unit) :=
  match controller.published, controller.failure with
  | some _, _ => some (.ok ())
  | none, some error => some (.error error)
  | none, none => none

/-- Ask a compiler for the code of the function. A crash of the compiler is an
error like others, and so is direct code of another shape than requested. -/
def generate (controller : Controller) (compiler : Compiler) :
    Except CompileError CompiledCode :=
  let definition := controller.definition
  let shape := controller.selection.shape
  let answer :=
    if definition.hasClosure then (compiler.factory definition shape).map CompiledCode.factory
    else (compiler.direct definition shape).map CompiledCode.direct
  match answer with
  | .produced (.direct code) =>
    if code.shape = shape then .ok (.direct code)
    else .error (.unexpectedShape shape code.shape)
  | .produced code => .ok code
  | .refused error => .error error
  | .crashed message => .error (.panicked (message.getD "unknown panic payload"))

/-- Keep what code generation gave. -/
def keep (controller : Controller) (micros : Nat) :
    Except CompileError CompiledCode → Controller
  | .ok code =>
    { controller with
      published := some code
      promotion := .compiled
      counters := { controller.counters with
        completed := controller.counters.completed + 1
        micros := controller.counters.micros + micros } }
  | .error error =>
    { controller with
      failure := some error
      promotion := .failed
      counters := { controller.counters with
        failed := controller.counters.failed + 1
        micros := controller.counters.micros + micros } }

/-- The controller with one more call counted; none once the limit is reached. -/
def countCall? (controller : Controller) : Option Controller :=
  if controller.executionCount < maxExecutionCount then
    some { controller with executionCount := controller.executionCount + 1 }
  else none

/-- Whether a call just counted triggers background compilation. -/
def isDue (controller : Controller) (policy : Policy) : Bool :=
  policy.threshold ≤ controller.executionCount && controller.promotion == .cold

def countInterpreted (controller : Controller) : Controller :=
  { controller with
    counters := { controller.counters with interpreted := controller.counters.interpreted + 1 } }

def countPromoted (controller : Controller) : Controller :=
  { controller with
    counters := { controller.counters with promoted := controller.counters.promoted + 1 } }

def markScheduled (controller : Controller) : Controller :=
  { controller with
    promotion := .scheduled
    counters := { controller.counters with scheduled := controller.counters.scheduled + 1 } }

/-- The entry point of the published code for a closure, fitted to the signature.
There is none before publication. -/
def entryFor? (controller : Controller) (closure : Option Binding) :
    Option (Except Mismatch CompiledEntry) :=
  let signature := controller.definition.signature
  controller.published.map fun code =>
    match code.entryPoint? closure with
    | some entryPoint => CompiledEntry.resolve signature entryPoint
    | none => .error ⟨signature, controller.selection.shape⟩

def inspect (controller : Controller) : String :=
  let selection := controller.selection
  "TierController \x7b function: " ++ Text.quote controller.definition.name ++
    ", shape: " ++ selection.shape.inspect ++
    s!", exact: {selection.exact}, execution_count: {controller.executionCount}, promotion: " ++
    controller.promotion.name ++ " \x7d"

end Controller

end HotPath

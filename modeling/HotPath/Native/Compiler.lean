import HotPath.Definition
import HotPath.Native.EntryPoint

/-!
What the tiers require of a compiler. It is asked for code of one shape and may produce it, refuse,
or crash; nothing keeps it from producing code of another shape.
-/

namespace HotPath

inductive CompileError where
  /-- The body uses something the compiler does not take. -/
  | unsupported (reason : String)
  | codegen (reason : String)
  | panicked (reason : String)
  | unexpectedShape (expected got : Shape)
  deriving DecidableEq, Repr

def CompileError.message : CompileError → String
  | .unsupported reason => "Not compilable: " ++ reason
  | .codegen reason => "Compilation error: " ++ reason
  | .panicked reason => "Compiler panicked: " ++ reason
  | .unexpectedShape expected got =>
    s!"Compiler produced shape {got.display} but {expected.display} was requested"

/-- The answer of a compiler. A crash carries its message if it has one. -/
inductive Generated (α : Type) where
  | produced (code : α)
  | refused (error : CompileError)
  | crashed (message : Option String)

def Generated.map {α β : Type} (f : α → β) : Generated α → Generated β
  | .produced code => .produced (f code)
  | .refused error => .refused error
  | .crashed message => .crashed message

/-- A compiler answers the same request always in the same way. -/
structure Compiler where
  /-- Code of a function without captured variables. -/
  direct : Definition → Shape → Generated NativeFn
  /-- A factory of code for a capturing function. -/
  factory : Definition → Shape → Generated (Binding → NativeFn)

end HotPath

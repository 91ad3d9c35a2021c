import HotPath.Schedule.Kind
import HotPath.Native.Shape
import HotPath.Native.Compiler

/-!
What happens in an engine, in order: requests to the compiler, runs of the two tiers, and the
records written to the log.
-/

namespace HotPath

abbrev ControllerId := Nat

abbrev HandleId := Nat

abbrev SchedulerId := Nat

/-- Where something happens: on the host's own thread or on another. -/
inductive Thread where
  | host | worker
  deriving DecidableEq, Repr

inductive LogRecord where
  | creatingEngine (threshold : Nat) (tiering : Bool) (scheduler : SchedulerKind)
  | poolStarted
  | tracking (function : String)
  | scheduling (function : String) (count : Nat) (scheduler : SchedulerKind)
  | compiled (function : String) (shape : Shape) (adapted : Bool)
  | compilationFailed (function : String) (error : CompileError)
  | switched (function : String) (adapted : Bool)
  | misfit (function : String) (mismatch : Mismatch)
  deriving DecidableEq, Repr

namespace LogRecord

def level : LogRecord → String
  | .switched .. => "TRACE"
  | .compilationFailed .. => "WARN"
  | .misfit .. => "ERROR"
  | _ => "DEBUG"

def target : LogRecord → String
  | .creatingEngine .. | .tracking _ => "tiered_lambda::engine"
  | .poolStarted => "tiered_lambda::tiered::pool"
  | .scheduling .. | .compiled .. | .compilationFailed .. => "tiered_lambda::tiered::compile"
  | .switched .. | .misfit .. => "tiered_lambda::tiered::dispatch"

def message : LogRecord → String
  | .creatingEngine .. => "Creating tiered engine"
  | .poolStarted => "Compile worker pool started"
  | .tracking _ => "Tracking function"
  | .scheduling .. => "Scheduling background compilation"
  | .compiled .. => "Compiled function"
  | .compilationFailed .. => "Background compilation failed, function stays interpreted"
  | .switched .. => "Handle switched to compiled code"
  | .misfit .. => "Compiled code cannot serve declared signature, staying interpreted"

def fields : LogRecord → List (String × String)
  | .creatingEngine threshold tiering scheduler =>
    [("threshold", toString threshold), ("tiering", toString tiering),
      ("scheduler", scheduler.name)]
  | .poolStarted => []
  | .tracking function => [("function", function)]
  | .scheduling function count scheduler =>
    [("function", function), ("count", toString count), ("scheduler", scheduler.name)]
  | .compiled function shape adapted =>
    [("function", function), ("shape", shape.display), ("adapted", toString adapted)]
  | .compilationFailed function error => [("function", function), ("error", error.message)]
  | .switched function adapted => [("function", function), ("adapted", toString adapted)]
  | .misfit function mismatch => [("function", function), ("error", mismatch.message)]

end LogRecord

inductive Event where
  /-- The compiler was asked for the code of a function. -/
  | requested (controller : ControllerId)
  /-- The interpreter ran a call. -/
  | interpreted (handle : HandleId) (controller : ControllerId)
  /-- Compiled code ran a call. -/
  | entered (handle : HandleId) (shape : Shape) (adapted : Bool)
  | logged (thread : Thread) (record : LogRecord)
  deriving DecidableEq, Repr

end HotPath

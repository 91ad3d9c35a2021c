import HotPath.Session.Names
import HotPath.Tier.Dispatch
import HotPath.Tier.Start
import HotPath.Tier.Stats

/-!
A host at work with an engine: a session gives names to definitions, cells, handles and held
controllers, and takes steps that speak of them by name. A step that names something that does not
exist does nothing. Background threads are given the time to finish after every call.
-/

namespace HotPath

structure Session where
  setup : Setup
  engine : Engine
  definitions : Names Definition := []
  /-- Number of definitions built so far. -/
  built : Nat := 0
  cells : Names CellId := []
  handles : Names HandleId := []
  /-- Controllers kept alive under a name. -/
  holds : Names ControllerId := []
  /-- The deferred schedulers that the session installed, in order. -/
  queues : List SchedulerId := []

namespace Session

/-- A cell of a closure: one with a name, or a fresh one. -/
inductive CellSource where
  | named (name : String)
  | fresh (value : Value)

inductive SchedulerChoice where
  /-- Leave the scheduler as it is. -/
  | keep
  /-- Install a new one, to be drained through the engine or not. -/
  | install (kind : SchedulerKind) (drained : Bool)

inductive Step where
  | define (name : String) (draft : Draft)
  | showDefinition (name : String)
  | makeCell (name : String) (value : Value)
  | writeCell (name : String) (value : Value)
  | readCell (name : String)
  | bind (handle definition : String) (closure : Option (List CellSource))
  /-- Call a handle on the same arguments again and again. -/
  | call (handle : String) (args : List Value) (times : Nat)
  /-- Call a handle again and again on slots that keep what was written to them. -/
  | invoke (handle : String) (args : List Value) (times : Nat)
  /-- Call a handle from several threads. -/
  | callThreads (handle : String) (args : List Value) (threads times : Nat)
  /-- Compile from several threads. -/
  | compileThreads (definition : String) (threads : Nat)
  | showHandle (handle : String)
  | dropHandle (handle : String)
  | showController (definition : String)
  | hold (name definition : String)
  | unhold (name : String)
  | showHeld (name : String)
  | isHeld (name definition : String)
  | compileHeld (name : String)
  | recordCalls (name : String) (times : Nat)
  | compileNow (definition : String)
  | release (definition : String)
  | runPending
  | drain (queue : Nat)
  | useScheduler (choice : SchedulerChoice)
  | showServices
  | countTracked
  | showCounts
  | showStats

structure Counts where
  interpreted : Nat
  requested : Nat
  /-- Pending and submitted tasks of each installed queue. -/
  queues : List (Nat × Nat)

inductive Answer where
  | missing
  | done
  | defined (number : Nat)
  | rejected (error : DefinitionError)
  | definition (definition : Definition)
  | value (value : Value)
  | bound (state : HandleState) (compiled : Bool)
  | unbound (error : BindError)
  /-- The last of some calls, if there was one. -/
  | called (last : Option (Outcome Value)) (slots : List Value) (state : HandleState)
  | calledThreads (calls : Nat) (outcomes : List (Outcome Value)) (state : HandleState)
  | compiled (result : Except CompileError Unit)
  | compiledThreads (results : List (Except CompileError Unit))
  | handle (handle : Handle) (state : HandleState)
  | controller (controller : Controller)
  | recorded (count : Nat) (promotion : Promotion)
  | truth (b : Bool)
  | count (n : Nat)
  | services (interprets : Bool) (scheduler : SchedulerKind) (policy : Policy)
  | counts (counts : Counts)
  | stats (stats : Engine.Stats)

end Session

end HotPath

/-!
The promotion of one function, and the state of one handle as a host sees it.
-/

namespace HotPath

/-- How far a function has come from the interpreter to compiled code. -/
inductive Promotion where
  /-- Interpreted, no compilation requested. -/
  | cold
  /-- Background compilation handed to a scheduler. -/
  | scheduled
  /-- Compiled code is published. -/
  | compiled
  /-- Compilation failed; the function stays interpreted for good. -/
  | failed
  deriving DecidableEq, Repr, Inhabited

namespace Promotion

def name : Promotion → String
  | .cold => "Cold"
  | .scheduled => "Scheduled"
  | .compiled => "Compiled"
  | .failed => "Failed"

/-- The promotion a byte stands for; bytes without a meaning stand for cold. -/
def ofByte (byte : UInt8) : Promotion :=
  if byte = 1 then .scheduled
  else if byte = 2 then .compiled
  else if byte = 3 then .failed
  else .cold

end Promotion

/-- The tier of a handle, in the order in which it advances. -/
inductive HandleState where
  /-- Served by the interpreter, no compiled code in sight. -/
  | cold
  /-- Still interpreted, compilation scheduled or just published. -/
  | hotPending
  /-- Served by compiled code. -/
  | warm
  deriving DecidableEq, Repr

namespace HandleState

def name : HandleState → String
  | .cold => "Cold"
  | .hotPending => "HotPending"
  | .warm => "Warm"

def rank : HandleState → Nat
  | .cold => 0
  | .hotPending => 1
  | .warm => 2

def all : List HandleState := [.cold, .hotPending, .warm]

def ofName? (text : String) : Option HandleState := all.find? fun state => state.name == text

def sort (states : List HandleState) : List HandleState :=
  states.mergeSort fun a b => a.rank ≤ b.rank

end HandleState

def defaultThreshold : Nat := 32

/-- Counting of calls stops here. -/
def maxExecutionCount : Nat := 4294967294

structure Policy where
  /-- The number of counted calls that triggers background compilation. -/
  threshold : Nat := defaultThreshold
  /-- Whether functions are promoted at all. -/
  enabled : Bool := true
  deriving DecidableEq, Repr, Inhabited

end HotPath

import HotPath.Fault
import HotPath.Native.Shape

/-!
How a call ends. Besides a value or an error of the function there are crashes, met by code that
does not keep to its shape and by frames too large to be made, and the loop allowance running out,
which stands for a call that never ends.
-/

namespace HotPath

/-- Compiled code of a shape that cannot serve a declared signature. -/
structure Mismatch where
  signature : Signature
  got : Shape
  deriving DecidableEq, Repr

def Mismatch.message (mismatch : Mismatch) : String :=
  s!"Signature mismatch: native shape {mismatch.got.display} cannot serve " ++
    mismatch.signature.display

inductive Crash where
  /-- Code read or wrote a slot its frame does not have. -/
  | missingSlot
  /-- A frame has no room for the locals it is to hold. -/
  | frameOverflow
  /-- A handle met compiled code that does not fit its signature. -/
  | misfit (mismatch : Mismatch)
  deriving DecidableEq, Repr

inductive Outcome (α : Type) where
  | value (result : α)
  | fault (error : Fault)
  | crash (cause : Crash)
  | exhausted
  deriving Inhabited

def Outcome.map {α β : Type} (f : α → β) : Outcome α → Outcome β
  | .value result => .value (f result)
  | .fault error => .fault error
  | .crash cause => .crash cause
  | .exhausted => .exhausted

/-- A finished call under a declared signature. Nobody is told the slots after a crash. -/
structure Reply where
  outcome : Outcome Value
  slots : List Value
  store : Store
  deriving Inhabited

end HotPath

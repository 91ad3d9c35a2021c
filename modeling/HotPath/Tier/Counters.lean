/-!
Counters of one function's tiers, and their sums. Counters are 64 bits wide; a sum that does not
fit is no number at all.
-/

namespace HotPath

structure Counters where
  /-- Calls served by the interpreter. -/
  interpreted : Nat := 0
  /-- Background compilations handed to a scheduler. -/
  scheduled : Nat := 0
  /-- Compilations that published code. -/
  completed : Nat := 0
  failed : Nat := 0
  /-- Handles that switched from the interpreter to compiled code. -/
  promoted : Nat := 0
  /-- Microseconds spent generating code. -/
  micros : Nat := 0
  deriving DecidableEq, Repr, Inhabited

/-- The sum of two 64-bit counts, if it fits. -/
def addCount? (a b : Nat) : Option Nat :=
  if a + b < UInt64.size then some (a + b) else none

namespace Counters

def add? (a b : Counters) : Option Counters := do
  return {
    interpreted := ← addCount? a.interpreted b.interpreted
    scheduled := ← addCount? a.scheduled b.scheduled
    completed := ← addCount? a.completed b.completed
    failed := ← addCount? a.failed b.failed
    promoted := ← addCount? a.promoted b.promoted
    micros := ← addCount? a.micros b.micros }

def total? (all : List Counters) : Option Counters := all.foldlM add? {}

def countToFloat (n : Nat) : Float := (UInt64.ofNat n).toFloat

/-- Mean time of code generation over the attempts, zero without one; none if the
number of attempts does not fit. -/
def meanMicros? (counters : Counters) : Option Float := do
  let attempts ← addCount? counters.completed counters.failed
  return if attempts = 0 then 0 else countToFloat counters.micros / countToFloat attempts

end Counters

end HotPath

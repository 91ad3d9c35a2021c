import HotPath.Tier.Engine

/-!
Numbers about the functions that an engine tracks.
-/

namespace HotPath.Engine

/-- Numbers about the tracked functions. -/
structure Stats where
  tracked : Nat
  compiled : Nat
  failed : Nat
  /-- Counters summed over the tracked functions, if the sums fit. -/
  totals : Option Counters
  deriving DecidableEq, Repr

def trackedControllers (engine : Engine) : List Controller :=
  engine.registry.filterMap fun entry => engine.controllers[entry.2]?

def stats (engine : Engine) : Stats :=
  let controllers := engine.trackedControllers
  { tracked := controllers.length
    compiled := controllers.countP (·.promotion == .compiled)
    failed := controllers.countP (·.promotion == .failed)
    totals := Counters.total? (controllers.map (·.counters)) }

end HotPath.Engine

import HotPath.Config.Basic
import HotPath.Tier.Engine

/-!
Starting an engine, from a configuration or from parts, and replacing its scheduler.
-/

namespace HotPath.Engine

/-- Make and install a scheduler. A dedicated pool starts its threads at once. -/
def useScheduler (setup : Setup) (engine : Engine) (kind : SchedulerKind) (drained : Bool) :
    Engine :=
  let engine := if kind = .dedicated then engine.log setup .poolStarted else engine
  engine.install kind drained

/-- An engine as it is before any scheduler was chosen for it: background
compilation goes to the shared pool. -/
def plain : Engine := ({} : Engine).install .shared false

/-- An engine with the scheduler and the policy of a configuration. -/
def ofConfig (setup : Setup) (config : Config) : Except ConfigError (Setup × Engine) := do
  config.validate
  let setup := { setup with policy := config.policy }
  let engine := ({} : Engine).useScheduler setup config.scheduler (config.scheduler = .deferred)
  return (setup, engine.log setup
    (.creatingEngine config.threshold.toNat config.tiering config.scheduler))

end HotPath.Engine

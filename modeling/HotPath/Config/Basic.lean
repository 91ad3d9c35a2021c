import HotPath.Schedule.Kind
import HotPath.Text.Quoted
import HotPath.Tier.Promotion

/-!
The configuration of a tiered engine.
-/

namespace HotPath

structure Config where
  /-- Interpreted calls before compilation is scheduled. -/
  threshold : UInt32 := 32
  /-- Whether functions are promoted at all. -/
  tiering : Bool := true
  scheduler : SchedulerKind := .shared
  /-- Threads of a dedicated pool, zero for one per processor. -/
  threads : UInt64 := 0
  deriving DecidableEq, Repr, Inhabited

/-- The environment variables that override a configuration. -/
inductive Variable where
  | threshold | tiering | scheduler | threads
  deriving DecidableEq, Repr

def Variable.name : Variable → String
  | .threshold => "TIERED_LAMBDA_COMPILE_THRESHOLD"
  | .tiering => "TIERED_LAMBDA_TIERING"
  | .scheduler => "TIERED_LAMBDA_SCHEDULER"
  | .threads => "TIERED_LAMBDA_COMPILE_THREADS"

inductive ConfigError where
  /-- A file could not be read. -/
  | io (reason : String)
  /-- A text is no configuration. -/
  | parse
  /-- A variable does not have a value of its kind. -/
  | badVariable (var : Variable) (value : String)
  /-- The threshold is zero. -/
  | zeroThreshold
  deriving DecidableEq, Repr

/-- The text of an error; that of a text which is no configuration is left open. -/
def ConfigError.message : ConfigError → String
  | .io reason => "Config I/O error: " ++ reason
  | .parse => "Config parse error: "
  | .badVariable var value =>
    "Invalid value for " ++ var.name ++ ": " ++ Text.quote value
  | .zeroThreshold => "Invalid config: compilation_threshold must be at least 1"

def ConfigError.hasSource : ConfigError → Bool
  | .io _ | .parse => true
  | .badVariable .. | .zeroThreshold => false

namespace Config

/-- Compile on the first call. -/
def eager : Config := { threshold := 1 }

/-- Never compile in the background. -/
def interpretOnly : Config := { tiering := false }

def validate (config : Config) : Except ConfigError Unit :=
  if config.threshold = 0 then .error .zeroThreshold else .ok ()

def policy (config : Config) : Policy := ⟨config.threshold.toNat, config.tiering⟩

end Config

end HotPath

import HotPath.Config.Basic
import HotPath.Text.Blank

/-!
Overriding a configuration by variables. Each variable has a grammar of its own, applied to its
value without the blanks around it. The first variable with an ill-formed value is reported, in the
order threshold, tiering, scheduler, threads; the result is validated last.
-/

namespace HotPath.Config

/-- A decimal number below a bound: digits after an optional plus sign. -/
def decimalBelow? (bound : Nat) (text : List Char) : Option Nat :=
  let digits := match text with
    | '+' :: rest => rest
    | _ => text
  if digits.isEmpty || !digits.all Char.isDigit then none
  else
    let n := digits.foldl (fun n c => 10 * n + (c.toNat - '0'.toNat)) 0
    if n < bound then some n else none

def readThreshold? (value : String) : Option UInt32 :=
  (decimalBelow? UInt32.size (Text.trimChars value.toList)).map UInt32.ofNat

def readThreads? (value : String) : Option UInt64 :=
  (decimalBelow? UInt64.size (Text.trimChars value.toList)).map UInt64.ofNat

def readTiering? (value : String) : Option Bool :=
  let text := Text.trim value
  if text = "1" ∨ text = "true" ∨ text = "on" then some true
  else if text = "0" ∨ text = "false" ∨ text = "off" then some false
  else none

def readScheduler? (value : String) : Option SchedulerKind :=
  SchedulerKind.ofName? (String.ofList ((Text.trimChars value.toList).map Char.toLower))

/-- The value of a variable read by its grammar, or a default if it is not set. -/
def readVariable {α : Type} (var : Variable) (read? : String → Option α) (default : α) :
    Option String → Except ConfigError α
  | none => .ok default
  | some value =>
    match read? value with
    | some result => .ok result
    | none => .error (.badVariable var value)

def withOverrides (config : Config) (lookup : Variable → Option String) :
    Except ConfigError Config := do
  let threshold ← readVariable .threshold readThreshold? config.threshold (lookup .threshold)
  let tiering ← readVariable .tiering readTiering? config.tiering (lookup .tiering)
  let scheduler ← readVariable .scheduler readScheduler? config.scheduler (lookup .scheduler)
  let threads ← readVariable .threads readThreads? config.threads (lookup .threads)
  let result : Config := { threshold, tiering, scheduler, threads }
  result.validate
  return result

def parseScheduler (text : String) : Except ConfigError SchedulerKind :=
  match readScheduler? text with
  | some kind => .ok kind
  | none => .error (.badVariable .scheduler text)

end HotPath.Config

import HotPath.Config.Basic
import HotPath.Toml.Document

/-!
Configurations as TOML text. Absent keys keep their defaults and unknown keys are ignored; a key
with a value of another kind or range makes the text no configuration.
-/

namespace HotPath.Config

open Toml (Item Table)

/-- The value of a key read by its kind, or a default without the key. -/
def readKey {α : Type} (table : Table) (key : String) (read? : Item → Option α) (default : α) :
    Except ConfigError α :=
  match table.lookup key with
  | none => .ok default
  | some item =>
    match read? item with
    | some result => .ok result
    | none => .error .parse

def integerBelow? (bound : Nat) : Item → Option Nat
  | .integer n => if 0 ≤ n ∧ n < bound then some n.toNat else none
  | _ => none

def boolean? : Item → Option Bool
  | .boolean b => some b
  | _ => none

def isEmptyItem : Item → Bool
  | .array [] | .table _ [] | .tables [] => true
  | _ => false

/-- A scheduler is given by its name: as a string, or as the only key of a table,
with an empty table or array as its value. -/
def scheduler? : Item → Option SchedulerKind
  | .string text => SchedulerKind.ofName? text
  | .table _ [(name, item)] => if isEmptyItem item then SchedulerKind.ofName? name else none
  | _ => none

def ofTable (table : Table) : Except ConfigError Config := do
  let defaults : Config := {}
  let threshold ← readKey table "compilation_threshold" (integerBelow? UInt32.size)
    defaults.threshold.toNat
  let tiering ← readKey table "tiering_enabled" boolean? defaults.tiering
  let scheduler ← readKey table "scheduler" scheduler? defaults.scheduler
  let threads ← readKey table "compile_threads" (integerBelow? UInt64.size) defaults.threads.toNat
  return { threshold := .ofNat threshold, tiering, scheduler, threads := .ofNat threads }

def parse (text : String) : Except ConfigError Config :=
  match Toml.parse? text with
  | none => .error .parse
  | some table => do
    let config ← ofTable table
    config.validate
    return config

/-- Read a configuration from the contents of a file, if there is such a file. -/
def load (contents : Option ByteArray) : Except ConfigError Config :=
  match contents with
  | none => .error (.io "No such file or directory (os error 2)")
  | some bytes =>
    match String.fromUTF8? bytes with
    | none => .error (.io "stream did not contain valid UTF-8")
    | some text => parse text

def lines (config : Config) : List String :=
  [s!"compilation_threshold = {config.threshold.toNat}",
   s!"tiering_enabled = {config.tiering}",
   "scheduler = \"" ++ config.scheduler.name ++ "\"",
   s!"compile_threads = {config.threads.toNat}"]

/-- A configuration as TOML text; a number of threads that is no TOML integer has
none. -/
def toText? (config : Config) : Option String :=
  if config.threads.toNat < Nat.pow 2 63 then
    some (String.join (config.lines.map (· ++ "\n")))
  else none

end HotPath.Config

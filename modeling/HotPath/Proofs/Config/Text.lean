import HotPath.Config.Text
import HotPath.Proofs.Toml.Line

/-!
Configurations as TOML text, and back: whichever keys are given, and in whatever order, each key
that is given has its value and the others have their defaults.
-/

namespace HotPath.Config

open Toml (Item Table)

/-- The keys of a configuration. -/
inductive Key where
  | threshold | tiering | scheduler | threads
  deriving DecidableEq, Repr

namespace Key

def all : List Key := [.threshold, .tiering, .scheduler, .threads]

def name : Key → String
  | .threshold => "compilation_threshold"
  | .tiering => "tiering_enabled"
  | .scheduler => "scheduler"
  | .threads => "compile_threads"

theorem name_injective {key other : Key} (same : key.name = other.name) : key = other := by
  cases key <;> cases other <;> first | rfl | exact absurd same (by decide)

theorem bare_name (key : Key) : Toml.Bare key.name := by
  cases key <;> decide

end Key

def valueText (config : Config) : Key → String
  | .threshold => toString config.threshold.toNat
  | .tiering => toString config.tiering
  | .scheduler => "\"" ++ config.scheduler.name ++ "\""
  | .threads => toString config.threads.toNat

def line (config : Config) (key : Key) : String := key.name ++ " = " ++ config.valueText key

/-- A configuration with the defaults for all but some keys. -/
def restrictedTo (config : Config) (keys : List Key) : Config where
  threshold := if .threshold ∈ keys then config.threshold else ({} : Config).threshold
  tiering := if .tiering ∈ keys then config.tiering else ({} : Config).tiering
  scheduler := if .scheduler ∈ keys then config.scheduler else ({} : Config).scheduler
  threads := if .threads ∈ keys then config.threads else ({} : Config).threads

theorem restrictedTo_all (config : Config) : config.restrictedTo Key.all = config := rfl

theorem lines_eq (config : Config) : config.lines = Key.all.map config.line := rfl

/-! ## Reading the lines -/

def item (config : Config) : Key → Item
  | .threshold => .integer config.threshold.toNat
  | .tiering => .boolean config.tiering
  | .scheduler => .string config.scheduler.name
  | .threads => .integer config.threads.toNat

theorem reads_value {config : Config} (small : config.threads.toNat < 2 ^ 63) (key : Key) :
    Toml.Reads (config.valueText key).toList (config.item key) := by
  cases key with
  | threshold =>
    rw [valueText, Nat.toString_eq_ofList_toDigits, String.toList_ofList]
    exact Toml.reads_toDigits (Nat.lt_trans config.threshold.toNat_lt (by decide))
  | tiering =>
    cases enabled : config.tiering with
    | true => simpa [valueText, item, enabled] using ⟨⟨_, _, rfl, rfl⟩, fun _ => rfl⟩
    | false => simpa [valueText, item, enabled] using ⟨⟨_, _, rfl, rfl⟩, fun _ => rfl⟩
  | scheduler =>
    rw [valueText, item]
    cases config.scheduler <;> exact ⟨⟨_, _, rfl, rfl⟩, fun _ => rfl⟩
  | threads =>
    rw [valueText, Nat.toString_eq_ofList_toDigits, String.toList_ofList]
    exact Toml.reads_toDigits small

def statement (config : Config) (key : Key) : Toml.Statement :=
  .assign [key.name] (config.item key)

/-- A text that gives some keys their values, in order and line by line; the last line may lack
its line feed. -/
inductive Written (config : Config) : List Key → List Char → Prop where
  | none : Written config [] []
  | last (key : Key) : Written config [key] (config.line key).toList
  | line (key : Key) {keys : List Key} {text : List Char} (rest : Written config keys text) :
      Written config (key :: keys) ((config.line key).toList ++ '\n' :: text)

section

variable {config : Config} {keys : List Key} {text : List Char}

theorem toList_line (config : Config) (key : Key) (rest : List Char) :
    (config.line key).toList ++ rest =
      key.name.toList ++ ' ' :: '=' :: ' ' :: ((config.valueText key).toList ++ rest) := by
  simp [line]

theorem Written.statements (small : config.threads.toNat < 2 ^ 63)
    (written : Written config keys text) {fuel : Nat} (enough : keys.length < fuel) :
    Toml.statementsWithin fuel text = some (keys.map config.statement) := by
  induction written generalizing fuel with
  | none =>
    cases fuel with
    | zero => cases enough
    | succ fuel => rfl
  | last key =>
    match fuel, enough with
    | fuel + 2, _ =>
      have read := Toml.statementsWithin_line key.bare_name (reads_value small key) .text (fuel + 1)
      rw [← toList_line, List.append_nil] at read
      exact read
  | @line key keys text rest inductionHypothesis =>
    cases fuel with
    | zero => cases enough
    | succ fuel =>
      have read := Toml.statementsWithin_line key.bare_name (reads_value small key) (.line text)
        fuel
      rw [toList_line, read, inductionHypothesis (Nat.lt_of_succ_lt_succ enough)]
      rfl

/-- A line is not empty, and does not start with a byte order mark. -/
theorem line_start (config : Config) (key : Key) :
    ∃ first others, (config.line key).toList = first :: others ∧ first ≠ '\ufeff' := by
  rw [← List.append_nil (config.line key).toList, toList_line]
  cases key <;> exact ⟨_, _, rfl, by decide⟩

theorem Written.length_le (written : Written config keys text) : keys.length ≤ text.length := by
  induction written with
  | none => exact Nat.le_refl 0
  | last key =>
    obtain ⟨first, others, same, -⟩ := config.line_start key
    simp [same]
  | line key rest inductionHypothesis =>
    rw [List.length_append, List.length_cons, List.length_cons]
    omega

theorem Written.unmarked (written : Written config keys text) (rest : List Char) :
    text ≠ '\ufeff' :: rest := by
  intro marked
  cases written with
  | none => cases marked
  | last key =>
    obtain ⟨first, others, same, unmarked⟩ := config.line_start key
    rw [same] at marked
    exact unmarked (List.cons.inj marked).1
  | line key =>
    obtain ⟨first, others, same, unmarked⟩ := config.line_start key
    rw [same] at marked
    exact unmarked (List.cons.inj marked).1

/-! ## The table of a document -/

def entry (config : Config) (key : Key) : String × Item := (key.name, config.item key)

theorem lookup_entries (config : Config) (keys : List Key) (key : Key) :
    (keys.map config.entry).lookup key.name =
      if key ∈ keys then some (config.item key) else none := by
  induction keys with
  | nil => rfl
  | cons other rest inductionHypothesis =>
    by_cases same : key = other
    · subst other
      simp [entry]
    · have apart : (key.name == other.name) = false :=
        beq_false_of_ne fun names => same (Key.name_injective names)
      simp [entry, List.lookup_cons, apart, same, inductionHypothesis]

/-- Keys that are given once each are all taken. -/
theorem fillTable_entries (config : Config) {before keys : List Key}
    (once : (before ++ keys).Nodup) :
    Toml.fillTable (keys.map config.statement) (before.map config.entry) =
      some ((before ++ keys).map config.entry) := by
  induction keys generalizing before with
  | nil => simp [Toml.fillTable]
  | cons key rest inductionHypothesis =>
    have fresh : key ∉ before := by
      intro member
      exact (List.nodup_append.mp once).2.2 key member key List.mem_cons_self rfl
    have defined : Toml.Table.define? (before.map config.entry) [key.name] (config.item key) =
        some ((before ++ [key]).map config.entry) := by
      have absent := (config.lookup_entries before key).trans (if_neg fresh)
      simp only [Toml.Table.define?, List.getLast?_singleton, Option.bind_eq_bind,
        Option.bind_some, List.dropLast_singleton, Table.addKey?, absent]
      simp [entry]
    have once' : ((before ++ [key]) ++ rest).Nodup := by simpa using once
    rw [List.map_cons, statement, Toml.fillTable, defined]
    simpa using inductionHypothesis once'

theorem openAll_statements (config : Config) (keys : List Key) (root : Table) :
    Toml.openAll (keys.map config.statement) root = some root := by
  induction keys with
  | nil => rfl
  | cons key rest inductionHypothesis => exact inductionHypothesis

theorem Written.parse? {text : String} (small : config.threads.toNat < 2 ^ 63)
    (once : keys.Nodup) (written : Written config keys text.toList) :
    Toml.parse? text = some (keys.map config.entry) := by
  have read : Toml.statements text = some (keys.map config.statement) := by
    unfold Toml.statements
    split
    · exact absurd ‹_› (written.unmarked _)
    · exact written.statements small (Nat.lt_succ_of_le written.length_le)
  have filled : Toml.fillTable (keys.map config.statement) [] = some (keys.map config.entry) :=
    @fillTable_entries config [] keys once
  rw [Toml.parse?, read, Option.bind_eq_bind, Option.bind_some, Toml.ofStatements, filled]
  exact config.openAll_statements keys _

/-! ## The configuration -/

theorem readKey_entries (config : Config) (keys : List Key) (key : Key) {α : Type}
    (read? : Item → Option α) {result : α} (reads : read? (config.item key) = some result)
    (default : α) :
    readKey (keys.map config.entry) key.name read? default =
      .ok (if key ∈ keys then result else default) := by
  rw [readKey, lookup_entries]
  by_cases given : key ∈ keys <;> simp [given, reads]

theorem integerBelow?_of_lt {n bound : Nat} (small : n < bound) :
    integerBelow? bound (.integer n) = some n := by
  simp [integerBelow?, small]

theorem ofTable_entries (config : Config) (keys : List Key) :
    ofTable (keys.map config.entry) = .ok (config.restrictedTo keys) := by
  have threshold := config.readKey_entries keys .threshold (integerBelow? UInt32.size)
    (integerBelow?_of_lt config.threshold.toNat_lt) ({} : Config).threshold.toNat
  have tiering := config.readKey_entries keys .tiering boolean? rfl ({} : Config).tiering
  have scheduler := config.readKey_entries keys .scheduler scheduler?
    (SchedulerKind.ofName?_name config.scheduler) ({} : Config).scheduler
  have threads := config.readKey_entries keys .threads (integerBelow? UInt64.size)
    (integerBelow?_of_lt config.threads.toNat_lt) ({} : Config).threads.toNat
  simp only [Key.name] at threshold tiering scheduler threads
  simp only [ofTable, threshold, tiering, scheduler, threads, ← apply_ite UInt32.toNat,
    ← apply_ite UInt64.toNat, bind, Except.bind, UInt32.ofNat_toNat, UInt64.ofNat_toNat]
  rfl

theorem Written.parse {text : String} (positive : config.threshold ≠ 0)
    (small : config.threads.toNat < 2 ^ 63) (once : keys.Nodup)
    (written : Written config keys text.toList) :
    parse text = .ok (config.restrictedTo keys) := by
  have accepted : (config.restrictedTo keys).validate = .ok () := by
    apply if_neg
    simp only [restrictedTo]
    split
    · exact positive
    · decide
  rw [Config.parse, written.parse? small once]
  simp only [ofTable_entries, bind, Except.bind, accepted]
  rfl

theorem written_join (config : Config) (keys : List Key) :
    Written config keys (String.join (keys.map fun key => config.line key ++ "\n")).toList := by
  induction keys with
  | nil => exact .none
  | cons key rest inductionHypothesis =>
    rw [List.map_cons, String.join_cons, String.toList_append, String.toList_append,
      List.append_assoc]
    exact .line key inductionHypothesis

theorem written_intercalate (config : Config) (keys : List Key) :
    Written config keys ("\n".intercalate (keys.map config.line)).toList := by
  induction keys with
  | nil =>
    rw [List.map_nil, String.intercalate_nil]
    exact .none
  | cons key rest inductionHypothesis =>
    cases rest with
    | nil =>
      rw [List.map_singleton, String.intercalate_singleton]
      exact .last key
    | cons other others =>
      rw [List.map_cons, List.map_cons, String.intercalate_cons_cons, String.toList_append,
        String.toList_append, List.append_assoc]
      exact .line key inductionHypothesis

/-- Whatever a configuration is read from, its threshold is not zero. -/
theorem threshold_of_parse {text : String} (read : parse text = .ok config) :
    config.threshold ≠ 0 := by
  unfold parse at read
  split at read
  · cases read
  · rename_i table _
    cases made : ofTable table with
    | error error => simp [made, bind, Except.bind] at read
    | ok found =>
      by_cases zero : found.threshold = 0
      · simp [made, bind, Except.bind, validate, zero] at read
      · have same : found = config := by
          simpa [made, bind, Except.bind, validate, zero, pure, Except.pure] using read
        exact same ▸ zero

end

/-- Any keys of a configuration, in any order, are read back with defaults for the others, and so
is its own text; no text gives a threshold of zero. -/
theorem parse_faithful :
    (∀ (config : Config) (keys : List Key), config.threshold ≠ 0 →
      config.threads.toNat < 2 ^ 63 → keys.Nodup →
        parse (String.join (keys.map fun key => config.line key ++ "\n")) =
            .ok (config.restrictedTo keys) ∧
          parse ("\n".intercalate (keys.map config.line)) = .ok (config.restrictedTo keys)) ∧
    (∀ config : Config, config.threshold ≠ 0 → config.threads.toNat < 2 ^ 63 →
      ∃ text, config.toText? = some text ∧ parse text = .ok config) ∧
    ∀ text config, parse text = .ok config → config.threshold ≠ 0 := by
  refine ⟨fun config keys positive small once => ⟨?_, ?_⟩, fun config positive small => ?_,
    fun text config read => threshold_of_parse read⟩
  · exact (config.written_join keys).parse positive small once
  · exact (config.written_intercalate keys).parse positive small once
  · refine ⟨_, if_pos small, ?_⟩
    have written := config.written_join Key.all
    rw [lines_eq, List.map_map]
    exact (written.parse positive small (by decide)).trans (congrArg _ config.restrictedTo_all)

theorem parse_faithful_partial :
    let config : Config := {
      threshold := 4294967295, tiering := false, scheduler := .deferred
      threads := 9223372036854775807 }
    let keys : List Key := [.threads, .scheduler]
    config.threshold ≠ 0 ∧ config.threads.toNat < 2 ^ 63 ∧ keys.Nodup ∧
      parse (String.join (keys.map fun key => config.line key ++ "\n")) =
        .ok { scheduler := .deferred, threads := 9223372036854775807 } ∧
      ∃ text, config.toText? = some text ∧ parse text = .ok config := by
  intro config keys
  have positive : config.threshold ≠ 0 := by decide
  have small : config.threads.toNat < 2 ^ 63 := by decide
  have once : keys.Nodup := by decide
  obtain ⟨lines, whole, -⟩ := parse_faithful
  exact ⟨positive, small, once, (lines config keys positive small once).1,
    whole config positive small⟩

end HotPath.Config

import HotPath.Proofs.Config.Settings
import Mathlib.Order.WellFounded

/-!
Overriding a configuration, exactly. The variables are independent of each other but for the order
in which ill-formed values are reported, and the threshold is looked at last.
-/

namespace HotPath

open Text (Blanks)

/-- The place of a variable in the order in which they are read. -/
def Variable.place : Variable → Nat
  | .threshold => 0
  | .tiering => 1
  | .scheduler => 2
  | .threads => 3

namespace Config

def setting (config : Config) : (var : Variable) → var.Setting
  | .threshold => config.threshold
  | .tiering => config.tiering
  | .scheduler => config.scheduler
  | .threads => config.threads

/-- What one variable sets: what its value means, or the setting of the base if it has none. -/
def Settles (base : Config) (lookup : Variable → Option String) (var : Variable)
    (setting : var.Setting) : Prop :=
  match lookup var with
  | none => setting = base.setting var
  | some value => var.Means value setting

/-- Every setting of a configuration is the one that its variable sets. -/
def Overridden (base : Config) (lookup : Variable → Option String) (result : Config) : Prop :=
  ∀ var, base.Settles lookup var (result.setting var)

def Accepts (lookup : Variable → Option String) (var : Variable) : Prop :=
  ∀ value, lookup var = some value → var.WellFormed value

/-- The first variable with an ill-formed value, in the order of reading. -/
structure FirstIllFormed (lookup : Variable → Option String) (var : Variable) (value : String) :
    Prop where
  given : lookup var = some value
  illFormed : ¬ var.WellFormed value
  earlier : ∀ other, other.place < var.place → Accepts lookup other

variable {base result : Config} {lookup : Variable → Option String} {var : Variable}

/-! ## One variable -/

def take (base : Config) (lookup : Variable → Option String) (var : Variable) :
    Except ConfigError var.Setting :=
  readVariable var var.read? (base.setting var) (lookup var)

theorem take_of_settles {setting : var.Setting} (settles : base.Settles lookup var setting) :
    base.take lookup var = .ok setting := by
  unfold Settles at settles
  unfold take
  cases given : lookup var with
  | none =>
    rw [given] at settles
    rw [settles]
    rfl
  | some value =>
    rw [given] at settles
    rw [readVariable, Variable.read?_eq_some_iff.mpr settles]

theorem take_of_illFormed {value : String} (given : lookup var = some value)
    (illFormed : ¬ var.WellFormed value) :
    base.take lookup var = .error (.badVariable var value) := by
  have unread : var.read? value = none :=
    Option.eq_none_iff_forall_ne_some.mpr fun setting read =>
      illFormed ⟨setting, Variable.read?_eq_some_iff.mp read⟩
  rw [take, given, readVariable, unread]

theorem Accepts.settles (accepts : Accepts lookup var) (base : Config) :
    ∃ setting, base.Settles lookup var setting := by
  unfold Settles
  cases given : lookup var with
  | none => exact ⟨_, rfl⟩
  | some value => exact accepts value given

theorem Accepts.take (accepts : Accepts lookup var) (base : Config) :
    ∃ setting, base.take lookup var = .ok setting :=
  (accepts.settles base).imp fun _ => take_of_settles

theorem Overridden.accepts (overridden : base.Overridden lookup result) (var : Variable) :
    Accepts lookup var := by
  intro value given
  have settles := overridden var
  rw [Settles, given] at settles
  exact ⟨_, settles⟩

/-! ## All variables -/

theorem exists_overridden (accepts : ∀ var, Accepts lookup var) (base : Config) :
    ∃ result, base.Overridden lookup result := by
  choose settings settles using fun var => (accepts var).settles base
  refine ⟨⟨settings .threshold, settings .tiering, settings .scheduler, settings .threads⟩, ?_⟩
  intro var
  cases var <;> exact settles _

/-- Either no variable has an ill-formed value, or there is a first one. -/
theorem accepts_or_first (lookup : Variable → Option String) :
    (∀ var, Accepts lookup var) ∨ ∃ var value, FirstIllFormed lookup var value := by
  by_cases accepts : ∀ var, Accepts lookup var
  · exact .inl accepts
  · right
    obtain ⟨var, refuses, least⟩ := WellFounded.has_min (measure Variable.place).wf
      {var | ¬ Accepts lookup var} (not_forall.mp accepts)
    obtain ⟨value, refuses⟩ := not_forall.mp refuses
    obtain ⟨given, illFormed⟩ := Classical.not_imp.mp refuses
    exact ⟨var, value, given, illFormed, fun other before =>
      not_not.mp fun refused => least other refused before⟩

theorem withOverrides_eq (base : Config) (lookup : Variable → Option String) :
    base.withOverrides lookup = do
      let threshold ← base.take lookup .threshold
      let tiering ← base.take lookup .tiering
      let scheduler ← base.take lookup .scheduler
      let threads ← base.take lookup .threads
      let result : Config := { threshold, tiering, scheduler, threads }
      result.validate
      return result := rfl

theorem withOverrides_of_overridden (overridden : base.Overridden lookup result) :
    base.withOverrides lookup =
      if result.threshold = 0 then .error .zeroThreshold else .ok result := by
  have taken (var : Variable) := take_of_settles (overridden var)
  rw [withOverrides_eq, taken .threshold, taken .tiering, taken .scheduler, taken .threads]
  by_cases zero : result.threshold = 0
  · have refused : result.validate = .error .zeroThreshold := if_pos zero
    rw [if_pos zero]
    exact congrArg (· >>= fun _ => pure result) refused
  · have accepted : result.validate = .ok () := if_neg zero
    rw [if_neg zero]
    exact congrArg (· >>= fun _ => pure result) accepted

theorem withOverrides_of_first {value : String} (first : FirstIllFormed lookup var value)
    (base : Config) : base.withOverrides lookup = .error (.badVariable var value) := by
  have failed : base.take lookup var = .error (.badVariable var value) :=
    take_of_illFormed first.given first.illFormed
  rw [withOverrides_eq]
  cases var with
  | threshold =>
    rw [failed]
    rfl
  | tiering =>
    obtain ⟨_, threshold⟩ := (first.earlier .threshold (by decide)).take base
    rw [threshold, failed]
    rfl
  | scheduler =>
    obtain ⟨_, threshold⟩ := (first.earlier .threshold (by decide)).take base
    obtain ⟨_, tiering⟩ := (first.earlier .tiering (by decide)).take base
    rw [threshold, tiering, failed]
    rfl
  | threads =>
    obtain ⟨_, threshold⟩ := (first.earlier .threshold (by decide)).take base
    obtain ⟨_, tiering⟩ := (first.earlier .tiering (by decide)).take base
    obtain ⟨_, scheduler⟩ := (first.earlier .scheduler (by decide)).take base
    rw [threshold, tiering, scheduler, failed]
    rfl

/-! ## The answer -/

theorem exists_overridden_iff :
    (∃ result, base.Overridden lookup result) ↔ ∀ var, Accepts lookup var :=
  ⟨fun ⟨_, overridden⟩ => overridden.accepts, fun accepts => exists_overridden accepts base⟩

/-- Everything that overriding can answer. -/
theorem withOverrides_cases (base : Config) (lookup : Variable → Option String) :
    (∃ result, base.Overridden lookup result ∧ result.threshold ≠ 0 ∧
      base.withOverrides lookup = .ok result) ∨
    (∃ result, base.Overridden lookup result ∧ result.threshold = 0 ∧
      base.withOverrides lookup = .error .zeroThreshold) ∨
    ∃ var value, FirstIllFormed lookup var value ∧
      base.withOverrides lookup = .error (.badVariable var value) := by
  rcases accepts_or_first lookup with accepts | ⟨var, value, first⟩
  · obtain ⟨result, overridden⟩ := exists_overridden accepts base
    have answer := withOverrides_of_overridden overridden
    by_cases zero : result.threshold = 0
    · exact .inr (.inl ⟨result, overridden, zero, answer.trans (if_pos zero)⟩)
    · exact .inl ⟨result, overridden, zero, answer.trans (if_neg zero)⟩
  · exact .inr (.inr ⟨var, value, first, withOverrides_of_first first base⟩)

theorem withOverrides_eq_ok_iff :
    base.withOverrides lookup = .ok result ↔
      base.Overridden lookup result ∧ result.threshold ≠ 0 := by
  constructor
  · intro done
    rcases base.withOverrides_cases lookup with ⟨other, overridden, nonzero, answer⟩ |
      ⟨_, _, _, answer⟩ | ⟨_, _, _, answer⟩
    · cases answer.symm.trans done
      exact ⟨overridden, nonzero⟩
    · cases answer.symm.trans done
    · cases answer.symm.trans done
  · rintro ⟨overridden, nonzero⟩
    rw [withOverrides_of_overridden overridden, if_neg nonzero]

theorem withOverrides_eq_badVariable_iff {value : String} :
    base.withOverrides lookup = .error (.badVariable var value) ↔
      FirstIllFormed lookup var value := by
  constructor
  · intro failed
    rcases base.withOverrides_cases lookup with ⟨_, _, _, answer⟩ | ⟨_, _, _, answer⟩ |
      ⟨other, found, first, answer⟩
    · cases answer.symm.trans failed
    · cases answer.symm.trans failed
    · cases answer.symm.trans failed
      exact first
  · exact fun first => withOverrides_of_first first base

theorem withOverrides_eq_zeroThreshold_iff :
    base.withOverrides lookup = .error .zeroThreshold ↔
      ∃ result, base.Overridden lookup result ∧ result.threshold = 0 := by
  constructor
  · intro failed
    rcases base.withOverrides_cases lookup with ⟨_, _, _, answer⟩ |
      ⟨result, overridden, zero, -⟩ | ⟨_, _, _, answer⟩
    · cases answer.symm.trans failed
    · exact ⟨result, overridden, zero⟩
    · cases answer.symm.trans failed
  · rintro ⟨result, overridden, zero⟩
    rw [withOverrides_of_overridden overridden, if_pos zero]

/-- A configuration whose settings are all said is the result, whatever the base. -/
theorem withOverrides_of_means (base : Config) {config : Config} (nonzero : config.threshold ≠ 0)
    (means : ∀ var, ∃ value, lookup var = some value ∧ var.Means value (config.setting var)) :
    base.withOverrides lookup = .ok config := by
  refine withOverrides_eq_ok_iff.mpr ⟨fun var => ?_, nonzero⟩
  obtain ⟨value, given, means⟩ := means var
  rw [Settles, given]
  exact means

/-- Overriding accepts exactly the grammars of the variables, and otherwise reports the first
offender; values that say a whole configuration give it over any base. -/
theorem overrides_exact :
    (∀ (base : Config) (lookup : Variable → Option String),
      (∀ result, base.withOverrides lookup = .ok result ↔
        base.Overridden lookup result ∧ result.threshold ≠ 0) ∧
      ((∃ result, base.Overridden lookup result) ↔
        ∀ var value, lookup var = some value → var.WellFormed value) ∧
      (∀ var value, base.withOverrides lookup = .error (.badVariable var value) ↔
        FirstIllFormed lookup var value) ∧
      (base.withOverrides lookup = .error .zeroThreshold ↔
        ∃ result, base.Overridden lookup result ∧ result.threshold = 0)) ∧
    (∀ (base config : Config) (lookup : Variable → Option String), config.threshold ≠ 0 →
      (∀ var, ∃ value, lookup var = some value ∧ var.Means value (config.setting var)) →
        base.withOverrides lookup = .ok config) ∧
    ∀ (base config : Config) (before after : Variable → String), config.threshold ≠ 0 →
      (∀ var, Blanks (before var).toList ∧ Blanks (after var).toList) →
        base.withOverrides (fun var =>
          some (before var ++ var.written (config.setting var) ++ after var)) = .ok config := by
  refine ⟨fun base lookup => ⟨fun _ => withOverrides_eq_ok_iff, exists_overridden_iff,
    fun _ _ => withOverrides_eq_badVariable_iff, withOverrides_eq_zeroThreshold_iff⟩,
    fun base config lookup => base.withOverrides_of_means, ?_⟩
  intro base config before after nonzero blanks
  refine base.withOverrides_of_means nonzero fun var => ⟨_, rfl, ?_⟩
  exact var.means_written _ (blanks var).1 (blanks var).2

theorem overrides_exact_extremes :
    let config : Config := {
      threshold := 4294967295, tiering := false, scheduler := .deferred
      threads := 18446744073709551615 }
    let loose : Variable → Option String
      | .threshold => some "+004294967295"
      | .tiering => some "\toff"
      | .scheduler => some "DeferreD\n"
      | .threads => some "18446744073709551615"
    config.threshold ≠ 0 ∧
      (∀ var, ∃ value, loose var = some value ∧ var.Means value (config.setting var)) ∧
      interpretOnly.withOverrides loose = .ok config ∧
      interpretOnly.withOverrides (fun var =>
        some ("\u3000" ++ var.written (config.setting var) ++ " ")) = .ok config := by
  intro config loose
  have nonzero : config.threshold ≠ 0 := by decide
  have means (var : Variable) :
      ∃ value, loose var = some value ∧ var.Means value (config.setting var) := by
    cases var <;> exact ⟨_, rfl, Variable.read?_eq_some_iff.mp (by decide)⟩
  obtain ⟨-, whole, written⟩ := overrides_exact
  refine ⟨nonzero, means, whole _ _ _ nonzero means, ?_⟩
  exact written _ _ (fun _ => "\u3000") (fun _ => " ") nonzero fun _ => ⟨by decide, by decide⟩

end Config

end HotPath

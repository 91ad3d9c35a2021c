import HotPath.Proofs.Config.Overrides

/-!
Overriding a configuration in layers. Once a lower layer of variables is accepted, overriding what
it gives by an upper layer is overriding the base once, by the values of the upper layer and by
those of the lower one where the upper has none.
-/

namespace HotPath.Config

/-- Two layers as one: a variable has its value of the upper layer, or else that of the lower. -/
def layered (lower upper : Variable → Option String) (var : Variable) : Option String :=
  (upper var).or (lower var)

variable {base middle : Config} {lookup lower upper : Variable → Option String} {var : Variable}

/-! ## One variable -/

theorem layered_of_given {value : String} (given : upper var = some value) :
    layered lower upper var = some value := by
  rw [layered, given, Option.some_or]

theorem layered_of_absent (absent : upper var = none) :
    layered lower upper var = lower var := by
  rw [layered, absent, Option.none_or]

@[simp] theorem layered_self (lookup : Variable → Option String) :
    layered lookup lookup = lookup :=
  funext fun _ => Option.or_self

theorem Settles.unique {first second : var.Setting} (left : base.Settles lookup var first)
    (right : base.Settles lookup var second) : first = second :=
  Except.ok.inj ((take_of_settles left).symm.trans (take_of_settles right))

theorem take_layered (below : base.Settles lower var (middle.setting var)) :
    middle.take upper var = base.take (layered lower upper) var := by
  cases given : upper var with
  | none =>
    have kept : middle.take upper var = .ok (middle.setting var) := by
      rw [take, given]
      rfl
    rw [kept, take, layered_of_absent given]
    exact (take_of_settles below).symm
  | some value =>
    rw [take, take, given, layered_of_given given]
    rfl

/-! ## All variables -/

/-- The lower layer is not asked for its threshold here: that is looked at in the end alone. -/
theorem withOverrides_layered (below : base.Overridden lower middle) :
    middle.withOverrides upper = base.withOverrides (layered lower upper) := by
  have taken (var : Variable) : middle.take upper var = base.take (layered lower upper) var :=
    take_layered (below var)
  rw [withOverrides_eq, withOverrides_eq, taken .threshold, taken .tiering, taken .scheduler,
    taken .threads]

/-- Over a positive threshold a zero is reported only where the value of the variable says so. -/
theorem withOverrides_eq_zeroThreshold_iff_means (nonzero : base.threshold ≠ 0) :
    base.withOverrides lookup = .error .zeroThreshold ↔
      (∀ var, Accepts lookup var) ∧
        ∃ value, lookup .threshold = some value ∧ Variable.threshold.Means value 0 := by
  rw [withOverrides_eq_zeroThreshold_iff]
  constructor
  · rintro ⟨result, overridden, zero⟩
    refine ⟨overridden.accepts, ?_⟩
    have settles : base.Settles lookup .threshold result.threshold := overridden .threshold
    rw [Settles, zero] at settles
    cases given : lookup .threshold with
    | none =>
      rw [given] at settles
      exact absurd settles.symm nonzero
    | some value =>
      rw [given] at settles
      exact ⟨value, rfl, settles⟩
  · rintro ⟨accepts, value, given, means⟩
    obtain ⟨result, overridden⟩ := exists_overridden accepts base
    have zero : base.Settles lookup .threshold (0 : UInt32) := by
      rw [Settles, given]
      exact means
    exact ⟨result, overridden, (overridden .threshold).unique zero⟩

/-- Variables that are accepted once are accepted again, and change nothing then. -/
theorem withOverrides_twice (base : Config) (lookup : Variable → Option String) :
    (do let once ← base.withOverrides lookup; once.withOverrides lookup) =
      base.withOverrides lookup := by
  cases done : base.withOverrides lookup with
  | error failure => rfl
  | ok once =>
    have again : once.withOverrides lookup = base.withOverrides (layered lookup lookup) :=
      withOverrides_layered (withOverrides_eq_ok_iff.mp done).1
    rw [layered_self, done] at again
    exact again

/-! ## Two layers -/

/-- Overriding by a lower and then an upper layer is overriding by both at once, errors included;
one layer twice is that layer once. -/
theorem layers_compose :
    (∀ (base middle : Config) (lower upper : Variable → Option String),
      base.withOverrides lower = .ok middle →
        middle.withOverrides upper = base.withOverrides (layered lower upper) ∧
        (∀ result, base.withOverrides (layered lower upper) = .ok result ↔
          base.Overridden (layered lower upper) result ∧ result.threshold ≠ 0) ∧
        (∀ var value, base.withOverrides (layered lower upper) = .error (.badVariable var value) ↔
          FirstIllFormed upper var value) ∧
        (base.withOverrides (layered lower upper) = .error .zeroThreshold ↔
          (∀ var, Accepts upper var) ∧
            ∃ value, upper .threshold = some value ∧ Variable.threshold.Means value 0)) ∧
    ∀ (base : Config) (lookup : Variable → Option String),
      (do let once ← base.withOverrides lookup; once.withOverrides lookup) =
        base.withOverrides lookup := by
  refine ⟨fun base middle lower upper done => ?_, withOverrides_twice⟩
  obtain ⟨below, nonzero⟩ := withOverrides_eq_ok_iff.mp done
  have together : middle.withOverrides upper = base.withOverrides (layered lower upper) :=
    withOverrides_layered below
  refine ⟨together, fun result => withOverrides_eq_ok_iff, fun var value => ?_, ?_⟩
  · rw [← together]
    exact withOverrides_eq_badVariable_iff
  · rw [← together]
    exact withOverrides_eq_zeroThreshold_iff_means nonzero

theorem layers_compose_zero_base :
    let base : Config := { threshold := 0, tiering := false }
    let middle : Config := { threshold := 4, tiering := false, scheduler := .deferred }
    let lower : Variable → Option String
      | .threshold => some " 4 "
      | .scheduler => some "Deferred"
      | _ => none
    let accepted : Variable → Option String
      | .tiering => some "on"
      | .threads => some "+2"
      | _ => none
    let refused : Variable → Option String
      | .scheduler => some "gpu"
      | .threshold => some "0"
      | _ => none
    base.withOverrides lower = .ok middle ∧
      base.withOverrides (layered lower accepted) =
        .ok { threshold := 4, tiering := true, scheduler := .deferred, threads := 2 } ∧
      middle.withOverrides accepted = base.withOverrides (layered lower accepted) ∧
      middle.withOverrides refused = base.withOverrides (layered lower refused) ∧
      FirstIllFormed refused .scheduler "gpu" := by
  intro base middle lower accepted refused
  have done : base.withOverrides lower = .ok middle := by decide
  obtain ⟨compose, -⟩ := layers_compose
  obtain ⟨above, -⟩ := compose base middle lower accepted done
  obtain ⟨failing, -, reported, -⟩ := compose base middle lower refused done
  have first : base.withOverrides (layered lower refused) =
      .error (.badVariable .scheduler "gpu") := by decide
  exact ⟨done, by decide, above, failing, (reported _ _).mp first⟩

end HotPath.Config

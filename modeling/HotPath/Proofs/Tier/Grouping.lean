import HotPath.Proofs.Native.ReferenceCode
import HotPath.Proofs.Tier.Totals
import HotPath.Tier.Stats
import Mathlib.Algebra.BigOperators.Group.List.Basic

/-!
Sums of counters do not depend on how they are made: whatever the order of the counters and however
their sums are nested, there is the same total, or there is none either way.
-/

namespace HotPath.Counters

/-- A way of adding up counters, two sums at a time. -/
inductive Grouping where
  | single (counters : Counters)
  | sum (left right : Grouping)

namespace Grouping

def all : Grouping → List Counters
  | .single counters => [counters]
  | .sum left right => left.all ++ right.all

/-- The sum as it is made, if every sum on the way to it fits. -/
def total? : Grouping → Option Counters
  | .single counters => some counters
  | .sum left right => do add? (← left.total?) (← right.total?)

end Grouping

def exactSum (all : List Counters) (field : Field) : Nat := (all.map (·.get field)).sum

theorem exactSum_append (first second : List Counters) (field : Field) :
    exactSum (first ++ second) field = exactSum first field + exactSum second field := by
  rw [exactSum, List.map_append, List.sum_append]
  rfl

theorem exactSum_perm {all other : List Counters} (perm : all.Perm other) (field : Field) :
    exactSum all field = exactSum other field :=
  (perm.map _).sum_eq

theorem exactSum_defaults (starts : Nat) (field : Field) :
    exactSum (List.replicate starts {}) field = 0 := by
  simp [exactSum, get_default]

/-- There is a total unless the exact sum of some count does not fit. -/
theorem total?_eq_none_iff {all : List Counters} :
    Counters.total? all = none ↔ ∃ field, 18446744073709551615 < exactSum all field := by
  constructor
  · intro missing
    by_contra fits
    have small (field : Field) : exactSum all field < UInt64.size :=
      Nat.lt_succ_of_le (Nat.le_of_not_lt fun large => fits ⟨field, large⟩)
    have present := total?_of_fits small
    rw [missing] at present
    cases present
  · rintro ⟨field, large⟩
    rw [Option.eq_none_iff_forall_ne_some]
    intro total present
    obtain ⟨sum, small⟩ := total?_eq_some_iff.mp present field
    rw [sum] at small
    exact absurd large (Nat.not_lt.mpr (Nat.le_of_lt_succ small))

namespace Grouping

theorem get_of_total? {grouping : Grouping} {total : Counters}
    (made : grouping.total? = some total) (field : Field) :
    total.get field = exactSum grouping.all field := by
  induction grouping generalizing total with
  | single counters =>
    cases made
    exact (List.sum_singleton).symm
  | sum left right leftHypothesis rightHypothesis =>
    obtain ⟨first, madeFirst, made⟩ := Option.bind_eq_some_iff.mp made
    obtain ⟨second, madeSecond, added⟩ := Option.bind_eq_some_iff.mp made
    rw [all, exactSum_append, ← leftHypothesis madeFirst, ← rightHypothesis madeSecond]
    exact (add?_eq_some_iff.mp added field).1

/-- A sum of sums was checked. -/
theorem fits_of_total? {left right : Grouping} {total : Counters}
    (made : (sum left right).total? = some total) (field : Field) :
    total.get field < UInt64.size := by
  obtain ⟨first, -, made⟩ := Option.bind_eq_some_iff.mp made
  obtain ⟨second, -, added⟩ := Option.bind_eq_some_iff.mp made
  exact (add?_eq_some_iff.mp added field).2

/-- Partial sums are no greater than the whole, so they fit with it. -/
theorem total?_of_fits {grouping : Grouping}
    (fits : ∀ field, exactSum grouping.all field < UInt64.size) :
    grouping.total? = some (ofCounts (exactSum grouping.all)) := by
  induction grouping with
  | single counters =>
    exact congrArg some (ext_get fun field => by simp [all, exactSum])
  | sum left right leftHypothesis rightHypothesis =>
    simp only [all, exactSum_append] at fits
    have first := leftHypothesis fun field =>
      Nat.lt_of_le_of_lt (Nat.le_add_right _ _) (fits field)
    have second := rightHypothesis fun field =>
      Nat.lt_of_le_of_lt (Nat.le_add_left _ _) (fits field)
    rw [total?, first, second]
    refine add?_eq_some_iff.mpr fun field => ?_
    simp only [all, get_ofCounts, exactSum_append, true_and]
    exact fits field

/-- Sums that start from the default, however often and wherever, come to the total. -/
theorem total?_eq_of_perm {grouping : Grouping} {counters : List Counters} {starts : Nat}
    (perm : grouping.all.Perm (List.replicate (starts + 1) ({} : Counters) ++ counters)) :
    grouping.total? = Counters.total? counters := by
  have sums (field : Field) : exactSum grouping.all field = exactSum counters field := by
    rw [exactSum_perm perm, exactSum_append, exactSum_defaults, Nat.zero_add]
  refine Option.ext fun total => ?_
  rw [Counters.total?_eq_some_iff]
  constructor
  · intro made field
    refine ⟨(get_of_total? made field).trans (sums field), ?_⟩
    cases grouping with
    | sum left right => exact fits_of_total? made field
    | single only =>
      have start : {} ∈ [only] := perm.mem_iff.mpr (by simp)
      cases made
      rw [← List.mem_singleton.mp start, get_default]
      decide
  · intro exact
    have fits (field : Field) : exactSum grouping.all field < UInt64.size := by
      obtain ⟨sum, small⟩ := exact field
      exact ((sums field).trans sum.symm).trans_lt small
    rw [total?_of_fits fits]
    refine congrArg some (ext_get fun field => ?_)
    rw [get_ofCounts, sums]
    exact (exact field).1.symm

end Grouping

theorem total?_perm {all other : List Counters} (perm : all.Perm other) :
    total? other = total? all := by
  refine Option.ext fun total => ?_
  simp only [total?_eq_some_iff, (perm.map _).sum_eq]

end HotPath.Counters

namespace HotPath.Engine

theorem stats_reordered {engine : Engine} {registry : List (DefinitionId × ControllerId)}
    (perm : registry.Perm engine.registry) :
    { engine with registry }.stats = engine.stats := by
  have listed := perm.filterMap fun entry => engine.controllers[entry.2]?
  simp only [stats, trackedControllers, listed.length_eq, listed.countP_eq,
    Counters.total?_perm (listed.map (·.counters))]

end HotPath.Engine

namespace HotPath.Counters

/-- The total of some counters, or that there is none, depends neither on their order nor on the
nesting of the sums; so nor do the statistics of an engine. -/
theorem total_of_any_grouping :
    (∀ all : List Counters,
      (total? all = none ↔ ∃ field, 18446744073709551615 < exactSum all field) ∧
      ∀ total, total? all = some total → ∀ field, total.get field = exactSum all field) ∧
    (∀ all other : List Counters, all.Perm other → total? other = total? all) ∧
    (∀ (all : List Counters) (starts : Nat) (grouping : Grouping),
      grouping.all.Perm (List.replicate (starts + 1) ({} : Counters) ++ all) →
        grouping.total? = total? all) ∧
    ∀ (engine : Engine) (registry : List (DefinitionId × ControllerId)),
      registry.Perm engine.registry → { engine with registry }.stats = engine.stats := by
  refine ⟨fun all => ⟨total?_eq_none_iff, fun total present field => ?_⟩,
    fun all other => total?_perm, fun all starts grouping => Grouping.total?_eq_of_perm,
    fun engine registry => Engine.stats_reordered⟩
  exact (total?_eq_some_iff.mp present field).1

theorem total_of_any_grouping_parts :
    let first : Counters := { interpreted := 18446744073709551615, micros := 40 }
    let second : Counters := { completed := 1, micros := 2 }
    let total : Counters := { interpreted := 18446744073709551615, completed := 1, micros := 42 }
    let parts : Grouping :=
      .sum (.sum (.single {}) (.single second)) (.sum (.single {}) (.single first))
    let engine : Engine := {
      controllers := #[⟨.tally, 0, 0, .cold, none, none, first⟩,
        ⟨.tally, 0, 0, .cold, none, none, second⟩]
      registry := [(0, 0), (1, 1)] }
    [first, second].Perm [second, first] ∧
      parts.all.Perm (List.replicate 2 ({} : Counters) ++ [first, second]) ∧
      [(1, 1), (0, 0)].Perm engine.registry ∧
      total? [second, first] = some total ∧ parts.total? = some total ∧
      { engine with registry := [(1, 1), (0, 0)] }.stats.totals = some total ∧
      total? [first, first] = none := by
  intro first second total parts engine
  have order : [first, second].Perm [second, first] := .swap ..
  have parted : parts.all.Perm (List.replicate 2 ({} : Counters) ++ [first, second]) := by
    decide
  have listed : [(1, 1), (0, 0)].Perm engine.registry := .swap ..
  obtain ⟨sums, orders, groupings, registries⟩ := total_of_any_grouping
  have sum : total? [first, second] = some total := by decide +kernel
  refine ⟨order, parted, listed, (orders _ _ order).trans sum,
    (groupings _ 1 _ parted).trans sum, ?_, (sums _).1.mpr ⟨.interpreted, by decide⟩⟩
  rw [registries engine _ listed]
  exact sum

end HotPath.Counters

import HotPath.Tier.Counters
import Mathlib.Algebra.GroupWithZero.Nat

/-!
Sums of counters, count by count. Every partial sum is checked, and still a total is there exactly
when the sums of all counts fit, and then it holds those sums.
-/

namespace HotPath.Counters

inductive Field where
  | interpreted | scheduled | completed | failed | promoted | micros
  deriving DecidableEq, Repr

def get (counters : Counters) : Field → Nat
  | .interpreted => counters.interpreted
  | .scheduled => counters.scheduled
  | .completed => counters.completed
  | .failed => counters.failed
  | .promoted => counters.promoted
  | .micros => counters.micros

/-- The counters with given counts. -/
def ofCounts (count : Field → Nat) : Counters where
  interpreted := count .interpreted
  scheduled := count .scheduled
  completed := count .completed
  failed := count .failed
  promoted := count .promoted
  micros := count .micros

@[simp] theorem get_ofCounts (count : Field → Nat) (field : Field) :
    (ofCounts count).get field = count field := by
  cases field <;> rfl

theorem get_default (field : Field) : ({} : Counters).get field = 0 := by
  cases field <;> rfl

theorem ext_get {a b : Counters} (same : ∀ field, a.get field = b.get field) : a = b := by
  obtain ⟨_, _, _, _, _, _⟩ := a
  obtain ⟨_, _, _, _, _, _⟩ := b
  obtain rfl := same .interpreted
  obtain rfl := same .scheduled
  obtain rfl := same .completed
  obtain rfl := same .failed
  obtain rfl := same .promoted
  obtain rfl := same .micros
  rfl

theorem addCount?_eq_some_iff {a b sum : Nat} :
    addCount? a b = some sum ↔ sum = a + b ∧ sum < UInt64.size := by
  unfold addCount?
  split <;> constructor <;> simp_all +arith [eq_comm]

theorem add?_eq_some_iff {a b sum : Counters} :
    a.add? b = some sum ↔
      ∀ field, sum.get field = a.get field + b.get field ∧ sum.get field < UInt64.size := by
  simp only [add?, Option.bind_eq_bind, Option.bind_eq_some_iff, addCount?_eq_some_iff,
    Option.pure_def, Option.some.injEq]
  constructor
  · rintro ⟨interpreted, first, scheduled, second, completed, third, failed, fourth, promoted,
      fifth, micros, sixth, rfl⟩ field
    cases field with
    | interpreted => exact first
    | scheduled => exact second
    | completed => exact third
    | failed => exact fourth
    | promoted => exact fifth
    | micros => exact sixth
  · intro fields
    exact ⟨_, fields .interpreted, _, fields .scheduled, _, fields .completed, _, fields .failed,
      _, fields .promoted, _, fields .micros, rfl⟩

theorem foldlM_add?_eq_some_iff {start total : Counters}
    (fits : ∀ field, start.get field < UInt64.size) (all : List Counters) :
    all.foldlM add? start = some total ↔
      ∀ field, total.get field = start.get field + (all.map (·.get field)).sum ∧
        total.get field < UInt64.size := by
  induction all generalizing start with
  | nil =>
    constructor
    · intro folded
      cases folded
      exact fun field => ⟨rfl, fits field⟩
    · intro fields
      exact congrArg some (ext_get fun field => (fields field).1.symm)
  | cons first rest inductionHypothesis =>
    rw [List.foldlM_cons, Option.bind_eq_bind, Option.bind_eq_some_iff]
    constructor
    · rintro ⟨next, added, folded⟩ field
      have step := add?_eq_some_iff.mp added
      obtain ⟨sum, small⟩ :=
        (inductionHypothesis fun field => (step field).2).mp folded field
      refine ⟨?_, small⟩
      rw [sum, (step field).1, List.map_cons, List.sum_cons, Nat.add_assoc]
    · intro fields
      -- What is added so far is at most the whole sum.
      have step (field : Field) : start.get field + first.get field < UInt64.size := by
        obtain ⟨sum, small⟩ := fields field
        rw [List.map_cons, List.sum_cons] at sum
        omega
      let next := ofCounts fun field => start.get field + first.get field
      have added : start.add? first = some next :=
        add?_eq_some_iff.mpr fun field => ⟨get_ofCounts _ field, by simpa [next] using step field⟩
      refine ⟨next, added, (inductionHypothesis (by simpa [next] using step)).mpr fun field => ?_⟩
      obtain ⟨sum, small⟩ := fields field
      refine ⟨?_, small⟩
      rw [sum, List.map_cons, List.sum_cons, get_ofCounts, Nat.add_assoc]

theorem total?_eq_some_iff {all : List Counters} {total : Counters} :
    total? all = some total ↔
      ∀ field, total.get field = (all.map (·.get field)).sum ∧ total.get field < UInt64.size := by
  have start (field : Field) : ({} : Counters).get field < UInt64.size := by
    rw [get_default]
    decide
  simp only [total?, foldlM_add?_eq_some_iff start, get_default, Nat.zero_add]

theorem total?_of_fits {all : List Counters}
    (fits : ∀ field, (all.map (·.get field)).sum < UInt64.size) :
    total? all = some (ofCounts fun field => (all.map (·.get field)).sum) :=
  total?_eq_some_iff.mpr fun field => by simpa using fits field

end HotPath.Counters

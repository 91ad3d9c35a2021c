import HotPath.Definition
import HotPath.Proofs.Lang.Places

/-!
Which drafts are definitions, and what is said about the others: the first defect in the order of
the checks, and within a check the first name or place in the order of the draft.
-/

namespace HotPath

/-- The first name of a list that occurred earlier in it. -/
def FirstRepeat (names : List String) (name : String) : Prop :=
  ∃ before after, names = before ++ name :: after ∧ before.Nodup ∧ name ∈ before

/-- The first place that a body uses outside a scope, in the order of its nodes. -/
def Expr.FirstStray (scope : Scope) (body : Expr) (place : Place) : Prop :=
  ∃ before after, body.places = before ++ place :: after ∧
    (∀ earlier ∈ before, scope.Has earlier) ∧ ¬ scope.Has place

namespace Draft

/-- No more parameters than allowed, no name given twice, and no place in the
body that is not declared. -/
structure WellFormed (draft : Draft) : Prop where
  arity : draft.signature.arity ≤ maxParameters
  params : draft.paramNames.Nodup
  captures : draft.captures.Nodup
  places : ∀ place ∈ draft.body.places, draft.scope.Has place

/-- The defect of a draft, in a check that comes after none that fails. -/
inductive Flaw (draft : Draft) : DefinitionError → Prop where
  | tooManyParameters (exceeds : maxParameters < draft.signature.arity) :
      Flaw draft (.tooManyParameters draft.signature.arity)
  | duplicateParameter (arity : draft.signature.arity ≤ maxParameters) {name : String}
      (again : FirstRepeat draft.paramNames name) : Flaw draft (.duplicateParameter name)
  | duplicateCapture (arity : draft.signature.arity ≤ maxParameters)
      (params : draft.paramNames.Nodup) {name : String} (again : FirstRepeat draft.captures name) :
      Flaw draft (.duplicateCapture name)
  | undeclared (arity : draft.signature.arity ≤ maxParameters) (params : draft.paramNames.Nodup)
      (captures : draft.captures.Nodup) {place : Place}
      (stray : draft.body.FirstStray draft.scope place) : Flaw draft (.undeclared place)

end Draft

section Names

variable {names earlier : List String} {name : String}

theorem firstRepeat?_eq_none :
    firstRepeat? earlier names = none ↔ names.Nodup ∧ ∀ name ∈ names, name ∉ earlier := by
  induction names generalizing earlier with
  | nil => simp [firstRepeat?]
  | cons head rest ih =>
    by_cases seen : head ∈ earlier
    · simp [firstRepeat?, seen]
    · simp only [firstRepeat?, seen, ↓reduceIte, ih, List.nodup_cons, List.mem_cons, not_or]
      grind

/-- With earlier names given, the first name that is one of them or occurred
since. -/
theorem firstRepeat?_eq_some :
    firstRepeat? earlier names = some name ↔
      ∃ before after, names = before ++ name :: after ∧ before.Nodup ∧
        (∀ other ∈ before, other ∉ earlier) ∧ (name ∈ earlier ∨ name ∈ before) := by
  induction names generalizing earlier with
  | nil => simp [firstRepeat?]
  | cons head rest ih =>
    by_cases seen : head ∈ earlier
    · simp only [firstRepeat?, seen, ↓reduceIte, Option.some.injEq]
      constructor
      · rintro rfl
        exact ⟨[], rest, rfl, .nil, by simp, .inl seen⟩
      · rintro ⟨before, after, split, -, fresh, -⟩
        cases before with
        | nil => exact (List.cons.inj split).1
        | cons first before =>
          obtain ⟨rfl, -⟩ := List.cons.inj split
          exact absurd seen (fresh head (by simp))
    · simp only [firstRepeat?, seen, ↓reduceIte, ih]
      constructor
      · rintro ⟨before, after, rfl, nodup, fresh, again⟩
        exact ⟨head :: before, after, rfl, by grind, by grind, by grind⟩
      · rintro ⟨before, after, split, nodup, fresh, again⟩
        cases before with
        | nil => grind
        | cons first before =>
          obtain ⟨rfl, rfl⟩ := List.cons.inj split
          exact ⟨before, after, rfl, by grind, by grind, by grind⟩

theorem firstRepeat?_nil_eq_none : firstRepeat? [] names = none ↔ names.Nodup := by
  simp [firstRepeat?_eq_none]

theorem firstRepeat?_nil_eq_some : firstRepeat? [] names = some name ↔ FirstRepeat names name := by
  simp [firstRepeat?_eq_some, FirstRepeat]

example : firstRepeat? [] ["low", "high", "high", "low"] = some "high" := by decide

end Names

theorem Expr.stray?_eq_some {scope : Scope} {body : Expr} {place : Place} :
    body.stray? scope = some place ↔ body.FirstStray scope place := by
  simp only [stray?_eq, List.find?_eq_some_iff_append, FirstStray]
  grind

namespace Draft

variable {draft : Draft}

theorem defect?_eq_none : draft.defect? = none ↔ draft.WellFormed := by
  by_cases exceeds : maxParameters < draft.signature.arity
  · simp only [defect?, exceeds, ↓reduceIte, reduceCtorEq, false_iff]
    exact fun formed => Nat.not_le.mpr exceeds formed.arity
  · simp only [defect?, exceeds, ↓reduceIte, Option.orElse_eq_orElse, Option.orElse_eq_or,
      Option.or_eq_none_iff, Option.map_eq_none_iff, firstRepeat?_nil_eq_none,
      Expr.stray?_eq_none]
    exact ⟨fun ⟨params, captures, places⟩ => ⟨Nat.not_lt.mp exceeds, params, captures, places⟩,
      fun formed => ⟨formed.params, formed.captures, formed.places⟩⟩

theorem defect?_eq_some {defect : DefinitionError} :
    draft.defect? = some defect ↔ draft.Flaw defect := by
  constructor
  · intro found
    by_cases exceeds : maxParameters < draft.signature.arity
    · simp only [defect?, exceeds, ↓reduceIte, Option.some.injEq] at found
      exact found ▸ .tooManyParameters exceeds
    have arity := Nat.not_lt.mp exceeds
    simp only [defect?, exceeds, ↓reduceIte] at found
    cases params : firstRepeat? [] draft.paramNames with
    | some name =>
      obtain rfl : DefinitionError.duplicateParameter name = defect := by simpa [params] using found
      exact .duplicateParameter arity (firstRepeat?_nil_eq_some.mp params)
    | none =>
      cases captures : firstRepeat? [] draft.captures with
      | some name =>
        obtain rfl : DefinitionError.duplicateCapture name = defect := by
          simpa [params, captures] using found
        exact .duplicateCapture arity (firstRepeat?_nil_eq_none.mp params)
          (firstRepeat?_nil_eq_some.mp captures)
      | none =>
        obtain ⟨place, stray, rfl⟩ : ∃ place, draft.body.stray? draft.scope = some place ∧
            DefinitionError.undeclared place = defect := by
          simpa [params, captures] using found
        exact .undeclared arity (firstRepeat?_nil_eq_none.mp params)
          (firstRepeat?_nil_eq_none.mp captures) (Expr.stray?_eq_some.mp stray)
  · intro flaw
    cases flaw with
    | tooManyParameters exceeds => simp [defect?, exceeds]
    | duplicateParameter arity again =>
      simp [defect?, Nat.not_lt.mpr arity, firstRepeat?_nil_eq_some.mpr again]
    | duplicateCapture arity params again =>
      simp [defect?, Nat.not_lt.mpr arity, firstRepeat?_nil_eq_none.mpr params,
        firstRepeat?_nil_eq_some.mpr again]
    | undeclared arity params captures stray =>
      simp [defect?, Nat.not_lt.mpr arity, firstRepeat?_nil_eq_none.mpr params,
        firstRepeat?_nil_eq_none.mpr captures, Expr.stray?_eq_some.mpr stray]

end Draft

namespace Definition

theorem build_eq_ok {id : DefinitionId} {draft : Draft} {definition : Definition} :
    build id draft = .ok definition ↔ definition.id = id ∧ definition.draft = draft := by
  unfold build
  split
  next defect found =>
    simp only [reduceCtorEq, false_iff, not_and]
    rintro rfl rfl
    exact absurd (definition.sound.symm.trans found) (by simp)
  next sound =>
    cases definition
    simp [eq_comm]

theorem build_eq_error {id : DefinitionId} {draft : Draft} {defect : DefinitionError} :
    build id draft = .error defect ↔ draft.defect? = some defect := by
  unfold build
  split <;> simp_all

/-- A draft becomes a definition, under the identity asked for, exactly if it is
well formed; any other is refused with its first defect, and with no other. -/
theorem build_exact (id : DefinitionId) (draft : Draft) :
    ((∃ definition, build id draft = .ok definition ∧ definition.id = id ∧
        definition.draft = draft) ↔ draft.WellFormed) ∧
      ∀ defect, build id draft = .error defect ↔ draft.Flaw defect := by
  refine ⟨?_, fun defect => build_eq_error.trans Draft.defect?_eq_some⟩
  rw [← Draft.defect?_eq_none]
  constructor
  · rintro ⟨definition, -, -, rfl⟩
    exact definition.sound
  · intro sound
    exact ⟨⟨id, draft, sound⟩, build_eq_ok.mpr ⟨rfl, rfl⟩, rfl, rfl⟩

end Definition

end HotPath

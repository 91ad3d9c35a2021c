import HotPath.Lang.Lowering
import HotPath.Native.Sabotage
import HotPath.Proofs.Native.Agreement
import HotPath.Tier.Controller

/-!
What the reference compiler publishes for a function, and that calling it is the same as
interpreting the function. A compiler is faithful if whatever it does produce is what the reference
compiler produces; it may refuse or crash as it likes.
-/

namespace HotPath

/-- What a compiler gives for a function when it is asked in the usual way. -/
def Definition.generated (definition : Definition) (compiler : Compiler) :
    Except CompileError CompiledCode :=
  Controller.generate { definition, scheduler := 0 } compiler

theorem Controller.generate_eq (controller : Controller) (compiler : Compiler) :
    controller.generate compiler = controller.definition.generated compiler := rfl

/-- A compiler all of whose products are those of the reference compiler. -/
structure Compiler.Faithful (compiler : Compiler) : Prop where
  direct : ∀ definition shape native, compiler.direct definition shape = .produced native →
    (Compiler.reference none).direct definition shape = .produced native
  factory : ∀ definition shape make, compiler.factory definition shape = .produced make →
    (Compiler.reference none).factory definition shape = .produced make

namespace Definition

variable {definition : Definition} {shape : Shape} {nodeLimit : Option Nat}

/-- A limit on nodes decides whether a body is lowered, not how. -/
theorem lower_unlimited {procedure : Procedure}
    (lowered : definition.lower nodeLimit shape = .ok procedure) :
    definition.lower none shape = .ok procedure := by
  unfold Definition.lower at lowered ⊢
  by_cases other : shape ≠ definition.signature.selectShape.shape
  · simp [other] at lowered
  · simp only [if_neg other] at lowered ⊢
    split at lowered
    · simp at lowered
    · simpa using lowered

theorem lower_selected (definition : Definition) :
    definition.lower none definition.signature.selectShape.shape = .ok definition.procedure := by
  simp [Definition.lower, procedure]

end Definition

theorem Compiler.faithful_reference (nodeLimit : Option Nat) :
    (Compiler.reference nodeLimit).Faithful where
  direct definition shape native produced := by
    simp only [Compiler.reference] at produced ⊢
    cases lowered : definition.lower nodeLimit shape with
    | error error => simp [lowered] at produced
    | ok procedure =>
      simpa only [lowered, Definition.lower_unlimited lowered] using produced
  factory definition shape make produced := by
    simp only [Compiler.reference] at produced ⊢
    cases lowered : definition.lower nodeLimit shape with
    | error error => simp [lowered] at produced
    | ok procedure =>
      simpa only [lowered, Definition.lower_unlimited lowered] using produced

theorem Compiler.Faithful.sabotaged {compiler : Compiler} (faithful : compiler.Faithful)
    {plan : String → Option Sabotage} (fails : ∀ name shape, plan name ≠ some (.canned shape)) :
    (compiler.sabotaged plan).Faithful where
  direct definition shape native produced := by
    simp only [Compiler.sabotaged] at produced
    cases planned : plan definition.name with
    | none =>
      rw [planned] at produced
      exact faithful.direct definition shape native produced
    | some how =>
      rw [planned] at produced
      cases how with
      | canned shape => exact absurd planned (fails _ shape)
      | _ => cases produced
  factory definition shape make produced := by
    simp only [Compiler.sabotaged] at produced
    cases planned : plan definition.name with
    | none =>
      rw [planned] at produced
      exact faithful.factory definition shape make produced
    | some how =>
      rw [planned] at produced
      cases how with
      | canned shape => exact absurd planned (fails _ shape)
      | _ => cases produced

namespace Definition

variable {definition : Definition}

def referenceCode (definition : Definition) : CompiledCode :=
  if definition.hasClosure then .factory definition.native else .direct (definition.native [])

theorem generated_reference (definition : Definition) :
    definition.generated (Compiler.reference none) = .ok definition.referenceCode := by
  have lowered := definition.lower_selected
  have fits := definition.procedure.shape_entryPoint [] definition.signature.selectShape.shape
  unfold generated Controller.generate referenceCode
  simp only [Controller.selection, Compiler.reference, lowered, Generated.map]
  by_cases captures : definition.hasClosure = true
  · simp only [captures, ↓reduceIte]
    rfl
  · simp only [captures, Bool.false_eq_true, ↓reduceIte, fits]
    rfl

theorem generated_faithful {compiler : Compiler} (faithful : compiler.Faithful)
    {code : CompiledCode} (published : definition.generated compiler = .ok code) :
    code = definition.referenceCode := by
  have reference := definition.generated_reference
  unfold generated Controller.generate at published reference
  simp only [Controller.selection] at published reference
  by_cases captures : definition.hasClosure = true
  · simp only [captures, ↓reduceIte] at published reference
    cases answer : compiler.factory definition definition.signature.selectShape.shape with
    | produced make =>
      rw [faithful.factory _ _ _ answer] at reference
      rw [answer] at published
      exact Except.ok.inj (published.symm.trans reference)
    | refused error => simp [answer, Generated.map] at published
    | crashed message => simp [answer, Generated.map] at published
  · simp only [captures, Bool.false_eq_true, ↓reduceIte] at published reference
    cases answer : compiler.direct definition definition.signature.selectShape.shape with
    | produced native =>
      rw [faithful.direct _ _ _ answer] at reference
      rw [answer] at published
      exact Except.ok.inj (published.symm.trans reference)
    | refused error => simp [answer, Generated.map] at published
    | crashed message => simp [answer, Generated.map] at published

theorem entryPoint?_referenceCode {closure : Option Binding}
    (bound : closure = none → definition.hasClosure = false) :
    ∃ binding, definition.SameCells (closure.getD []) binding ∧
      definition.referenceCode.entryPoint? closure = some (definition.native binding) := by
  by_cases captures : definition.hasClosure = true
  · cases closure with
    | none => simp [bound rfl] at captures
    | some binding =>
      exact ⟨binding, fun _ _ => rfl, by simp [referenceCode, captures, CompiledCode.entryPoint?]⟩
  · have nothing : definition.captures.length = 0 := by
      simpa [hasClosure] using captures
    refine ⟨[], fun slot inside => absurd inside (by omega), ?_⟩
    simp [referenceCode, captures, CompiledCode.entryPoint?]

end Definition

/-! ## Calls that end -/

namespace Definition

variable {definition : Definition} {closure : Option Binding} {args : List Value} {store : Store}

/-- A function that adds to a captured total and hands the new total back, also in
its argument. -/
def tally : Definition where
  id := 0
  draft := {
    name := "tally"
    signature := ⟨[⟨"amount", .byRef⟩], .value⟩
    captures := ["total"]
    locals := 0
    body := .writeParam 0 (.writeCapture 0 (.binary .add (.readCapture 0) (.readParam 0))) }
  sound := by decide

end Definition

end HotPath

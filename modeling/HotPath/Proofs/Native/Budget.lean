import HotPath.Proofs.Lang.Places
import HotPath.Proofs.Native.ReferenceCode
import Mathlib.Algebra.GroupWithZero.Nat

/-!
What the reference compiler takes: a body within the limit on nodes, in the shape that the signature
selects. Everything else it refuses, the shape before the size.
-/

namespace HotPath

namespace Expr

theorem nodeCountAll_eq (items : List Expr) : nodeCountAll items = (items.map nodeCount).sum := by
  induction items with
  | nil => rfl
  | cons e rest ih => rw [nodeCountAll, ih, List.map_cons, List.sum_cons]

/-- A node counts for one, and its parts count for themselves. -/
theorem nodeCount_node (e : Expr) : e.nodeCount = 1 + (e.parts.map nodeCount).sum := by
  cases e <;> simp [nodeCount, parts, nodeCountAll_eq, Nat.add_assoc]

theorem nodeCount_eq (e : Expr) : e.nodeCount = e.nodes.length := by
  induction e using inductionOnParts with
  | node e ih =>
    rw [nodeCount_node, nodes_eq, List.length_cons, List.length_flatMap,
      List.map_congr_left ih, Nat.add_comm]

end Expr

namespace Definition

variable {definition : Definition} {nodeLimit : Option Nat} {shape : Shape} {error : CompileError}

/-- The requests that the reference compiler grants. -/
structure Admitted (definition : Definition) (nodeLimit : Option Nat) (shape : Shape) : Prop where
  selected : shape = definition.signature.selectShape.shape
  small : ∀ limit, nodeLimit = some limit → definition.body.nodes.length ≤ limit

/-- Why the reference compiler refuses a request: for its shape, whatever the size of the
body, and otherwise for the size. -/
inductive Objection (definition : Definition) (nodeLimit : Option Nat) (shape : Shape) :
    CompileError → Prop where
  | shape (other : shape ≠ definition.signature.selectShape.shape) :
      Objection definition nodeLimit shape
        (.unsupported (s!"shape {shape.display} for signature " ++ definition.signature.display ++
          s!" (expected {definition.signature.selectShape.shape.display})"))
  | size {limit : Nat} (selected : shape = definition.signature.selectShape.shape)
      (limited : nodeLimit = some limit) (large : limit < definition.body.nodes.length) :
      Objection definition nodeLimit shape (.unsupported
        s!"body of {definition.name} has {definition.body.nodes.length} nodes (limit {limit})")

theorem Objection.not_admitted (objection : definition.Objection nodeLimit shape error) :
    ¬ definition.Admitted nodeLimit shape := by
  rintro ⟨selected, small⟩
  cases objection with
  | shape other => exact other selected
  | size _ limited large => exact Nat.not_lt.mpr (small _ limited) large

theorem admitted_or_objection (definition : Definition) (nodeLimit : Option Nat) (shape : Shape) :
    definition.Admitted nodeLimit shape ∨
      ∃ error, definition.Objection nodeLimit shape error := by
  by_cases selected : shape = definition.signature.selectShape.shape
  · cases limited : nodeLimit with
    | none => exact .inl ⟨selected, nofun⟩
    | some limit =>
      rcases Nat.lt_or_ge limit definition.body.nodes.length with large | small
      · exact .inr ⟨_, .size selected rfl large⟩
      · refine .inl ⟨selected, fun other same => ?_⟩
        cases same
        exact small
  · exact .inr ⟨_, .shape selected⟩

theorem lower_admitted (admitted : definition.Admitted nodeLimit shape) :
    definition.lower nodeLimit shape = .ok definition.procedure := by
  obtain ⟨rfl, small⟩ := admitted
  have unlimited : nodeLimit.filter (· < definition.body.nodeCount) = none := by
    rw [Option.filter_eq_none_iff, Expr.nodeCount_eq]
    intro limit limited
    simpa using small limit limited
  simp only [Definition.lower, ne_eq, not_true_eq_false, ↓reduceIte, unlimited, procedure]

theorem lower_objection (objection : definition.Objection nodeLimit shape error) :
    definition.lower nodeLimit shape = .error error := by
  cases objection with
  | shape other => simp only [Definition.lower, if_pos other]
  | @size limit selected limited large =>
    have exceeded : nodeLimit.filter (· < definition.body.nodes.length) = some limit := by
      simp [limited, Option.filter, large]
    simp only [Definition.lower, selected, ne_eq, not_true_eq_false, ↓reduceIte,
      Expr.nodeCount_eq, exceeded]

end Definition

namespace Compiler

variable {definition : Definition} {nodeLimit : Option Nat} {shape : Shape} {error : CompileError}

theorem direct_admitted (admitted : definition.Admitted nodeLimit shape) :
    (reference nodeLimit).direct definition shape = .produced (definition.native []) := by
  simp only [reference, Definition.lower_admitted admitted]
  rw [admitted.selected]
  rfl

theorem factory_admitted (admitted : definition.Admitted nodeLimit shape) :
    (reference nodeLimit).factory definition shape = .produced definition.native := by
  simp only [reference, Definition.lower_admitted admitted]
  rw [admitted.selected]
  rfl

theorem direct_objection (objection : definition.Objection nodeLimit shape error) :
    (reference nodeLimit).direct definition shape = .refused error := by
  simp only [reference, Definition.lower_objection objection]

theorem factory_objection (objection : definition.Objection nodeLimit shape error) :
    (reference nodeLimit).factory definition shape = .refused error := by
  simp only [reference, Definition.lower_objection objection]

theorem direct_iff : (∃ native, (reference nodeLimit).direct definition shape = .produced native) ↔
    definition.Admitted nodeLimit shape := by
  rcases definition.admitted_or_objection nodeLimit shape with admitted | ⟨error, objection⟩
  · exact iff_of_true ⟨_, direct_admitted admitted⟩ admitted
  · refine iff_of_false ?_ objection.not_admitted
    simp [direct_objection objection]

theorem factory_iff : (∃ make, (reference nodeLimit).factory definition shape = .produced make) ↔
    definition.Admitted nodeLimit shape := by
  rcases definition.admitted_or_objection nodeLimit shape with admitted | ⟨error, objection⟩
  · exact iff_of_true ⟨_, factory_admitted admitted⟩ admitted
  · refine iff_of_false ?_ objection.not_admitted
    simp [factory_objection objection]

end Compiler

namespace Definition

variable {definition : Definition} {nodeLimit : Option Nat} {error : CompileError}

theorem shape_native (definition : Definition) (binding : Binding) :
    (definition.native binding).shape = definition.signature.selectShape.shape :=
  definition.procedure.shape_entryPoint binding _

theorem generated_admitted
    (admitted : definition.Admitted nodeLimit definition.signature.selectShape.shape) :
    definition.generated (.reference nodeLimit) = .ok definition.referenceCode := by
  unfold generated Controller.generate referenceCode
  simp only [Controller.selection, Compiler.direct_admitted admitted,
    Compiler.factory_admitted admitted, Generated.map]
  cases definition.hasClosure with
  | true => rfl
  | false => simp only [Bool.false_eq_true, ↓reduceIte, definition.shape_native]

theorem generated_objection
    (objection : definition.Objection nodeLimit definition.signature.selectShape.shape error) :
    definition.generated (.reference nodeLimit) = .error error := by
  unfold generated Controller.generate
  simp only [Controller.selection, Compiler.direct_objection objection,
    Compiler.factory_objection objection, Generated.map]
  cases definition.hasClosure <;> rfl

/-- The reference compiler, asked in the usual way, fails only by an objection. -/
theorem objection_of_generated
    (failed : definition.generated (.reference nodeLimit) = .error error) :
    definition.Objection nodeLimit definition.signature.selectShape.shape error := by
  rcases definition.admitted_or_objection nodeLimit definition.signature.selectShape.shape with
    admitted | ⟨other, objection⟩
  · cases (generated_admitted admitted).symm.trans failed
  · cases (generated_objection objection).symm.trans failed
    exact objection

theorem entryPoint?_native {closure : Option Binding} {native : NativeFn}
    (entryPoint : definition.referenceCode.entryPoint? closure = some native) :
    ∃ binding, native = definition.native binding := by
  unfold referenceCode at entryPoint
  cases captures : definition.hasClosure with
  | false =>
    simp only [captures, Bool.false_eq_true, ↓reduceIte, CompiledCode.entryPoint?,
      Option.some.injEq] at entryPoint
    exact ⟨[], entryPoint.symm⟩
  | true =>
    cases closure with
    | none => simp [captures, CompiledCode.entryPoint?] at entryPoint
    | some binding =>
      simp only [captures, ↓reduceIte, CompiledCode.entryPoint?, Option.some.injEq] at entryPoint
      exact ⟨binding, entryPoint.symm⟩

end Definition

end HotPath

import HotPath.Proofs.Lang.Allowance
import HotPath.Proofs.Lang.Soundness
import HotPath.Proofs.Native.Boxing
import Mathlib.Data.List.Basic

/-!
The two tiers agree on every call: code of the reference compiler, fitted to the declared signature,
answers as the interpreter does, leaves the same argument slots and the same memory, and ends
exactly when the interpreter does.
-/

namespace HotPath

/-! ## Signatures and their shapes -/

namespace Signature

theorem length_byRefIndices (signature : Signature) :
    signature.byRefIndices.length = signature.params.countP (·.isByRef) := by
  have byName : signature.params.zipIdx.countP (·.1.isByRef) =
      (signature.params.zipIdx.map Prod.fst).countP (·.isByRef) := by
    rw [List.countP_map]
    rfl
  rw [byRefIndices, List.length_map, ← List.countP_eq_length_filter, byName, List.zipIdx_map_fst]

theorem length_modes (signature : Signature) : signature.modes.length = signature.arity := by
  simp [modes, arity]

theorem length_byRefIndices_eq_zero (signature : Signature) :
    signature.byRefIndices.length = 0 ↔
      ∀ parameter ∈ signature.params, parameter.mode = .byValue := by
  rw [length_byRefIndices, List.countP_eq_zero]
  refine forall₂_congr fun parameter _ => ?_
  cases same : parameter.mode <;> simp [Parameter.isByRef, same]

theorem modes_eq_pair (signature : Signature) :
    signature.modes = [.byRef, .byRef] ↔
      signature.arity = 2 ∧ signature.byRefIndices.length = 2 := by
  rw [length_byRefIndices]
  constructor
  · intro modes
    have arity : signature.arity = 2 := by rw [← length_modes, modes]; rfl
    obtain ⟨first, second, params⟩ := List.length_eq_two.mp arity
    obtain ⟨one, other⟩ : first.mode = .byRef ∧ second.mode = .byRef := by
      simpa [Signature.modes, params] using modes
    refine ⟨arity, ?_⟩
    simp [params, Parameter.isByRef, one, other]
  · rintro ⟨arity, both⟩
    have every : ∀ parameter ∈ signature.params, parameter.isByRef = true :=
      List.countP_eq_length.mp (both.trans arity.symm)
    obtain ⟨first, second, params⟩ := List.length_eq_two.mp arity
    simpa [Signature.modes, params, Parameter.isByRef] using every

theorem selectShape_cases (signature : Signature) :
    (signature.selectShape = ⟨.actionRef2, true⟩ ∧ signature.isVoid = true ∧
        signature.modes = [.byRef, .byRef]) ∨
      (signature.selectShape =
          ⟨if signature.isVoid then .action signature.arity else .func signature.arity, true⟩ ∧
        ∀ mode ∈ signature.modes, mode = .byValue) ∨
      signature.selectShape = ⟨.uniform signature.arity (!signature.isVoid), false⟩ := by
  by_cases two : signature.isVoid = true ∧ signature.arity = 2 ∧ signature.byRefIndices.length = 2
  · left
    exact ⟨by simp [selectShape, two], two.1, signature.modes_eq_pair.mpr two.2⟩
  · right
    by_cases none : signature.byRefIndices.length = 0 ∧ signature.arity ≤ maxDirectArity
    · left
      refine ⟨by simp only [selectShape, if_neg two, if_pos none], ?_⟩
      exact List.forall_mem_map.mpr (signature.length_byRefIndices_eq_zero.mp none.1)
    · right
      simp only [selectShape, if_neg two, if_neg none]

theorem writeBack_of_byValue {α : Type} {modes : List PassMode}
    (plain : ∀ mode ∈ modes, mode = .byValue) (args finals : List α) :
    writeBack modes args finals = args := by
  induction modes generalizing args finals with
  | nil => rfl
  | cons mode modes ih =>
    obtain ⟨rfl, rest⟩ := List.forall_mem_cons.mp plain
    cases args with
    | nil => rfl
    | cons arg args =>
      cases finals with
      | nil => rfl
      | cons final finals => simp [writeBack, ih rest]

/-- Uniform code reaches exactly the by-reference parameters through boxes. -/
theorem accesses_uniform (signature : Signature) (arity base : Nat) (returns : Bool) :
    signature.accesses (.uniform arity returns) =
      Mirrors.access (Adapter.boxOf base signature.modes) := by
  funext index
  simp only [accesses, Mirrors.access, Adapter.boxOf_isSome, modes, List.getElem?_map]
  cases signature.params[index]? with
  | none => rfl
  | some parameter => rfl

end Signature

/-! ## Lowered bodies -/

def Definition.procedure (definition : Definition) : Procedure :=
  ⟨definition.body.lower (definition.signature.accesses definition.signature.selectShape.shape),
    definition.locals⟩

/-- The entry point of the lowered body for some cells. -/
def Definition.native (definition : Definition) (binding : Binding) : NativeFn :=
  definition.procedure.entryPoint binding definition.signature.selectShape.shape

theorem Procedure.shape_entryPoint (procedure : Procedure) (binding : Binding) (shape : Shape) :
    (procedure.entryPoint binding shape).shape = shape := by
  cases shape <;> rfl

/-- The same end of a call, as far as a host can tell. -/
structure Reply.Alike (first second : Reply) : Prop where
  outcome : second.outcome = first.outcome
  slots : second.slots = first.slots
  store : first.store.Alike second.store

theorem Run.onFrame_mirrors {arity : Nat} {boxes : Nat → Option Nat} {body code : Run Value}
    (same : Run.Simulates (Mirrors arity boxes) body code) {args passed : List Value}
    {store store' : Store} (fits : args.length = arity)
    (boxed : Boxed boxes args store passed store') (locals : Nat) :
    let plain := Run.onFrame body locals args store
    let compiled := Run.onFrame code locals passed store'
    compiled.outcome = plain.outcome ∧ plain.slots.length = arity ∧
      Boxed boxes plain.slots plain.store compiled.slots compiled.store := by
  have start : Mirrors arity boxes ⟨args, List.replicate locals .unit, store⟩
    ⟨passed, List.replicate locals .unit, store'⟩ := ⟨fits, rfl, boxed⟩
  obtain ⟨outcome, left, right, frames, plain, compiled⟩ :=
    Run.onFrame_alike start fun _ => same _ _ start
  simp only [plain, compiled, true_and]
  exact ⟨frames.arity, frames.params⟩

/-- Two closures bind the same cells to the captured variables of a function. -/
def Definition.SameCells (definition : Definition) (first second : Binding) : Prop :=
  ∀ slot < definition.captures.length, second[slot]? = first[slot]?

/-- The body of a function and its lowering, run on arguments and on what is
passed on for them. -/
theorem Definition.procedure_agrees (definition : Definition) {binding binding' : Binding}
    (sameCells : definition.SameCells binding binding') {boxes : Nat → Option Nat}
    (reached : definition.signature.accesses definition.signature.selectShape.shape =
      Mirrors.access boxes)
    (injective : ∀ first second made, boxes first = some made → boxes second = some made →
      first = second)
    (rounds : Nat) {args passed : List Value} {store store' : Store}
    (fits : args.length = definition.signature.arity)
    (boxed : Boxed boxes args store passed store') :
    let plain := Run.onFrame (definition.body.eval rounds binding) definition.locals args store
    let compiled := definition.procedure.run rounds binding' passed store'
    compiled.outcome = plain.outcome ∧ plain.slots.length = definition.signature.arity ∧
      Boxed boxes plain.slots plain.store compiled.slots compiled.store := by
  have access : SameAccess (Mirrors definition.signature.arity boxes) definition.draft.scope
      binding binding' (Mirrors.access boxes) := Mirrors.sameAccess injective sameCells
  have same := definition.body.lower_simulates access rounds definition.noStray
  rw [← reached] at same
  exact Run.onFrame_mirrors same fits boxed definition.locals

/-! ## One call on both tiers -/

theorem Outcome.map_map {α β γ : Type} (f : α → β) (g : β → γ) (outcome : Outcome α) :
    (outcome.map f).map g = outcome.map (g ∘ f) := by
  cases outcome <;> rfl

namespace Definition

variable {definition : Definition} {closure : Option Binding} {binding : Binding}
  {args : List Value} {store store' : Store}

theorem byValue_agrees
    (selected : definition.signature.selectShape = ⟨if definition.signature.isVoid then
      .action definition.signature.arity else .func definition.signature.arity, true⟩)
    (plain : ∀ mode ∈ definition.signature.modes, mode = .byValue)
    (sameCells : definition.SameCells (closure.getD []) binding) (rounds : Nat)
    (fits : args.length = definition.signature.arity) (alike : store.Alike store') :
    (definition.interpret rounds args closure store).Alike
      ((CompiledEntry.direct (definition.native binding)).call rounds args store') := by
  have reached : definition.signature.accesses definition.signature.selectShape.shape =
      Mirrors.access fun _ => none := by
    funext index
    rw [selected]
    split <;> rfl
  obtain ⟨outcome, _, boxed⟩ := definition.procedure_agrees sameCells reached nofun rounds fits
    (.ofAlike alike fun _ => rfl)
  simp only [interpret, fits, ne_eq, not_true_eq_false, ↓reduceIte, native, selected,
    Signature.writeBack_of_byValue plain]
  cases definition.signature.isVoid with
  | false => exact ⟨outcome, rfl, boxed.alike⟩
  | true =>
    refine ⟨?_, rfl, boxed.alike⟩
    simp only [↓reduceIte, ← outcome]
    exact Outcome.map_map _ _ _

/-- Two-slot code gives back the final contents of its slots. -/
theorem twoSlots_agrees
    (selected : definition.signature.selectShape = ⟨.actionRef2, true⟩)
    (void : definition.signature.isVoid = true)
    (modes : definition.signature.modes = [.byRef, .byRef])
    (sameCells : definition.SameCells (closure.getD []) binding) (rounds : Nat)
    (fits : args.length = definition.signature.arity) (alike : store.Alike store') :
    (definition.interpret rounds args closure store).Alike
      ((CompiledEntry.direct (definition.native binding)).call rounds args store') := by
  have reached : definition.signature.accesses definition.signature.selectShape.shape =
      Mirrors.access fun _ => none := by
    rw [selected]
    rfl
  have two : definition.signature.arity = 2 := by
    rw [← Signature.length_modes, modes]
    rfl
  obtain ⟨outcome, whole, boxed⟩ := definition.procedure_agrees sameCells reached nofun rounds fits
    (.ofAlike alike fun _ => rfl)
  obtain ⟨a, b, rfl⟩ := List.length_eq_two.mp (fits.trans two)
  obtain ⟨first, second, slots⟩ := List.length_eq_two.mp (whole.trans two)
  have same : (definition.procedure.run rounds binding [a, b] store').slots = [first, second] := by
    rw [← slots]
    exact List.ext_getElem? fun index => boxed.slot index rfl
  simp only [interpret, fits, ne_eq, not_true_eq_false, ↓reduceIte, native, selected, void, modes,
    slots]
  refine ⟨?_, ?_, boxed.alike⟩
  · rw [← outcome]
    exact Outcome.map_map _ _ _
  · simp [CompiledEntry.call, Procedure.entryPoint, NativeFn.callRaw, same, Signature.writeBack]

/-- The uniform code of a function under its adapter. -/
def adapter (definition : Definition) (binding : Binding) : Adapter where
  modes := definition.signature.modes
  returns := !definition.signature.isVoid
  target rounds args store :=
    let reply := definition.procedure.run rounds binding args store
    (if !definition.signature.isVoid then reply.outcome else reply.outcome.map fun _ => .unit,
      reply.store)

theorem adapted_agrees
    (selected : definition.signature.selectShape =
      ⟨.uniform definition.signature.arity (!definition.signature.isVoid), false⟩)
    (sameCells : definition.SameCells (closure.getD []) binding) (rounds : Nat)
    (fits : args.length = definition.signature.arity) (alike : store.Alike store') :
    (definition.interpret rounds args closure store).Alike
      ((CompiledEntry.adapted (definition.adapter binding)).call rounds args store') := by
  have declared := fits.trans definition.signature.length_modes.symm
  have passed :=
    (Adapter.boxArgs_boxed store' definition.signature.modes args declared).ofMemory alike
  have reached : definition.signature.accesses definition.signature.selectShape.shape =
      Mirrors.access (Adapter.boxOf store'.frameBoxes.size definition.signature.modes) := by
    rw [selected]
    exact definition.signature.accesses_uniform _ _ _
  obtain ⟨outcome, whole, boxed⟩ := definition.procedure_agrees sameCells reached
    (fun _ _ _ => Adapter.boxOf_injective) rounds fits passed
  obtain ⟨slots, memory⟩ := Adapter.unboxArgs_eq passed boxed declared
    (whole.trans definition.signature.length_modes.symm)
  simp only [interpret, fits, ne_eq, not_true_eq_false, ↓reduceIte]
  refine ⟨?_, slots, memory⟩
  rw [← outcome]
  simp only [CompiledEntry.call, Adapter.call, adapter]
  by_cases void : definition.signature.isVoid = true
  · simp only [void, Bool.not_true, Bool.false_eq_true, ↓reduceIte]
    exact Outcome.map_map _ _ _
  · simp only [void, Bool.not_false, ↓reduceIte]
    rfl

def entry (definition : Definition) (binding : Binding) : CompiledEntry :=
  if definition.signature.selectShape.exact then .direct (definition.native binding)
  else .adapted (definition.adapter binding)

theorem resolve_native (definition : Definition) (binding : Binding) :
    CompiledEntry.resolve definition.signature (definition.native binding) =
      .ok (definition.entry binding) := by
  rcases definition.signature.selectShape_cases with
    ⟨selected, _⟩ | ⟨selected, _⟩ | selected
  · simp [CompiledEntry.resolve, native, entry, selected, Procedure.shape_entryPoint]
  · simp [CompiledEntry.resolve, native, entry, selected, Procedure.shape_entryPoint]
  · simp [CompiledEntry.resolve, native, entry, selected, Procedure.entryPoint, Adapter.fit,
      Except.map, adapter]

/-- A call on the interpreter and the same call of compiled code, on memories that
a host cannot tell apart. -/
theorem entry_agrees (sameCells : definition.SameCells (closure.getD []) binding) (rounds : Nat)
    (fits : args.length = definition.signature.arity) (alike : store.Alike store') :
    (definition.interpret rounds args closure store).Alike
      ((definition.entry binding).call rounds args store') := by
  rcases definition.signature.selectShape_cases with
    ⟨selected, void, modes⟩ | ⟨selected, plain⟩ | selected
  · rw [entry, selected]
    exact twoSlots_agrees selected void modes sameCells rounds fits alike
  · rw [entry, selected]
    exact byValue_agrees selected plain sameCells rounds fits alike
  · rw [entry, selected]
    exact adapted_agrees selected sameCells rounds fits alike

end Definition

end HotPath

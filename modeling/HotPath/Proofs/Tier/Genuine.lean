import HotPath.Proofs.Native.ReferenceCode
import HotPath.Proofs.Tier.Turns

/-!
Under faithful compilers an engine publishes nothing but reference code, and finds for a function
the controller of that function.
-/

namespace HotPath

theorem Controller.Change.published_origin {setup : Setup} {asked : Prop}
    {controller changed : Controller} (change : controller.Change setup asked changed)
    {code : CompiledCode} (published : changed.published = some code) :
    controller.published = some code ∨
      controller.definition.generated setup.compiler = .ok code := by
  cases change with
  | kept | interpreted | promoted => exact .inl published
  | compiled unsettled =>
    rw [generate_eq] at published
    cases generated : controller.definition.generated setup.compiler with
    | ok code' =>
      rw [generated] at published
      cases published
      exact .inr rfl
    | error error =>
      rw [generated] at published
      exact .inl published
  | counted _ count | scheduled _ count =>
    obtain rfl := countCall?_eq_some count
    exact .inl published

namespace Engine

/-- Controllers belong to known functions and publish their reference code. -/
structure Genuine (known : Definition → Prop) (engine : Engine) : Prop where
  known : ∀ {id : ControllerId} {controller : Controller},
    engine.controllers[id]? = some controller → known controller.definition
  published : ∀ {id : ControllerId} {controller : Controller} {code : CompiledCode},
    engine.controllers[id]? = some controller → controller.published = some code →
      code = controller.definition.referenceCode
  registered : engine.Registered

variable {setup : Setup} {known : Definition → Prop} {asked : ControllerId → Prop}
  {engine next : Engine}

theorem Genuine.move (genuine : Genuine known engine) (faithful : setup.compiler.Faithful)
    (move : Move setup known asked engine next) : Genuine known next where
  known found := by
    rcases move.controller_origin found with ⟨earlier, present, change⟩ |
      ⟨-, definition, mentioned, -, rfl⟩
    · rw [change.definition]
      exact genuine.known present
    · exact mentioned
  published found published := by
    rcases move.controller_origin found with ⟨earlier, present, change⟩ |
      ⟨-, definition, mentioned, -, rfl⟩
    · rw [change.definition]
      rcases change.published_origin published with before | generated
      · exact genuine.published present before
      · exact Definition.generated_faithful faithful generated
    · cases published
  registered := genuine.registered.move move

theorem Moves.genuine (moves : Moves setup known asked engine next)
    (faithful : setup.compiler.Faithful) (genuine : Genuine known engine) : Genuine known next :=
  moves.keeps (Genuine known) (fun move before => before.move faithful move) genuine

theorem Begins.genuine {begun : Engine} (begins : Begins begun) (known : Definition → Prop) :
    Genuine known begun := by
  refine ⟨?_, ?_, begins.registered⟩ <;> induction begins with
  | installed kind drained => simp [install]
  | logged _ _ _ genuine => exact genuine

/-- A closure that fits is missing only where none is needed. -/
theorem hasClosure_of_checkClosure {definition : Definition} {closure : Option Binding}
    (closes : definition.checkClosure closure = .ok ()) :
    closure = none → definition.hasClosure = false := by
  rintro rfl
  unfold Definition.checkClosure at closes
  unfold Definition.hasClosure
  cases captures : definition.captures with
  | nil => rfl
  | cons name rest => simp [captures] at closes

theorem Genuine.entryFor? (genuine : Genuine known engine) {id : ControllerId}
    {controller : Controller} (found : engine.controllers[id]? = some controller)
    {closure : Option Binding} (closes : controller.definition.checkClosure closure = .ok ())
    {entered : Except Mismatch CompiledEntry}
    (entry : controller.entryFor? closure = some entered) :
    ∃ binding, controller.definition.SameCells (closure.getD []) binding ∧
      entered = .ok (controller.definition.entry binding) := by
  obtain ⟨code, published, resolved⟩ := Option.map_eq_some_iff.mp entry
  obtain rfl := genuine.published found published
  obtain ⟨binding, sameCells, entryPoint⟩ :=
    Definition.entryPoint?_referenceCode (hasClosure_of_checkClosure closes)
  refine ⟨binding, sameCells, ?_⟩
  rw [← resolved, entryPoint]
  exact controller.definition.resolve_native binding

/-- Identities tell some functions apart. -/
def Distinct (known : Definition → Prop) : Prop :=
  ∀ first second, known first → known second → first.id = second.id → first = second

/-- Where identities tell functions apart, a function is tracked by its own controller. -/
theorem Genuine.controllerFor (genuine : Genuine known engine) (setup : Setup)
    (distinct : Distinct known) {definition : Definition} (mentioned : known definition) :
    ∃ controller, (engine.controllerFor setup definition).2.controllers[
        (engine.controllerFor setup definition).1]? = some controller ∧
      controller.definition = definition := by
  unfold Engine.controllerFor
  cases tracked : engine.tracked? definition.id with
  | some id =>
    obtain ⟨controller, present, its⟩ := genuine.registered (registered_of_tracked tracked)
    exact ⟨controller, present, distinct _ _ (genuine.known present) mentioned its⟩
  | none => exact ⟨{ definition, scheduler := engine.current }, by simp [log, record], rfl⟩

end Engine

end HotPath

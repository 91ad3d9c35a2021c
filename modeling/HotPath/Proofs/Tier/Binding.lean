import HotPath.Proofs.Tier.Pinning
import HotPath.Proofs.Tier.Statistics
import HotPath.Proofs.Tier.Transparency

/-!
Binding a function to a closure. A closure that does not fit is refused before anything is compiled.
With an interpreter every other bind succeeds; without one it succeeds as far as the function was
compiled and its code has the selected shape.
-/

namespace HotPath

namespace Definition

variable {definition : Definition} {closure : Option Binding}

/-- The closures that a function takes: none if it captures nothing, and otherwise one with
a cell for each captured variable. -/
inductive Takes (definition : Definition) : Option Binding → Prop where
  | none (plain : definition.captures = []) : Takes definition none
  | some {binding : Binding} (capturing : definition.captures ≠ [])
      (length : binding.length = definition.captures.length) : Takes definition (some binding)

/-- How a closure fails to fit a function. -/
inductive Misfits (definition : Definition) : Option Binding → DefinitionError → Prop where
  | unexpected (binding : Binding) (plain : definition.captures = []) :
      Misfits definition (some binding) (.unexpectedClosure binding.length)
  | missing (capturing : definition.captures ≠ []) :
      Misfits definition none (.missingClosure definition.captures.length)
  | arity {binding : Binding} (capturing : definition.captures ≠ [])
      (other : binding.length ≠ definition.captures.length) :
      Misfits definition (some binding)
        (.closureArity definition.captures.length binding.length)

theorem checkClosure_of_capturing (capturing : definition.captures ≠ []) :
    definition.checkClosure closure =
      match closure with
      | none => .error (.missingClosure definition.captures.length)
      | some binding =>
        if binding.length = definition.captures.length then .ok ()
        else .error (.closureArity definition.captures.length binding.length) := by
  unfold checkClosure
  cases captures : definition.captures with
  | nil => exact absurd captures capturing
  | cons name rest => cases closure <;> rfl

theorem checkClosure_of_plain (plain : definition.captures = []) :
    definition.checkClosure closure =
      match closure with
      | none => .ok ()
      | some binding => .error (.unexpectedClosure binding.length) := by
  unfold checkClosure
  rw [plain]
  cases closure <;> rfl

theorem checkClosure_eq_ok :
    definition.checkClosure closure = .ok () ↔ definition.Takes closure := by
  constructor
  · intro accepted
    by_cases plain : definition.captures = []
    · rw [checkClosure_of_plain plain] at accepted
      cases closure with
      | none => exact .none plain
      | some binding => cases accepted
    · rw [checkClosure_of_capturing plain] at accepted
      cases closure with
      | none => cases accepted
      | some binding =>
        by_cases length : binding.length = definition.captures.length
        · exact .some plain length
        · simp [length] at accepted
  · intro takes
    cases takes with
    | none plain => rw [checkClosure_of_plain plain]
    | some capturing length => simp [checkClosure_of_capturing capturing, length]

theorem checkClosure_eq_error {error : DefinitionError} :
    definition.checkClosure closure = .error error ↔ definition.Misfits closure error := by
  constructor
  · intro refused
    by_cases plain : definition.captures = []
    · rw [checkClosure_of_plain plain] at refused
      cases closure with
      | none => cases refused
      | some binding =>
        cases refused
        exact .unexpected binding plain
    · rw [checkClosure_of_capturing plain] at refused
      cases closure with
      | none =>
        cases refused
        exact .missing plain
      | some binding =>
        by_cases length : binding.length = definition.captures.length
        · simp [length] at refused
        · simp only [length, ↓reduceIte] at refused
          cases refused
          exact .arity plain length
  · intro misfits
    cases misfits with
    | unexpected binding plain => rw [checkClosure_of_plain plain]
    | missing capturing => rw [checkClosure_of_capturing capturing]
    | arity capturing other => simp [checkClosure_of_capturing capturing, other]

theorem takes_or_misfits (definition : Definition) (closure : Option Binding) :
    definition.Takes closure ∨ ∃ error, definition.Misfits closure error := by
  cases checked : definition.checkClosure closure with
  | ok _ => exact .inl (checkClosure_eq_ok.mp checked)
  | error error => exact .inr ⟨error, checkClosure_eq_error.mp checked⟩

end Definition

namespace Controller

variable {controller : Controller} {closure : Option Binding}

/-- The code that a controller has published, for the cells of a closure. -/
def code? (controller : Controller) (closure : Option Binding) : Option NativeFn :=
  controller.published.bind (·.entryPoint? closure)

theorem Shaped.code? (shaped : controller.Shaped) {code : CompiledCode}
    (published : controller.published = some code)
    (closes : controller.definition.checkClosure closure = .ok ()) :
    ∃ native, controller.code? closure = some native := by
  cases code with
  | direct native => exact ⟨native, by simp [Controller.code?, published, CompiledCode.entryPoint?]⟩
  | factory make =>
    cases closure with
    | none =>
      have plain := Engine.hasClosure_of_checkClosure closes rfl
      cases plain.symm.trans (shaped.factory published)
    | some binding =>
      exact ⟨make binding, by simp [Controller.code?, published, CompiledCode.entryPoint?]⟩

theorem Shaped.entryFor? (shaped : controller.Shaped)
    (closes : controller.definition.checkClosure closure = .ok ()) :
    controller.entryFor? closure =
      (controller.code? closure).map (CompiledEntry.resolve controller.definition.signature) := by
  cases published : controller.published with
  | none => simp [Controller.entryFor?, Controller.code?, published]
  | some code =>
    obtain ⟨native, present⟩ := shaped.code? published closes
    have entryPoint : code.entryPoint? closure = some native := by
      simpa [Controller.code?, published] using present
    simp [Controller.entryFor?, published, entryPoint, present]

end Controller

namespace Engine

def code? (engine : Engine) (definition : Definition) (closure : Option Binding) :
    Option NativeFn := do
  let id ← engine.tracked? definition.id
  let controller ← engine.controllers[id]?
  controller.code? closure

/-- What the attempt to compile a function came to, if there was one. -/
def verdictOn? (engine : Engine) (definition : Definition) : Option (Except CompileError Unit) := do
  let id ← engine.tracked? definition.id
  engine.verdict? id

/-- The engine with a new controller for a function. -/
def tracking (setup : Setup) (engine : Engine) (definition : Definition) : Engine :=
  { engine.log setup (.tracking definition.name) with
    controllers := engine.controllers.push { definition, scheduler := engine.current }
    registry := (definition.id, engine.controllers.size) :: engine.registry }

section

variable {setup : Setup} {engine : Engine} {definition : Definition} {closure : Option Binding}
  {id : ControllerId} {controller : Controller}

/-! ## Looking up a controller -/

/-- What looking up the controller of a function comes to: the function has one already, or
one is made for it, and nothing else. -/
inductive LooksUp (setup : Setup) (engine : Engine) (definition : Definition) :
    ControllerId × Engine → Controller → Prop where
  | existing {id : ControllerId} {controller : Controller}
      (tracked : engine.tracked? definition.id = some id)
      (found : engine.controllers[id]? = some controller)
      (own : controller.definition = definition) :
      LooksUp setup engine definition (id, engine) controller
  | made (untracked : engine.tracked? definition.id = none) :
      LooksUp setup engine definition (engine.controllers.size, engine.tracking setup definition)
        { definition, scheduler := engine.current }

theorem looksUp (setup : Setup) (registered : engine.Registered)
    (own : ∀ {id : ControllerId} {controller : Controller},
      engine.controllers[id]? = some controller → controller.definition.id = definition.id →
        controller.definition = definition) :
    ∃ controller, LooksUp setup engine definition (engine.controllerFor setup definition)
      controller := by
  unfold controllerFor
  cases tracked : engine.tracked? definition.id with
  | none => exact ⟨_, .made tracked⟩
  | some id =>
    obtain ⟨controller, found, its⟩ := registered (registered_of_tracked tracked)
    exact ⟨controller, .existing tracked found (own found its)⟩

namespace LooksUp

variable {lookup : ControllerId × Engine}
  (looks : LooksUp setup engine definition lookup controller)

include looks

theorem found : lookup.2.controllers[lookup.1]? = some controller := by
  cases looks with
  | existing _ found => exact found
  | made => simp [tracking]

theorem own : controller.definition = definition := by
  cases looks with
  | existing _ _ own => exact own
  | made => rfl

theorem tracked : lookup.2.tracked? definition.id = some lookup.1 := by
  cases looks with
  | existing tracked => exact tracked
  | made => exact List.lookup_cons_self

theorem handles : lookup.2.handles = engine.handles := by
  cases looks <;> rfl

theorem requested : lookup.2.requested = engine.requested := by
  cases looks with
  | existing => rfl
  | made => exact requested_log setup engine _

theorem leaves :
    lookup.2 = engine ∨
      engine.tracked? definition.id = none ∧ lookup.2 = engine.tracking setup definition := by
  cases looks with
  | existing => exact .inl rfl
  | made untracked => exact .inr ⟨untracked, rfl⟩

theorem code?_eq (closure : Option Binding) :
    engine.code? definition closure = controller.code? closure := by
  cases looks with
  | existing tracked found => simp [Engine.code?, tracked, found]
  | made untracked => simp [Engine.code?, untracked, Controller.code?]

theorem verdictOn?_eq : engine.verdictOn? definition = controller.settled? := by
  cases looks with
  | existing tracked found => simp [verdictOn?, tracked, verdict?_eq found]
  | made untracked => simp [verdictOn?, untracked, Controller.settled?]

end LooksUp

/-! ## Without an interpreter -/

theorem compile_answer (setup : Setup) (found : engine.controllers[id]? = some controller) :
    (engine.compile setup id).1 =
      controller.settled?.getD (controller.definition.attempt setup.compiler) := by
  cases settled : controller.settled? with
  | some answer => rw [compile_settled found settled, Option.getD_some]
  | none =>
    rw [(compile_unsettled setup found settled).1, Controller.generate_eq]
    rfl

/-- How a bind ends that compiles at once. -/
inductive BoundCompiled (setup : Setup) (engine : Engine) (id : ControllerId)
    (definition : Definition) (closure : Option Binding) :
    Except BindError HandleId × Engine → Prop where
  | failed {error : CompileError} (verdict : (engine.compile setup id).1 = .error error) :
      BoundCompiled setup engine id definition closure
        (.error (.compile error), (engine.compile setup id).2)
  | misshapen {changed : Controller} {native : NativeFn}
      (verdict : (engine.compile setup id).1 = .ok ())
      (present : (engine.compile setup id).2.controllers[id]? = some changed)
      (code : changed.code? closure = some native)
      (other : native.shape ≠ definition.signature.selectShape.shape) :
      BoundCompiled setup engine id definition closure
        (.error (.compile
          (.unexpectedShape definition.signature.selectShape.shape native.shape)),
          (engine.compile setup id).2)
  | bound {changed : Controller} {native : NativeFn} {entry : CompiledEntry}
      (verdict : (engine.compile setup id).1 = .ok ())
      (present : (engine.compile setup id).2.controllers[id]? = some changed)
      (code : changed.code? closure = some native)
      (resolved : CompiledEntry.resolve definition.signature native = .ok entry) :
      BoundCompiled setup engine id definition closure
        (.ok engine.handles.size,
          ((engine.compile setup id).2.addHandle ⟨definition, .compiled entry⟩).2)

theorem boundCompiled (setup : Setup) (found : engine.controllers[id]? = some controller)
    (shaped : controller.Shaped) (closes : controller.definition.checkClosure closure = .ok ()) :
    BoundCompiled setup engine id controller.definition closure
      (engine.bindCompiled setup id controller closure) := by
  -- Compiling leaves the definition alone, so the closure fits afterwards as well.
  have moves : Moves setup (fun _ => True) (fun _ => True) engine (engine.compile setup id).2 :=
    compile_moves trivial
  obtain ⟨changed, present, same⟩ := moves.definition found
  have shaped' : changed.Shaped := moves.controller_keeps Controller.Shaped
    (fun change shaped => shaped.change change) (fun _ _ => ⟨nofun, nofun⟩)
    (fun its => by cases found.symm.trans its; exact shaped) present
  have settles := compile_settles setup found
  have size := (idle_compile setup engine id).size
  rw [← same] at closes
  have entered := shaped'.entryFor? closes
  unfold bindCompiled
  cases verdict : (engine.compile setup id).1 with
  | error error =>
    have result : engine.compile setup id = (.error error, (engine.compile setup id).2) :=
      Prod.ext verdict rfl
    rw [result]
    exact .failed verdict
  | ok _ =>
    have result : engine.compile setup id = (.ok (), (engine.compile setup id).2) :=
      Prod.ext verdict rfl
    obtain ⟨other, present', settled⟩ := settles
    cases present.symm.trans present'
    rw [verdict] at settled
    obtain ⟨code, published⟩ := Controller.published_of_settled settled
    obtain ⟨native, its⟩ := shaped'.code? published closes
    rw [result]
    simp only [present, Option.bind_some, entered, its, Option.map_some, same]
    by_cases fits : native.shape = controller.definition.signature.selectShape.shape
    · obtain ⟨entry, resolved, -⟩ := CompiledEntry.resolve_of_shape fits
      rw [resolved]
      have made : ((engine.compile setup id).2.addHandle
          ⟨controller.definition, .compiled entry⟩).1 = engine.handles.size := size
      simp only [made]
      exact .bound verdict present its resolved
    · rw [CompiledEntry.resolve_of_other_shape fits]
      exact .misshapen verdict present its fits

/-! ## With an interpreter -/

/-- What a handle is bound to by an engine with an interpreter: to published code of the selected
shape if that is exact, and otherwise to the controller. -/
inductive DispatchesTo (id : ControllerId) (controller : Controller) (closure : Option Binding) :
    Dispatch → Prop where
  | compiled {native : NativeFn} {entry : CompiledEntry}
      (exact : controller.definition.signature.selectShape.exact = true)
      (code : controller.code? closure = some native)
      (resolved : CompiledEntry.resolve controller.definition.signature native = .ok entry) :
      DispatchesTo id controller closure (.compiled entry)
  | interpreted
      (unready : ¬ (controller.definition.signature.selectShape.exact = true ∧
        ∃ native, controller.code? closure = some native ∧
          native.shape = controller.definition.signature.selectShape.shape)) :
      DispatchesTo id controller closure (.interpreted id closure .unresolved)

theorem DispatchesTo.isCompiled_iff {dispatch : Dispatch}
    (dispatches : DispatchesTo id controller closure dispatch) (definition : Definition) :
    (Handle.mk definition dispatch).isCompiled = true ↔
      controller.definition.signature.selectShape.exact = true ∧
        ∃ native, controller.code? closure = some native ∧
          native.shape = controller.definition.signature.selectShape.shape := by
  cases dispatches with
  | compiled exact code resolved =>
    exact iff_of_true rfl ⟨exact, _, code, (CompiledEntry.resolve_ok resolved).1⟩
  | interpreted unready => exact iff_of_false Bool.false_ne_true unready

theorem bindController_interpreting (engine : Engine) (id : ControllerId)
    (interprets : setup.interprets = true) (shaped : controller.Shaped)
    (closes : controller.definition.checkClosure closure = .ok ()) :
    ∃ dispatch, DispatchesTo id controller closure dispatch ∧
      engine.bindController setup id controller closure =
        (.ok engine.handles.size,
          (engine.addHandle ⟨controller.definition, dispatch⟩).2) := by
  have entered := shaped.entryFor? closes
  simp only [bindController, closes, interprets, Bool.not_true, Bool.false_eq_true, ↓reduceIte,
    Controller.selection]
  cases exact : controller.definition.signature.selectShape.exact with
  | false => exact ⟨_, .interpreted (by simp [exact]), rfl⟩
  | true =>
    cases code : controller.code? closure with
    | none =>
      rw [code, Option.map_none] at entered
      rw [entered]
      exact ⟨_, .interpreted (by simp [code]), rfl⟩
    | some native =>
      rw [code, Option.map_some] at entered
      by_cases fits : native.shape = controller.definition.signature.selectShape.shape
      · obtain ⟨entry, resolved, -⟩ := CompiledEntry.resolve_of_shape fits
        rw [entered, resolved]
        exact ⟨_, .compiled exact code resolved, rfl⟩
      · rw [entered, CompiledEntry.resolve_of_other_shape fits]
        refine ⟨_, .interpreted ?_, rfl⟩
        rintro ⟨-, other, present, same⟩
        cases code.symm.trans present
        exact fits same

/-! ## Binds through a controller -/

theorem bindController_misfit (setup : Setup) (engine : Engine) (id : ControllerId)
    {error : DefinitionError} (misfits : controller.definition.Misfits closure error) :
    engine.bindController setup id controller closure = (.error (.definition error), engine) := by
  simp only [bindController, Definition.checkClosure_eq_error.mpr misfits]

theorem bindController_compiling (compileOnly : setup.interprets = false)
    (found : engine.controllers[id]? = some controller) (shaped : controller.Shaped)
    (closes : controller.definition.checkClosure closure = .ok ()) :
    BoundCompiled setup engine id controller.definition closure
      (engine.bindController setup id controller closure) := by
  simp only [bindController, closes, compileOnly, Bool.not_false, ↓reduceIte]
  exact boundCompiled setup found shaped closes

theorem bindController_definition_iff (found : engine.controllers[id]? = some controller)
    (shaped : controller.Shaped) {error : DefinitionError} :
    (engine.bindController setup id controller closure).1 = .error (.definition error) ↔
      controller.definition.Misfits closure error := by
  constructor
  · intro refused
    rcases controller.definition.takes_or_misfits closure with takes | ⟨other, misfits⟩
    · -- A closure that fits brings no such error, whatever else happens.
      have closes := Definition.checkClosure_eq_ok.mpr takes
      cases interprets : setup.interprets with
      | true =>
        obtain ⟨dispatch, -, result⟩ :=
          bindController_interpreting engine id interprets shaped closes
        rw [result] at refused
        cases refused
      | false =>
        have bound := bindController_compiling interprets found shaped closes
        generalize engine.bindController setup id controller closure = result at bound refused
        cases bound <;> cases refused
    · rw [bindController_misfit setup engine id misfits] at refused
      cases refused
      exact misfits
  · intro misfits
    rw [bindController_misfit setup engine id misfits]

/-! ## The whole bind -/

namespace LooksUp

variable
  (looks : LooksUp setup engine definition (engine.controllerFor setup definition) controller)

include looks

theorem bind_eq (closure : Option Binding) :
    engine.bind setup definition closure =
      (engine.controllerFor setup definition).2.bindController setup
        (engine.controllerFor setup definition).1 controller closure := by
  unfold bind
  simp only [looks.found]

/-- A closure that does not fit is refused as soon as the controller is there. -/
theorem bind_misfit {error : DefinitionError} (misfits : definition.Misfits closure error) :
    engine.bind setup definition closure =
      (.error (.definition error), (engine.controllerFor setup definition).2) := by
  rw [← looks.own] at misfits
  rw [looks.bind_eq, bindController_misfit _ _ _ misfits]

theorem closes (takes : definition.Takes closure) :
    controller.definition.checkClosure closure = .ok () := by
  rw [looks.own, Definition.checkClosure_eq_ok]
  exact takes

theorem bind_interpreting (interprets : setup.interprets = true) (shaped : controller.Shaped)
    (takes : definition.Takes closure) :
    ∃ dispatch, DispatchesTo (engine.controllerFor setup definition).1 controller closure dispatch ∧
      engine.bind setup definition closure = (.ok engine.handles.size,
        ((engine.controllerFor setup definition).2.addHandle ⟨definition, dispatch⟩).2) := by
  obtain ⟨dispatch, dispatches, result⟩ := bindController_interpreting
    (engine.controllerFor setup definition).2 (engine.controllerFor setup definition).1 interprets
    shaped (looks.closes takes)
  refine ⟨dispatch, dispatches, ?_⟩
  rw [looks.bind_eq, result, looks.own, looks.handles]

theorem bind_compiling (compileOnly : setup.interprets = false) (shaped : controller.Shaped)
    (takes : definition.Takes closure) :
    BoundCompiled setup (engine.controllerFor setup definition).2
      (engine.controllerFor setup definition).1 definition closure
      (engine.bind setup definition closure) := by
  have bound := bindController_compiling compileOnly looks.found shaped (looks.closes takes)
  rwa [← looks.bind_eq, looks.own] at bound

theorem bind_definition_iff (shaped : controller.Shaped) {error : DefinitionError} :
    (engine.bind setup definition closure).1 = .error (.definition error) ↔
      definition.Misfits closure error := by
  rw [looks.bind_eq, bindController_definition_iff looks.found shaped, looks.own]

/-- The answer to the request to compile is the verdict on the function, or else what an
attempt comes to. -/
theorem compile_eq :
    ((engine.controllerFor setup definition).2.compile setup
      (engine.controllerFor setup definition).1).1 =
        (engine.verdictOn? definition).getD (definition.attempt setup.compiler) := by
  rw [compile_answer setup looks.found, looks.verdictOn?_eq, looks.own]

theorem code?_compile {changed : Controller}
    (present : ((engine.controllerFor setup definition).2.compile setup
      (engine.controllerFor setup definition).1).2.controllers[
        (engine.controllerFor setup definition).1]? = some changed) (closure : Option Binding) :
    ((engine.controllerFor setup definition).2.compile setup
      (engine.controllerFor setup definition).1).2.code? definition closure =
        changed.code? closure := by
  have tracked := looks.tracked
  have same : ((engine.controllerFor setup definition).2.compile setup
      (engine.controllerFor setup definition).1).2.registry =
        (engine.controllerFor setup definition).2.registry := registry_compile setup _ _
  rw [Engine.tracked?, ← same] at tracked
  simp [Engine.code?, Engine.tracked?, tracked, present]

end LooksUp

/-! ## Runs -/

/-- A run makes controllers for the functions that its commands speak of. -/
theorem Begins.mentioned {begun : Engine} (begins : Begins begun) {turns : List Turn}
    (found : (begun.afterTurns setup turns).controllers[id]? = some controller) :
    Mentions turns controller.definition := by
  refine turns_keep (fun engine => ∀ controller, engine.controllers[id]? = some controller →
    Mentions turns controller.definition) ?_ ?_ controller found
  · intro turn member engine earlier
    have moves : Moves (turn.setup setup) (Mentions turns) (fun _ => True) engine
        (engine.take setup turn).2 :=
      perform_moves (fun definition mentioned => ⟨turn, member, mentioned⟩) fun _ _ => trivial
    refine moves.keeps (fun engine => ∀ controller, engine.controllers[id]? = some controller →
      Mentions turns controller.definition) (fun move before controller found => ?_)
      earlier
    rcases move.controller_origin found with ⟨earlier, present, change⟩ |
      ⟨-, definition, mentioned, -, rfl⟩
    · rw [change.definition]
      exact before earlier present
    · exact mentioned
  · intro controller found
    simp [begins.blank.controllers] at found

/-- In every state of a run a bind looks up a controller of its own function, with code of
the selected shape as far as it is direct. -/
theorem Begins.looksUp {begun : Engine} (begins : Begins begun) (setup : Setup) {turns : List Turn}
    (own : ∀ other, Mentions turns other → other.id = definition.id → other = definition)
    (compiler : Compiler) :
    ∃ controller, controller.Shaped ∧
      LooksUp { setup with compiler } (begun.afterTurns setup turns) definition
        ((begun.afterTurns setup turns).controllerFor { setup with compiler } definition)
        controller := by
  have registered : (begun.afterTurns setup turns).Registered :=
    begins.registered_afterTurns turns
  obtain ⟨controller, looks⟩ := Engine.looksUp { setup with compiler } registered
    fun found its => own _ (begins.mentioned found) its
  refine ⟨controller, ?_, looks⟩
  generalize (begun.afterTurns setup turns).controllerFor _ definition = lookup at looks
  cases looks with
  | existing _ found => exact begins.shaped_afterTurns setup turns found
  | made => exact ⟨nofun, nofun⟩

end

variable {setup : Setup}

/-- A bind fails exactly if its closure does not fit or, without an interpreter, compiling gives
no entry; one that is refused for its closure leaves no trace. -/
theorem bind_fails_for_reason {begun engine next : Engine} (begins : Begins begun)
    {turns : List Turn} (reached : begun.afterTurns setup turns = engine)
    {definition : Definition}
    (own : ∀ other, Mentions turns other → other.id = definition.id → other = definition)
    {compiler : Compiler} {closure : Option Binding} {answer : Answer}
    (taken : engine.take setup ⟨compiler, .bind definition closure⟩ = (answer, next)) :
    (∀ error, answer = .bound (.error (.definition error)) ↔
      definition.Misfits closure error) ∧
    (∀ error, definition.Misfits closure error → next.requested = engine.requested ∧
      (next = engine ∨ engine.tracked? definition.id = none ∧
        next = engine.tracking { setup with compiler } definition)) ∧
    (setup.interprets = true → definition.Takes closure →
      answer = .bound (.ok engine.handles.size) ∧ next.requested = engine.requested ∧
      ∃ handle, next.handle? engine.handles.size = some handle ∧
        handle.definition = definition ∧
        (handle.isCompiled = true ↔ definition.signature.selectShape.exact = true ∧
          ∃ native, engine.code? definition closure = some native ∧
            native.shape = definition.signature.selectShape.shape)) ∧
    (setup.interprets = false → definition.Takes closure →
      ∀ verdict, (engine.verdictOn? definition).getD (definition.attempt compiler) = verdict →
      ((∃ target, answer = .bound (.ok target)) ↔ verdict = .ok () ∧
        ∃ native entry, next.code? definition closure = some native ∧
          CompiledEntry.resolve definition.signature native = .ok entry) ∧
      (∀ target, answer = .bound (.ok target) →
        ∃ entry, next.handle? target = some ⟨definition, .compiled entry⟩) ∧
      ((∀ target, answer ≠ .bound (.ok target)) →
        ∃ error, answer = .bound (.error (.compile error)) ∧
          (verdict = .error error ∨ verdict = .ok () ∧
            ∃ native, next.code? definition closure = some native ∧
              native.shape ≠ definition.signature.selectShape.shape ∧
              error = .unexpectedShape definition.signature.selectShape.shape
                native.shape))) := by
  subst reached
  obtain ⟨controller, shaped, looks⟩ := begins.looksUp setup own compiler
  generalize begun.afterTurns setup turns = engine at taken looks
  obtain ⟨rfl, rfl⟩ : .bound (engine.bind { setup with compiler } definition closure).1 = answer ∧
      (engine.bind { setup with compiler } definition closure).2 = next := Prod.mk.inj taken
  refine ⟨fun error => ?_, fun error misfits => ?_, fun interprets takes => ?_,
    fun compileOnly takes verdict judged => ?_⟩
  · rw [Answer.bound.injEq]
    exact looks.bind_definition_iff shaped
  · rw [looks.bind_misfit misfits]
    exact ⟨looks.requested, looks.leaves⟩
  · obtain ⟨dispatch, dispatches, result⟩ := looks.bind_interpreting interprets shaped takes
    rw [result]
    refine ⟨rfl, looks.requested, ⟨definition, dispatch⟩, ?_, rfl, ?_⟩
    · rw [handle?_addHandle, looks.handles, if_pos rfl]
    · rw [looks.code?_eq closure, dispatches.isCompiled_iff, looks.own]
  · have bound := looks.bind_compiling compileOnly shaped takes
    obtain rfl := looks.compile_eq.trans judged
    generalize engine.bind { setup with compiler } definition closure = result at bound
    cases bound with
    | failed failed =>
      refine ⟨iff_of_false (by simp) (by simp [failed]), by simp, fun _ => ⟨_, rfl, .inl failed⟩⟩
    | misshapen succeeded present code other =>
      have published := (looks.code?_compile present closure).trans code
      refine ⟨iff_of_false (by simp) ?_, by simp,
        fun _ => ⟨_, rfl, .inr ⟨succeeded, _, published, other, rfl⟩⟩⟩
      rintro ⟨-, native, entry, present', resolved⟩
      cases published.symm.trans present'
      exact other (CompiledEntry.resolve_ok resolved).1
    | bound succeeded present code resolved =>
      have published := (looks.code?_compile present closure).trans code
      have size := (idle_compile { setup with compiler }
        (engine.controllerFor { setup with compiler } definition).2
        (engine.controllerFor { setup with compiler } definition).1).size
      refine ⟨iff_of_true ⟨_, rfl⟩ ⟨succeeded, _, _, published, resolved⟩, fun target same => ?_,
        fun failed => absurd rfl (failed _)⟩
      cases same
      exact ⟨_, (handle?_addHandle _ _).trans (if_pos size.symm)⟩

theorem bind_fails_for_reason_tally :
    let turns : List Turn := [⟨.reference none, .newCell (.int 40)⟩]
    ∃ engine refused next bound, plain.afterTurns (eager (.reference none)) turns = engine ∧
      engine.take (eager (.reference none)) ⟨.reference none, .bind .tally (some [0, 0])⟩ =
        (refused, next) ∧
      refused = .bound (.error (.definition (.closureArity 1 2))) ∧
      next.requested = engine.requested ∧
      (engine.take (eager (.reference none)) ⟨.reference none, .bind .tally (some [0])⟩).1 =
        bound ∧ bound = .bound (.ok 0) := by
  intro turns
  have begins : Begins plain := .installed .shared false
  have own : ∀ other, Mentions turns other → other.id = Definition.tally.id → other = .tally := by
    simp [Mentions, turns, Command.definition?]
  have misfits : Definition.tally.Misfits (some [0, 0]) (.closureArity 1 2) :=
    .arity (by decide) (by decide)
  have takes : Definition.tally.Takes (some [0]) := .some (by decide) rfl
  obtain ⟨engine, reached⟩ :
    ∃ engine, plain.afterTurns (eager (.reference none)) turns = engine := ⟨_, rfl⟩
  obtain ⟨⟨refused, next⟩, taken⟩ : ∃ taken, engine.take (eager (.reference none))
    ⟨.reference none, .bind .tally (some [0, 0])⟩ = taken := ⟨_, rfl⟩
  obtain ⟨⟨bound, later⟩, taken'⟩ : ∃ taken, engine.take (eager (.reference none))
    ⟨.reference none, .bind .tally (some [0])⟩ = taken := ⟨_, rfl⟩
  obtain ⟨refusals, leaves, -⟩ := bind_fails_for_reason begins reached own taken
  obtain ⟨-, -, binds, -⟩ := bind_fails_for_reason begins reached own taken'
  have none : engine.handles.size = 0 := by
    subst reached
    rfl
  refine ⟨engine, refused, next, bound, reached, taken, (refusals _).mpr misfits,
    (leaves _ misfits).1, congrArg Prod.fst taken', ?_⟩
  rw [(binds rfl takes).1, none]

/-- Through a controller that the host holds, tracked or released, a bind fails for the same
reasons; it makes no controller. -/
theorem held_bind_fails_for_reason {begun engine next : Engine} (begins : Begins begun)
    {turns : List Turn} (reached : begun.afterTurns setup turns = engine) {id : ControllerId}
    {controller : Controller} (held : engine.heldController? id = some controller)
    {compiler : Compiler} {closure : Option Binding} {answer : Answer}
    (taken : engine.take setup ⟨compiler, .bindHeld id closure⟩ = (answer, next)) :
    (∀ error, answer = .bound (.error (.definition error)) ↔
      controller.definition.Misfits closure error) ∧
    (∀ error, controller.definition.Misfits closure error → next = engine) ∧
    (setup.interprets = true → controller.definition.Takes closure →
      answer = .bound (.ok engine.handles.size) ∧
      ∃ dispatch, DispatchesTo id controller closure dispatch ∧
        next = (engine.addHandle ⟨controller.definition, dispatch⟩).2) ∧
    (setup.interprets = false → controller.definition.Takes closure →
      ∃ result, answer = .bound result ∧
        BoundCompiled { setup with compiler } engine id controller.definition closure
          (result, next)) := by
  subst reached
  obtain ⟨-, found⟩ := heldController?_eq_some.mp held
  have shaped := begins.shaped_afterTurns setup turns found
  generalize begun.afterTurns setup turns = engine at held taken found
  simp only [take, perform, Turn.setup, held] at taken
  obtain ⟨rfl, rfl⟩ :
      .bound (engine.bindController { setup with compiler } id controller closure).1 = answer ∧
        (engine.bindController { setup with compiler } id controller closure).2 = next :=
    Prod.mk.inj taken
  refine ⟨fun error => ?_, fun error misfits => ?_, fun interprets takes => ?_,
    fun compileOnly takes => ?_⟩
  · rw [Answer.bound.injEq]
    exact bindController_definition_iff found shaped
  · rw [bindController_misfit _ _ _ misfits]
  · have interprets' : Setup.interprets { setup with compiler } = true := interprets
    obtain ⟨dispatch, dispatches, result⟩ := bindController_interpreting engine id interprets'
      shaped (Definition.checkClosure_eq_ok.mpr takes)
    rw [result]
    exact ⟨rfl, dispatch, dispatches, rfl⟩
  · exact ⟨_, rfl, bindController_compiling compileOnly found shaped
      (Definition.checkClosure_eq_ok.mpr takes)⟩

end Engine

end HotPath

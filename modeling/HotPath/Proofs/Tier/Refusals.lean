import HotPath.Proofs.Native.Budget
import HotPath.Proofs.Tier.Binding
import HotPath.Proofs.Tier.Safety

/-!
Runs under the reference compiler. It fails a function only by refusing it for its size; whatever it
does compile fits its signature, so that no bind and no call meets code of a wrong shape.
-/

namespace HotPath

namespace Controller

variable {nodeLimit : Option Nat} {controller : Controller} {closure : Option Binding}

theorem Change.failure_origin {setup : Setup} {asked : Prop} {changed : Controller}
    (change : controller.Change setup asked changed) {error : CompileError}
    (failed : changed.failure = some error) :
    controller.failure = some error ∨
      controller.definition.generated setup.compiler = .error error := by
  cases change with
  | kept | interpreted | promoted => exact .inl failed
  | compiled unsettled =>
    rw [generate_eq] at failed
    cases generated : controller.definition.generated setup.compiler with
    | ok code =>
      rw [generated] at failed
      exact .inl failed
    | error error' =>
      rw [generated] at failed
      cases failed
      exact .inr rfl
  | counted _ count | scheduled _ count =>
    obtain rfl := countCall?_eq_some count
    exact .inl failed

theorem failure_of_settled {error : CompileError}
    (settled : controller.settled? = some (.error error)) : controller.failure = some error := by
  unfold settled? at settled
  cases published : controller.published with
  | some code => simp [published] at settled
  | none => cases failure : controller.failure <;> simp_all

/-- Whatever compiling a controller's function came to, the reference compiler gave it. -/
structure Standard (nodeLimit : Option Nat) (controller : Controller) : Prop where
  published : ∀ {code : CompiledCode}, controller.published = some code →
    code = controller.definition.referenceCode
  failed : ∀ {error : CompileError}, controller.failure = some error →
    controller.definition.Objection nodeLimit controller.selection.shape error

namespace Standard

theorem fresh (nodeLimit : Option Nat) (definition : Definition) (scheduler : SchedulerId) :
    Standard nodeLimit { definition, scheduler } := ⟨nofun, nofun⟩

variable (standard : controller.Standard nodeLimit)

include standard

theorem change {setup : Setup} {asked : Prop} {changed : Controller}
    (reference : setup.compiler = .reference nodeLimit)
    (change : controller.Change setup asked changed) : changed.Standard nodeLimit := by
  constructor
  · intro code published
    rw [change.definition]
    rcases change.published_origin published with before | generated
    · exact standard.published before
    · rw [reference] at generated
      exact Definition.generated_faithful (Compiler.faithful_reference nodeLimit) generated
  · intro error failed
    rw [selection, change.definition]
    rcases change.failure_origin failed with before | generated
    · exact standard.failed before
    · rw [reference] at generated
      exact Definition.objection_of_generated generated

theorem shaped : controller.Shaped := by
  constructor
  · intro native published
    have same := standard.published published
    unfold Definition.referenceCode at same
    cases captures : controller.definition.hasClosure with
    | true => simp [captures] at same
    | false =>
      simp only [captures, Bool.false_eq_true, ↓reduceIte, CompiledCode.direct.injEq] at same
      rw [same]
      exact ⟨rfl, Definition.shape_native _ _⟩
  · intro make published
    have same := standard.published published
    unfold Definition.referenceCode at same
    cases captures : controller.definition.hasClosure with
    | true => rfl
    | false => simp [captures] at same

theorem native {native : NativeFn} (code : controller.code? closure = some native) :
    ∃ binding, native = controller.definition.native binding := by
  obtain ⟨code, published, entryPoint⟩ := Option.bind_eq_some_iff.mp code
  rw [standard.published published] at entryPoint
  exact Definition.entryPoint?_native entryPoint

theorem entered (closes : controller.definition.checkClosure closure = .ok ())
    {result : Except Mismatch CompiledEntry} (entry : controller.entryFor? closure = some result) :
    ∃ binding, result = .ok (controller.definition.entry binding) := by
  rw [standard.shaped.entryFor? closes, Option.map_eq_some_iff] at entry
  obtain ⟨native, code, resolved⟩ := entry
  obtain ⟨binding, rfl⟩ := standard.native code
  exact ⟨binding, resolved.symm.trans (controller.definition.resolve_native binding)⟩

theorem entry (published : controller.hasCompiled = true)
    (closes : controller.definition.checkClosure closure = .ok ()) :
    ∃ entry, controller.entryFor? closure = some (.ok entry) := by
  cases result : controller.entryFor? closure with
  | none => cases published.symm.trans (entryFor?_eq_none_iff.mp result)
  | some result' =>
    obtain ⟨binding, rfl⟩ := standard.entered closes result
    exact ⟨_, rfl⟩

theorem owned {entry : CompiledEntry} (entered : controller.entryFor? closure = some (.ok entry)) :
    ∃ binding, entry = controller.definition.entry binding := by
  obtain ⟨code, native, published, entryPoint, -⟩ := entryFor?_ok entered
  rw [standard.published published] at entryPoint
  obtain ⟨binding, rfl⟩ := Definition.entryPoint?_native entryPoint
  have resolved := controller.definition.resolve_native binding
  rw [Controller.entryFor?, published, Option.map_some, standard.published published] at entered
  simp only [entryPoint, resolved, Option.some.injEq, Except.ok.injEq] at entered
  exact ⟨binding, entered.symm⟩

end Standard

end Controller

/-- A call of a function's own code crashes exactly if its frame has no room. -/
theorem Definition.entry_crash_iff (definition : Definition) (binding : Binding) (rounds : Nat)
    {args : List Value} (fits : args.length = definition.signature.arity) (store : Store)
    (cause : Crash) :
    ((definition.entry binding).call rounds args store).outcome = .crash cause ↔
      cause = .frameOverflow ∧ definition.Oversized := by
  have sameCells : definition.SameCells ((some binding).getD []) binding := fun _ _ => rfl
  have agrees := definition.entry_agrees sameCells rounds fits (.refl store)
  rw [agrees.outcome, definition.interpret_crash_iff]
  simp only [fits, true_and]

namespace Engine

def Answer.compileError? : Answer → Option CompileError
  | .bound (.error (.compile error)) | .compiled (.error error) => some error
  | _ => none

theorem Answer.eq_of_compileError? {answer : Answer} {error : CompileError}
    (reported : answer.compileError? = some error) :
    answer = .bound (.error (.compile error)) ∨ answer = .compiled (.error error) := by
  unfold compileError? at reported
  split at reported
  · cases reported
    exact .inl rfl
  · cases reported
    exact .inr rfl
  · cases reported

/-- An engine of a run under the reference compiler. -/
structure Compliant (nodeLimit : Option Nat) (policy : Policy) (engine : Engine) : Prop where
  sound : Sound policy engine
  standard : ∀ {id : ControllerId} {controller : Controller},
    engine.controllers[id]? = some controller → controller.Standard nodeLimit

variable {setup : Setup} {nodeLimit : Option Nat} {engine : Engine} {target : HandleId}
  {handle : Handle} {id : ControllerId} {controller : Controller}

namespace Compliant

variable (compliant : Compliant nodeLimit setup.policy engine)

include compliant

theorem moved {next : Engine} (reference : setup.compiler = .reference nodeLimit)
    (moves : Moves setup (fun _ => True) (fun _ => True) engine next)
    (found : next.controllers[id]? = some controller) : controller.Standard nodeLimit :=
  moves.controller_keeps (Controller.Standard nodeLimit)
    (fun change standard => standard.change reference change) (Controller.Standard.fresh nodeLimit)
    compliant.standard found

theorem take {turn : Turn} (reference : turn.compiler = .reference nodeLimit) :
    Compliant nodeLimit setup.policy (engine.take setup turn).2 :=
  have own : Compliant nodeLimit (turn.setup setup).policy engine := compliant
  ⟨compliant.sound.take turn, own.moved reference (take_moves setup engine turn)⟩

/-! ## Calls -/

theorem met {definition : Definition} {closure : Option Binding} {link : Link}
    {result : Except Mismatch CompiledEntry}
    (holder : engine.handle? target = some ⟨definition, .interpreted id closure link⟩)
    (found : engine.controllers[id]? = some controller)
    (entry : controller.entryFor? closure = some result) :
    ∃ binding, result = .ok (definition.entry binding) := by
  obtain ⟨closes, its, present, rfl, -⟩ := compliant.sound.linked holder
  cases found.symm.trans present
  exact (compliant.standard found).entered closes entry

theorem unpinned (holder : engine.handle? target = some handle) (closure : Option Binding) :
    handle.dispatch ≠ .interpreted id closure .pinned := by
  rintro pinned
  obtain ⟨definition, dispatch⟩ := handle
  subst pinned
  obtain ⟨its, controller, found, belongs⟩ := compliant.sound.owner holder
  cases belongs with
  | interpreted settles =>
    obtain ⟨mismatch, misfits⟩ := settles
    obtain ⟨binding, fits⟩ := compliant.met holder found misfits
    cases fits

theorem entry (holder : engine.handle? target = some handle) {entry : CompiledEntry}
    (calls : handle.entry? = some entry) : ∃ binding, entry = handle.definition.entry binding := by
  obtain ⟨its, controller, found, belongs⟩ := compliant.sound.owner holder
  obtain ⟨closure, entered, -⟩ := belongs.entry calls
  obtain ⟨binding, own⟩ := (compliant.standard found).owned entered
  have same : handle.definition = controller.definition := by cases belongs <;> rfl
  exact ⟨binding, same ▸ own⟩

/-- A call crashes exactly if it has the right number of arguments and its frame has no room. -/
theorem serving_crash_iff (holder : engine.handle? target = some handle) {args : List Value}
    {served : Invocation × Engine} (serving : Serving setup engine target handle args served)
    (cause : Crash) :
    served.1.outcome = .crash cause ↔ cause = .frameOverflow ∧
      args.length = handle.definition.signature.arity ∧ handle.definition.Oversized := by
  cases serving with
  | rejected other => simp [other]
  | entered fits calls =>
    obtain ⟨binding, rfl⟩ := compliant.entry holder calls
    have crashes := handle.definition.entry_crash_iff binding setup.rounds fits
    exact (crashes _ cause).trans (by simp only [fits, true_and])
  | @interpreted id closure link fits =>
    have reply := interpret_reply setup engine target id handle.definition closure args
    rw [reply.1]
    exact handle.definition.interpret_crash_iff setup.rounds args closure _ cause
  | switched fits dispatch found resolved =>
    obtain ⟨definition, dispatch'⟩ := handle
    subst dispatch
    obtain ⟨binding, same⟩ := compliant.met holder found resolved
    cases same
    have crashes := definition.entry_crash_iff binding setup.rounds fits
    exact (crashes _ cause).trans (by simp only [fits, true_and])
  | pinned fits dispatch found resolved =>
    obtain ⟨definition, dispatch'⟩ := handle
    subst dispatch
    obtain ⟨binding, same⟩ := compliant.met holder found resolved
    cases same

/-! ## Compilations -/

theorem objection {next : Engine} (reference : setup.compiler = .reference nodeLimit)
    (moves : Moves setup (fun _ => True) (fun _ => True) engine next) {error : CompileError}
    (failed : next.verdict? id = some (.error error)) :
    ∃ definition : Definition,
      definition.Objection nodeLimit definition.signature.selectShape.shape error := by
  obtain ⟨controller, found, settled⟩ := Option.bind_eq_some_iff.mp failed
  exact ⟨controller.definition,
    (compliant.moved reference moves found).failed (Controller.failure_of_settled settled)⟩

theorem bindController_objection (reference : setup.compiler = .reference nodeLimit)
    {ready : Engine} (tracks : Moves setup (fun _ => True) (fun _ => True) engine ready)
    (found : ready.controllers[id]? = some controller) {closure : Option Binding}
    {error : CompileError}
    (failed : (ready.bindController setup id controller closure).1 = .error (.compile error)) :
    ∃ definition : Definition,
      definition.Objection nodeLimit definition.signature.selectShape.shape error := by
  have asks : Moves setup (fun _ => True) (fun _ => True) ready (ready.compile setup id).2 :=
    compile_moves trivial
  have compiles := tracks.trans asks
  cases closes : controller.definition.checkClosure closure with
  | error error' => simp [bindController, closes] at failed
  | ok _ =>
    cases interprets : setup.interprets with
    | true =>
      simp only [bindController, closes, interprets, Bool.not_true, Bool.false_eq_true,
        ↓reduceIte] at failed
      cases failed
    | false =>
      simp only [bindController, closes, interprets, Bool.not_false, ↓reduceIte] at failed
      have bound := boundCompiled setup found (compliant.moved reference tracks found).shaped closes
      generalize ready.bindCompiled setup id controller closure = result at bound failed
      cases bound with
      | failed verdict =>
        cases failed
        have given := compile_verdict setup (Array.getElem?_eq_some_iff.mp found).1
        rw [verdict] at given
        exact compliant.objection reference compiles given
      | misshapen _ present code other =>
        -- The code of a controller is that of its own function, and has the selected shape.
        obtain ⟨binding, rfl⟩ := (compliant.moved reference compiles present).native code
        obtain ⟨changed, present', same⟩ := asks.definition found
        cases present.symm.trans present'
        rw [same] at other
        exact absurd (Definition.shape_native _ _) other
      | bound => cases failed

theorem bind_objection (reference : setup.compiler = .reference nodeLimit)
    {definition : Definition} {closure : Option Binding} {error : CompileError}
    (failed : (engine.bind setup definition closure).1 = .error (.compile error)) :
    ∃ definition : Definition,
      definition.Objection nodeLimit definition.signature.selectShape.shape error := by
  have existing := existing_controllerFor setup compliant.sound.grounded definition
  have tracks : Moves setup (fun _ => True) (fun _ => True) engine
      (engine.controllerFor setup definition).2 := controllerFor_moves trivial
  unfold bind at failed
  generalize engine.controllerFor setup definition = lookup at existing tracks failed
  obtain ⟨id, tracking⟩ := lookup
  have found := Array.getElem?_eq_getElem existing
  simp only [found] at failed
  exact compliant.bindController_objection reference tracks found failed

theorem perform_objection (reference : setup.compiler = .reference nodeLimit) {command : Command}
    {error : CompileError}
    (reported : (engine.perform setup command).1.compileError? = some error) :
    ∃ definition : Definition,
      definition.Objection nodeLimit definition.signature.selectShape.shape error := by
  have moves : Moves setup (fun _ => True) (fun _ => True) engine
      (engine.perform setup command).2 := perform_moves (fun _ _ => trivial) fun _ _ => trivial
  rcases Answer.eq_of_compileError? reported with refused | refused
  · cases command with
    | bind definition closure =>
      exact compliant.bind_objection reference (Answer.bound.inj refused)
    | bindHeld id closure =>
      simp only [perform] at refused
      cases kept : engine.heldController? id with
      | none =>
        rw [kept] at refused
        cases refused
      | some controller =>
        rw [kept] at refused
        obtain ⟨-, found⟩ := heldController?_eq_some.mp kept
        exact compliant.bindController_objection reference .refl found
          (Answer.bound.inj refused)
    | reinstall | hold | compileHeld | countHeld | invoke | call =>
      simp only [perform] at refused
      split at refused <;> cases refused
    | _ => cases refused
  · cases command with
    | compileNow definition =>
      have request : (engine.controllerFor setup definition).1 ∈
        engine.requests setup (.compileNow definition) := List.mem_singleton.mpr rfl
      obtain ⟨verdict, given, reports⟩ := perform_reports compliant.sound.grounded request
      cases Answer.compiled.inj (refused.symm.trans reports)
      exact compliant.objection reference moves given
    | compileHeld id =>
      cases held : engine.held.contains id with
      | false =>
        simp only [perform, held, Bool.false_eq_true, ↓reduceIte] at refused
        cases refused
      | true =>
        have request : id ∈ engine.requests setup (.compileHeld id) := by
          simp only [requests, held, ↓reduceIte, List.mem_singleton]
        obtain ⟨verdict, given, reports⟩ := perform_reports compliant.sound.grounded request
        cases Answer.compiled.inj (refused.symm.trans reports)
        exact compliant.objection reference moves given
    | reinstall | hold | bindHeld | countHeld | invoke | call =>
      simp only [perform] at refused
      split at refused <;> cases refused
    | _ => cases refused

end Compliant

/-- Only calls of handles that exist are answered as calls. -/
theorem call_of_invoked {command : Command} {invocation : Invocation}
    (answered : (engine.perform setup command).1 = .invoked invocation) :
    ∃ target args handle, command.call? = some (target, args) ∧
      engine.handle? target = some handle := by
  cases command with
  | invoke target args | call target args =>
    cases holder : engine.handle? target with
    | none => simp [perform, holder] at answered
    | some handle => exact ⟨target, args, handle, rfl, holder⟩
  | reinstall | hold | bindHeld | compileHeld | countHeld =>
    simp only [perform] at answered
    split at answered <;> cases answered
  | _ => cases answered

theorem Compliant.crash_of_perform (compliant : Compliant nodeLimit setup.policy engine)
    {command : Command} {invocation : Invocation}
    (answered : (engine.perform setup command).1 = .invoked invocation) {cause : Crash}
    (crashed : invocation.outcome = .crash cause) :
    cause = .frameOverflow ∧ ∃ target args handle, command.call? = some (target, args) ∧
      engine.handle? target = some handle ∧ handle.definition.Oversized := by
  obtain ⟨target, args, handle, calls, holder⟩ := call_of_invoked answered
  rw [perform_call calls holder setup] at answered
  cases answered
  rw [Command.outcome_shown,
    compliant.serving_crash_iff holder (serving_invoke setup engine target handle args)] at crashed
  obtain ⟨overflow, -, oversized⟩ := crashed
  exact ⟨overflow, target, args, handle, calls, holder, oversized⟩

theorem Compliant.afterTurns (compliant : Compliant nodeLimit setup.policy engine)
    {turns : List Turn} (reference : ∀ turn ∈ turns, turn.compiler = .reference nodeLimit) :
    Compliant nodeLimit setup.policy (engine.afterTurns setup turns) :=
  turns_keep (Compliant nodeLimit setup.policy)
    (fun turn member _ before => before.take (reference turn member)) compliant

theorem Begins.compliant {begun : Engine} (begins : Begins begun) (nodeLimit : Option Nat)
    (setup : Setup) : Compliant nodeLimit setup.policy begun := by
  refine ⟨begins.sound, fun found => ?_⟩
  simp [begins.blank.controllers] at found

/-- The reference compiler grants exactly the requests within its budget, and all it makes fits;
so in its runs compiling fails only for the size of a body. -/
theorem reference_grants_exactly (nodeLimit : Option Nat) (setup : Setup) :
    (∀ definition shape,
      ((∃ native, (Compiler.reference nodeLimit).direct definition shape = .produced native) ↔
        definition.Admitted nodeLimit shape) ∧
      ((∃ make, (Compiler.reference nodeLimit).factory definition shape = .produced make) ↔
        definition.Admitted nodeLimit shape) ∧
      (¬ definition.Admitted nodeLimit shape → ∃ error,
        definition.Objection nodeLimit shape error ∧
        (Compiler.reference nodeLimit).direct definition shape = .refused error ∧
        (Compiler.reference nodeLimit).factory definition shape = .refused error) ∧
      (∀ native, (Compiler.reference nodeLimit).direct definition shape = .produced native →
        native.shape = shape) ∧
      (∀ make, (Compiler.reference nodeLimit).factory definition shape = .produced make →
        ∀ binding, (make binding).shape = shape) ∧
      ∀ table : Nat → Access,
        (∀ index < definition.signature.arity,
          table index = definition.signature.accesses shape index) →
        definition.body.lower table =
          definition.body.lower (definition.signature.accesses shape)) ∧
    (∀ (definition : Definition) code closure,
      definition.generated (.reference nodeLimit) = .ok code → definition.Takes closure →
        ∃ native entry, code.entryPoint? closure = some native ∧
          native.shape = definition.signature.selectShape.shape ∧
          CompiledEntry.resolve definition.signature native = .ok entry) ∧
    ∀ begun turns engine, Begins begun →
      (∀ turn ∈ turns, turn.compiler = .reference nodeLimit) →
      begun.afterTurns setup turns = engine →
      (∀ command answer next,
        engine.take setup ⟨.reference nodeLimit, command⟩ = (answer, next) →
        (∀ error, answer.compileError? = some error → ∃ definition : Definition,
          definition.Objection nodeLimit definition.signature.selectShape.shape error) ∧
        ∀ invocation cause, answer = .invoked invocation → invocation.outcome = .crash cause →
          cause = .frameOverflow ∧ ∃ target args handle, command.call? = some (target, args) ∧
            engine.handle? target = some handle ∧ handle.definition.Oversized) ∧
      (∀ (id : ControllerId) controller, engine.controllers[id]? = some controller →
        (∀ error, controller.failure = some error →
          controller.definition.Objection nodeLimit controller.selection.shape error) ∧
        (controller.hasCompiled = true → ∀ closure, controller.definition.Takes closure →
          ∃ entry, controller.entryFor? closure = some (.ok entry))) ∧
      ∀ target handle id closure, engine.handle? target = some handle →
        handle.dispatch ≠ .interpreted id closure .pinned := by
  have wellShaped := Compiler.wellShaped_reference nodeLimit
  refine ⟨fun definition shape => ?_, fun definition code closure generated takes => ?_, ?_⟩
  · refine ⟨Compiler.direct_iff, Compiler.factory_iff, ?_, wellShaped.direct definition shape,
      wellShaped.factory definition shape, fun table same => ?_⟩
    · intro refused
      rcases definition.admitted_or_objection nodeLimit shape with admitted | ⟨error, objection⟩
      · exact absurd admitted refused
      · exact ⟨error, objection, Compiler.direct_objection objection,
          Compiler.factory_objection objection⟩
    · -- The body names declared parameters only.
      have declared : ∀ index, definition.draft.scope.Has (.param index) →
          table index = definition.signature.accesses shape index := same
      exact Expr.lower_congr declared _ definition.noStray
  · obtain rfl := Definition.generated_faithful (Compiler.faithful_reference nodeLimit) generated
    have closes := Definition.checkClosure_eq_ok.mpr takes
    obtain ⟨binding, -, entryPoint⟩ :=
      Definition.entryPoint?_referenceCode (hasClosure_of_checkClosure closes)
    exact ⟨_, _, entryPoint, definition.shape_native binding, definition.resolve_native binding⟩
  · rintro begun turns engine begins reference rfl
    have compliant := (begins.compliant nodeLimit setup).afterTurns reference
    generalize begun.afterTurns setup turns = engine at compliant
    refine ⟨fun command answer next taken => ?_, fun id controller found => ?_,
      fun target handle id closure holder => compliant.unpinned holder closure⟩
    · have own : Compliant nodeLimit
        (Turn.setup ⟨.reference nodeLimit, command⟩ setup).policy engine := compliant
      have answered : (engine.take setup ⟨.reference nodeLimit, command⟩).1 = answer :=
        congrArg Prod.fst taken
      subst answered
      exact ⟨fun error reported => own.perform_objection rfl reported,
        fun invocation cause answered crashed => own.crash_of_perform answered crashed⟩
    · have standard := compliant.standard found
      exact ⟨fun error failed => standard.failed failed, fun published closure takes =>
        standard.entry published (Definition.checkClosure_eq_ok.mpr takes)⟩

theorem reference_grants_exactly_tally :
    let compiler := Compiler.reference (some 4)
    ∃ engine reason, plain.afterTurns (eager compiler) [⟨compiler, .newCell (.int 40)⟩,
        ⟨compiler, .bind .tally (some [0])⟩] = engine ∧
      (engine.take (eager compiler) ⟨compiler, .compileNow .tally⟩).1.compileError? =
        some (.unsupported reason) ∧
      ∃ definition : Definition, definition.Objection (some 4)
        definition.signature.selectShape.shape (.unsupported reason) := by
  intro compiler
  have begins : Begins plain := .installed .shared false
  have large : 4 < Definition.tally.body.nodes.length := by decide
  have objection : Definition.tally.Objection (some 4)
    Definition.tally.signature.selectShape.shape _ := .size rfl rfl large
  obtain ⟨engine, reached⟩ : ∃ engine, plain.afterTurns (eager compiler)
    [⟨compiler, .newCell (.int 40)⟩, ⟨compiler, .bind .tally (some [0])⟩] = engine :=
      ⟨_, rfl⟩
  obtain ⟨-, -, runs⟩ := reference_grants_exactly (some 4) (eager compiler)
  obtain ⟨answers, -⟩ := runs plain _ engine begins
    (by simp [compiler]) reached
  have reported : (engine.take (eager compiler) ⟨compiler, .compileNow .tally⟩).1.compileError? =
      some (.unsupported "body of tally has 5 nodes (limit 4)") := by
    subst reached
    decide +kernel
  exact ⟨engine, _, reached, reported, (answers (.compileNow .tally) _ _ rfl).1 _ reported⟩

end Engine

end HotPath

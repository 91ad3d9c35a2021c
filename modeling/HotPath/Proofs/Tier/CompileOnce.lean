import HotPath.Proofs.Native.ReferenceCode
import HotPath.Proofs.Tier.Turns

/-!
The compiler is asked at most once for the code of a controller's function, by the first request
that gets that far. Its verdict is for good: every later request is answered by it, whatever the
compiler would say by then.
-/

namespace HotPath

namespace Definition

def attempt (definition : Definition) (compiler : Compiler) : Except CompileError Unit :=
  (definition.generated compiler).map fun _ => ()

inductive Attempted (definition : Definition) (compiler : Compiler) :
    Except CompileError Unit → Prop where
  | direct {code : NativeFn} (plain : definition.hasClosure = false)
      (answer : compiler.direct definition definition.signature.selectShape.shape = .produced code)
      (same : code.shape = definition.signature.selectShape.shape) :
      Attempted definition compiler (.ok ())
  | misshapen {code : NativeFn} (plain : definition.hasClosure = false)
      (answer : compiler.direct definition definition.signature.selectShape.shape = .produced code)
      (other : code.shape ≠ definition.signature.selectShape.shape) :
      Attempted definition compiler
        (.error (.unexpectedShape definition.signature.selectShape.shape code.shape))
  | factory {make : Binding → NativeFn} (capturing : definition.hasClosure = true)
      (answer : compiler.factory definition definition.signature.selectShape.shape =
        .produced make) :
      Attempted definition compiler (.ok ())
  | refused {error : CompileError}
      (answer : if definition.hasClosure = true
        then compiler.factory definition definition.signature.selectShape.shape = .refused error
        else compiler.direct definition definition.signature.selectShape.shape = .refused error) :
      Attempted definition compiler (.error error)
  | crashed {message : Option String}
      (answer : if definition.hasClosure = true
        then compiler.factory definition definition.signature.selectShape.shape = .crashed message
        else compiler.direct definition definition.signature.selectShape.shape = .crashed message) :
      Attempted definition compiler (.error (.panicked (message.getD "unknown panic payload")))

theorem attempted (definition : Definition) (compiler : Compiler) :
    definition.Attempted compiler (definition.attempt compiler) := by
  unfold attempt generated Controller.generate Controller.selection
  cases capturing : definition.hasClosure with
  | true =>
    cases answer : compiler.factory definition definition.signature.selectShape.shape with
    | produced make => simpa [capturing, answer, Generated.map] using .factory capturing answer
    | refused error =>
      simpa [capturing, answer, Generated.map] using .refused (by simpa [capturing])
    | crashed message =>
      simpa [capturing, answer, Generated.map] using .crashed (by simpa [capturing])
  | false =>
    cases answer : compiler.direct definition definition.signature.selectShape.shape with
    | produced code =>
      by_cases same : code.shape = definition.signature.selectShape.shape
      · simpa [capturing, answer, same, Generated.map] using .direct capturing answer same
      · simpa [capturing, answer, same, Generated.map] using .misshapen capturing answer same
    | refused error =>
      simpa [capturing, answer, Generated.map] using .refused (by simpa [capturing])
    | crashed message =>
      simpa [capturing, answer, Generated.map] using .crashed (by simpa [capturing])

end Definition

namespace Controller

variable {controller : Controller}

theorem settled?_countCall {counted : Controller} (count : controller.countCall? = some counted) :
    counted.settled? = controller.settled? := by
  obtain rfl := countCall?_eq_some count
  rfl

theorem settled?_markScheduled : controller.markScheduled.settled? = controller.settled? := rfl

theorem settled?_countInterpreted : controller.countInterpreted.settled? = controller.settled? :=
  rfl

theorem settled?_countPromoted : controller.countPromoted.settled? = controller.settled? := rfl

end Controller

namespace Engine

/-- What the attempt to compile a controller's function came to, if there was one. -/
def verdict? (engine : Engine) (id : ControllerId) : Option (Except CompileError Unit) :=
  (engine.controllers[id]?).bind Controller.settled?

/-- How often the compiler was asked for the code of a controller's function. -/
def requestCount (engine : Engine) (id : ControllerId) : Nat :=
  engine.journal.toList.count (.requested id)

section

variable {setup : Setup} {named : Definition → Prop} {asked : ControllerId → Prop}
  {engine next : Engine}

theorem verdict?_eq {id : ControllerId} {controller : Controller}
    (found : engine.controllers[id]? = some controller) :
    engine.verdict? id = controller.settled? := by
  rw [verdict?, found]
  rfl

theorem requestCount_record (event : Event) (id : ControllerId) :
    (engine.record event).requestCount id =
      engine.requestCount id + if event = .requested id then 1 else 0 := by
  simp only [requestCount, record, Array.toList_push, List.count_append]
  by_cases same : event = .requested id
  · subst same
    simp
  · simp [same]

private theorem verdict?_of_same (result : next.controllers = engine.controllers)
    (id : ControllerId) : next.verdict? id = engine.verdict? id := by
  rw [verdict?, result, verdict?]

private theorem verdict?_of_set {target : ControllerId} {controller changed : Controller}
    (found : engine.controllers[target]? = some controller)
    (result : next.controllers = engine.controllers.setIfInBounds target changed)
    (id : ControllerId) :
    next.verdict? id = if id = target then changed.settled? else engine.verdict? id := by
  obtain ⟨bound, -⟩ := Array.getElem?_eq_some_iff.mp found
  rw [verdict?, result, Array.getElem?_setIfInBounds]
  by_cases its : target = id
  · subst its
    rw [if_pos rfl, if_pos bound, if_pos rfl]
    rfl
  · rw [if_neg its, if_neg (Ne.symm its)]
    rfl

private theorem verdict?_of_kept {target : ControllerId} {controller changed : Controller}
    (found : engine.controllers[target]? = some controller)
    (kept : changed.settled? = controller.settled?)
    (result : next.controllers = engine.controllers.setIfInBounds target changed)
    (id : ControllerId) : next.verdict? id = engine.verdict? id := by
  rw [verdict?_of_set found result]
  split
  · subst id
    rw [kept, verdict?, found]
    rfl
  · rfl

/-- A move either leaves the verdict on a function alone, or asks the compiler for it,
which nothing did before. -/
theorem Move.verdict_cases (move : Move setup named asked engine next) (id : ControllerId) :
    (next.verdict? id = engine.verdict? id ∧ next.requestCount id = engine.requestCount id) ∨
    (asked id ∧ engine.verdict? id = none ∧
      (∃ controller, engine.controllers[id]? = some controller ∧
        next.verdict? id = some (controller.definition.attempt setup.compiler)) ∧
      next.requestCount id = engine.requestCount id + 1) := by
  cases move with
  | memory | released | held | unheld | installed | reinstalled | pinned | boundCompiled
    | boundInterpreted | dropped | dequeued => exact .inl ⟨rfl, rfl⟩
  | logged | entered => exact .inl ⟨rfl, requestCount_record _ _⟩
  | tracked mentioned untracked =>
    refine .inl ⟨?_, rfl⟩
    simp only [verdict?, Array.getElem?_push]
    split
    · subst id
      simp [Controller.settled?]
    · rfl
  | @compiled target controller found unsettled request =>
    -- The only move that asks the compiler, for a controller without a verdict.
    have counted : ((engine.record (.requested target)).setController target
        (controller.keep (setup.codegenMicros controller.definition)
          (controller.generate setup.compiler))).requestCount id = _ :=
      requestCount_record (.requested target) id
    rw [counted, verdict?_of_set found rfl]
    by_cases its : id = target
    · subst its
      have missing : engine.verdict? id = none := by
        rw [verdict?, found]
        exact unsettled
      have verdict := Controller.settled?_keep (setup.codegenMicros controller.definition)
        (controller.generate setup.compiler) unsettled
      rw [if_pos rfl, if_pos rfl]
      exact .inr ⟨request, missing, ⟨controller, found, verdict⟩, rfl⟩
    · rw [if_neg its, if_neg (by simpa using Ne.symm its)]
      exact .inl ⟨rfl, rfl⟩
  | counted found enabled count early =>
    exact .inl ⟨verdict?_of_kept found (Controller.settled?_countCall count) rfl id, rfl⟩
  | scheduled found enabled count due =>
    have kept := Controller.settled?_markScheduled.trans (Controller.settled?_countCall count)
    exact .inl ⟨verdict?_of_kept found kept rfl id, rfl⟩
  | @interpreted target handle its holder refers =>
    refine .inl ⟨?_, requestCount_record _ _⟩
    cases found : engine.controllers[its]? with
    | none => exact verdict?_of_same (modify_missing found _) id
    | some controller =>
      exact verdict?_of_kept found Controller.settled?_countInterpreted
        (modify_controller found _) id
  | switched holder found fits =>
    exact .inl ⟨verdict?_of_kept found Controller.settled?_countPromoted
      (modify_controller found _) id, rfl⟩

theorem Moves.verdict_cases (moves : Moves setup named asked engine next) (id : ControllerId) :
    (next.verdict? id = engine.verdict? id ∧ next.requestCount id = engine.requestCount id) ∨
    (asked id ∧ engine.verdict? id = none ∧
      (∃ controller, next.controllers[id]? = some controller ∧
        next.verdict? id = some (controller.definition.attempt setup.compiler)) ∧
      next.requestCount id = engine.requestCount id + 1) := by
  induction moves with
  | refl => exact .inl ⟨rfl, rfl⟩
  | @tail middle last earlier move inductionHypothesis =>
    rcases inductionHypothesis with ⟨same, count⟩ | ⟨request, missing, verdict, count⟩
    · rcases move.verdict_cases id with ⟨same', count'⟩ | ⟨request, missing, verdict, count'⟩
      · exact .inl ⟨same'.trans same, count'.trans count⟩
      · obtain ⟨controller, found, given⟩ := verdict
        obtain ⟨changed, present, change⟩ := move.controller_change found
        refine .inr ⟨request, same ▸ missing, ⟨changed, present, ?_⟩, count ▸ count'⟩
        rw [given, change.definition]
    · obtain ⟨controller, found, given⟩ := verdict
      rcases move.verdict_cases id with ⟨same', count'⟩ | ⟨_, missing', _⟩
      · obtain ⟨changed, present, change⟩ := move.controller_change found
        refine .inr ⟨request, missing, ⟨changed, present, ?_⟩, count'.trans count⟩
        rw [same', given, change.definition]
      · cases given.symm.trans missing'

/-! ## Answers -/

/-- How a request to compile is answered once there is a verdict. After a good one a bind can
still find that the code does not fit; a background task answers nobody. -/
def Reports (verdict : Except CompileError Unit) : Command → Answer → Prop
  | .compileNow _, answer | .compileHeld _, answer => answer = .compiled verdict
  | .bind _ _, answer | .bindHeld _ _, answer =>
    match verdict with
    | .error error => answer = .bound (.error (.compile error))
    | .ok () => (∃ handle, answer = .bound (.ok handle)) ∨
      ∃ expected got, answer = .bound (.error (.compile (.unexpectedShape expected got)))
  | _, _ => True

theorem compile_verdict (setup : Setup) {id : ControllerId}
    (existing : id < engine.controllers.size) :
    (engine.compile setup id).2.verdict? id = some (engine.compile setup id).1 := by
  obtain ⟨changed, present, settled⟩ :=
    compile_settles setup (Array.getElem?_eq_getElem existing)
  rw [verdict?, present]
  exact settled

theorem bindCompiled_reports {id : ControllerId} (existing : id < engine.controllers.size)
    (controller : Controller) (closure : Option Binding) :
    ∃ verdict, (engine.bindCompiled setup id controller closure).2.verdict? id = some verdict ∧
      Reports verdict (.bindHeld id closure)
        (.bound (engine.bindCompiled setup id controller closure).1) := by
  have compiled := compile_verdict setup existing
  unfold bindCompiled
  generalize engine.compile setup id = answer at compiled
  obtain ⟨result, after⟩ := answer
  refine ⟨result, ?_⟩
  cases result with
  | error error => exact ⟨compiled, rfl⟩
  | ok _ =>
    obtain ⟨changed, present, settled⟩ := Option.bind_eq_some_iff.mp compiled
    obtain ⟨code, published⟩ := Controller.published_of_settled settled
    simp only [present, Option.bind_some, Controller.entryFor?, published, Option.map_some]
    split
    · rename_i entry fits
      exact ⟨compiled, .inl ⟨_, rfl⟩⟩
    · exact ⟨compiled, .inr ⟨_, _, rfl⟩⟩
    · rename_i absent
      simp at absent

theorem bindController_reports {id : ControllerId} (existing : id < engine.controllers.size)
    {controller : Controller} {closure : Option Binding}
    (asks : (!setup.interprets && (controller.definition.checkClosure closure).isOk) = true) :
    ∃ verdict, (engine.bindController setup id controller closure).2.verdict? id = some verdict ∧
      Reports verdict (.bindHeld id closure)
        (.bound (engine.bindController setup id controller closure).1) := by
  obtain ⟨compileOnly, closes⟩ := Bool.and_eq_true_iff.mp asks
  unfold bindController
  cases accepted : controller.definition.checkClosure closure with
  | error error => simp [accepted, Except.isOk, Except.toBool] at closes
  | ok _ =>
    simp only [compileOnly, ↓reduceIte]
    exact bindCompiled_reports existing controller closure

theorem existing_controllerFor (setup : Setup) (grounded : engine.Grounded)
    (definition : Definition) :
    (engine.controllerFor setup definition).1 <
      (engine.controllerFor setup definition).2.controllers.size := by
  have tracks : Moves setup (fun _ => True) (fun _ => True) engine
      (engine.controllerFor setup definition).2 := controllerFor_moves trivial
  exact tracks.keeps Grounded (fun move earlier => earlier.move move) grounded _
    (isLive_controllerFor setup engine definition)

theorem Moves.verdict?_kept (moves : Moves setup named asked engine next) {id : ControllerId}
    {verdict : Except CompileError Unit} (given : engine.verdict? id = some verdict) :
    next.verdict? id = some verdict := by
  rcases moves.verdict_cases id with ⟨same, -⟩ | ⟨-, missing, -⟩
  · exact same.trans given
  · cases missing.symm.trans given

theorem runTask_verdict (setup : Setup) (engine : Engine) {id : ControllerId}
    (existing : id < engine.controllers.size) (live : engine.isLive id = true) :
    ∃ verdict, (engine.runTask setup id).verdict? id = some verdict := by
  have compiled := compile_verdict setup existing
  unfold runTask
  rw [Array.getElem?_eq_getElem existing, live]
  simp only [↓reduceIte]
  generalize engine.compile setup id = answer at compiled
  obtain ⟨result, after⟩ := answer
  refine ⟨result, ?_⟩
  cases result <;> exact compiled

theorem runTasks_verdict (setup : Setup) {scheduler : SchedulerId} {tasks rest : List ControllerId}
    (queued : engine.waiting scheduler = tasks ++ rest) {id : ControllerId} (member : id ∈ tasks)
    (existing : id < engine.controllers.size) (live : engine.isLive id = true) :
    ∃ verdict, (runTasks setup scheduler tasks engine).verdict? id = some verdict := by
  induction tasks generalizing engine with
  | nil => cases member
  | cons task tasks inductionHypothesis =>
    have still : ((engine.dropTask scheduler).runTask setup task).waiting scheduler =
        tasks ++ rest := by
      rw [waiting_runTask, waiting_dropTask, if_pos rfl, queued]
      rfl
    rcases List.mem_cons.mp member with rfl | later
    · obtain ⟨verdict, given⟩ := runTask_verdict setup
        (engine.dropTask scheduler) existing live
      have moves : Moves setup (fun _ => True) (fun _ => True) _ _ :=
        runTasks_moves still fun _ _ _ => trivial
      exact ⟨verdict, moves.verdict?_kept given⟩
    · have moves : Moves setup (fun _ => True) (fun _ => True) engine _ :=
        runTask_moves queued fun _ => trivial
      refine inductionHypothesis still later ?_ ?_
      · exact Nat.lt_of_lt_of_le existing moves.size_controllers
      · rw [isLive_runTask]
        exact live

/-- A controller whose compilation a command asks for has a verdict afterwards, and
the command reports that verdict. -/
theorem perform_reports (grounded : engine.Grounded) {command : Command} {id : ControllerId}
    (request : id ∈ engine.requests setup command) :
    ∃ verdict, (engine.perform setup command).2.verdict? id = some verdict ∧
      Reports verdict command (engine.perform setup command).1 := by
  cases command with
  | compileNow definition =>
    obtain rfl := List.mem_singleton.mp request
    exact ⟨_, compile_verdict setup (existing_controllerFor setup grounded definition), rfl⟩
  | bind definition closure =>
    have existing := existing_controllerFor setup grounded definition
    simp only [perform, bind, requests] at request ⊢
    generalize engine.controllerFor setup definition = answer at existing request
    obtain ⟨target, tracking⟩ := answer
    rw [Array.getElem?_eq_getElem existing] at request ⊢
    simp only [Option.any_some] at request
    split at request
    · obtain rfl := List.mem_singleton.mp request
      exact bindController_reports existing ‹_›
    · cases request
  | bindHeld target closure =>
    simp only [perform, requests] at request ⊢
    cases kept : engine.heldController? target with
    | none => simp [kept] at request
    | some controller =>
      simp only [kept, Option.any_some] at request
      obtain ⟨held, -⟩ := heldController?_eq_some.mp kept
      split at request
      · obtain rfl := List.mem_singleton.mp request
        exact bindController_reports (grounded id (isLive_of_held held)) ‹_›
      · cases request
  | compileHeld target =>
    simp only [perform, requests] at request ⊢
    cases held : engine.held.contains target with
    | false =>
      rw [held] at request
      cases request
    | true =>
      rw [held] at request
      obtain rfl := List.mem_singleton.mp request
      have live := isLive_of_held (List.contains_iff_mem.mp held)
      exact ⟨_, compile_verdict setup (grounded id live), rfl⟩
  | runPending =>
    simp only [perform, runPending, requests] at request ⊢
    cases drained : engine.drainable with
    | none =>
      simp only [drained] at request
      cases request
    | some scheduler =>
      simp only [drained] at request
      obtain ⟨member, live⟩ := List.mem_filter.mp request
      obtain ⟨verdict, given⟩ := runTasks_verdict setup (List.append_nil _).symm member
        (grounded id live) live
      exact ⟨verdict, given, trivial⟩
  | runNext scheduler =>
    simp only [perform, runNext, requests] at request ⊢
    obtain ⟨member, live⟩ := List.mem_filter.mp request
    cases queued : engine.waiting scheduler with
    | nil => simp [queued] at member
    | cons task rest =>
      obtain rfl : id = task := by simpa [queued] using member
      obtain ⟨verdict, given⟩ := runTask_verdict { setup with thread := .worker }
        (engine.dropTask scheduler) (grounded id live) live
      exact ⟨verdict, given, trivial⟩
  | _ => cases request

/-- A command asks the compiler for no function but those whose compilation it asks
for, and gives no other function a verdict. -/
theorem perform_unasked {command : Command} {id : ControllerId}
    (unasked : id ∉ engine.requests setup command) :
    (engine.perform setup command).2.verdict? id = engine.verdict? id ∧
      (engine.perform setup command).2.requestCount id = engine.requestCount id := by
  have moves : Moves setup (fun _ => True) (· ∈ engine.requests setup command) engine
      (engine.perform setup command).2 :=
    perform_moves (fun _ _ => trivial) fun _ request => request
  rcases moves.verdict_cases id with same | ⟨request, -⟩
  · exact same
  · exact absurd request unasked

theorem bind_rejected (grounded : engine.Grounded) {command : Command} {error : DefinitionError}
    (rejected : (engine.perform setup command).1 = .bound (.error (.definition error)))
    (id : ControllerId) : id ∉ engine.requests setup command := by
  intro request
  obtain ⟨verdict, -, reports⟩ := perform_reports grounded request
  rw [rejected] at reports
  cases command with
  | bind | bindHeld => cases verdict <;> simp [Reports] at reports
  | compileNow | compileHeld => cases reports
  | runPending => cases rejected
  | runNext scheduler => cases rejected
  | _ => cases request

/-! ## Functions whose compilation failed -/

theorem invoke_interpreted {target : HandleId} {definition : Definition} {id : ControllerId}
    {closure : Option Binding} {controller : Controller}
    (holder : engine.handle? target = some ⟨definition, .interpreted id closure .unresolved⟩)
    (found : engine.controllers[id]? = some controller)
    (unpublished : controller.published = none) {args : List Value}
    (fits : args.length = definition.signature.arity) :
    (engine.perform setup (.invoke target args)).1 =
      .invoked ⟨(definition.interpret setup.rounds args closure engine.store).outcome,
        (definition.interpret setup.rounds args closure engine.store).slots⟩ := by
  have unresolved : (engine.controllers[id]?).bind (·.entryFor? closure) = none := by
    simp [found, Controller.entryFor?, unpublished]
  obtain ⟨controllers, schedulers, journal, same⟩ := recordCall_frame setup engine id
  simp only [perform, holder, invoke, fits, ne_eq, not_true_eq_false, ↓reduceIte, resolveAndServe,
    unresolved, interpret, same]
  rfl

theorem bindController_interpreted {id : ControllerId} {closure : Option Binding}
    {controller : Controller} (interprets : setup.interprets = true)
    (unpublished : controller.published = none)
    (closes : controller.definition.checkClosure closure = .ok ()) :
    engine.bindController setup id controller closure = (.ok engine.handles.size,
      (engine.addHandle ⟨controller.definition, .interpreted id closure .unresolved⟩).2) := by
  have unentered : controller.entryFor? closure = none := by
    simp [Controller.entryFor?, unpublished]
  simp only [bindController, closes, interprets, Bool.not_true, Bool.false_eq_true, ↓reduceIte,
    unentered]
  cases controller.selection.exact <;> rfl

/-- A function stays interpreted: so is every call of its handles and every new handle. -/
def StaysInterpreted (setup : Setup) (engine : Engine) (id : ControllerId)
    (definition : Definition) : Prop :=
  (∀ target handle, engine.handle? target = some handle → handle.controller? = some id →
    ∃ closure, handle = ⟨definition, .interpreted id closure .unresolved⟩ ∧
      ∀ args, args.length = definition.signature.arity →
        (engine.perform setup (.invoke target args)).1 =
          .invoked ⟨(definition.interpret setup.rounds args closure engine.store).outcome,
            (definition.interpret setup.rounds args closure engine.store).slots⟩) ∧
  ∀ command closure, definition.checkClosure closure = .ok () →
    (command = .bindHeld id closure ∧ id ∈ engine.held ∨
      ∃ same, command = .bind same closure ∧ engine.tracked? same.id = some id) →
    engine.perform setup command =
      (.bound (.ok engine.handles.size),
        (engine.addHandle ⟨definition, .interpreted id closure .unresolved⟩).2)

theorem Linked.staysInterpreted (linked : engine.Linked) (interprets : setup.interprets = true)
    {id : ControllerId} {controller : Controller}
    (found : engine.controllers[id]? = some controller)
    (unpublished : controller.published = none) :
    engine.StaysInterpreted setup id controller.definition := by
  constructor
  · rintro target ⟨definition, dispatch⟩ holder its
    cases dispatch with
    | compiled entry => cases its
    | interpreted its closure link =>
      cases its
      obtain ⟨-, its, present, rfl, settled⟩ := linked holder
      cases found.symm.trans present
      rcases settled with rfl | ⟨code, published⟩
      · refine ⟨closure, rfl, fun args fits => ?_⟩
        exact invoke_interpreted holder found unpublished fits
      · cases unpublished.symm.trans published
  · intro command closure closes binds
    have bound : engine.bindController setup id controller closure = _ :=
      bindController_interpreted interprets unpublished closes
    rcases binds with ⟨rfl, held⟩ | ⟨same, rfl, tracked⟩
    · simp only [perform, heldController?_eq_some.mpr ⟨held, found⟩, bound]
      rfl
    · simp only [perform, bind, controllerFor, tracked, found, bound]
      rfl

/-! ## Runs -/

def Asks (setup : Setup) (id : ControllerId) : Engine → List Turn → Prop
  | _, [] => False
  | engine, turn :: rest =>
    id ∈ engine.requests (turn.setup setup) turn.command ∨
      Asks setup id (engine.take setup turn).2 rest

theorem afterTurns_unasked {id : ControllerId} {turns : List Turn}
    (unasked : ¬ Asks setup id engine turns) :
    (engine.afterTurns setup turns).verdict? id = engine.verdict? id ∧
      (engine.afterTurns setup turns).requestCount id = engine.requestCount id := by
  induction turns generalizing engine with
  | nil => exact ⟨rfl, rfl⟩
  | cons turn rest inductionHypothesis =>
    obtain ⟨quiet, later⟩ := not_or.mp unasked
    obtain ⟨verdict, count⟩ := perform_unasked quiet
    obtain ⟨verdict', count'⟩ := inductionHypothesis later
    exact ⟨verdict'.trans verdict, count'.trans count⟩

/-- With a verdict, nothing asks the compiler again. -/
theorem afterTurns_settled {id : ControllerId} {verdict : Except CompileError Unit}
    (given : engine.verdict? id = some verdict) (turns : List Turn) :
    (engine.afterTurns setup turns).verdict? id = some verdict ∧
      (engine.afterTurns setup turns).requestCount id = engine.requestCount id := by
  refine afterTurns_keeps (fun later => later.verdict? id = some verdict ∧
    later.requestCount id = engine.requestCount id) ?_ ⟨given, rfl⟩ turns
  rintro compiler before after move ⟨earlier, count⟩
  rcases move.verdict_cases id with ⟨same, count'⟩ | ⟨-, missing, -⟩
  · exact ⟨same.trans earlier, count'.trans count⟩
  · cases missing.symm.trans earlier

theorem Begins.unasked {begun : Engine} (begins : Begins begun) (id : ControllerId) :
    begun.verdict? id = none ∧ begun.requestCount id = 0 := by
  induction begins with
  | installed kind drained => simp [verdict?, requestCount, install]
  | logged _ thread entry earlier => exact ⟨earlier.1, (requestCount_record _ _).trans earlier.2⟩

theorem Begins.grounded_afterTurns {begun : Engine} (begins : Begins begun) (setup : Setup)
    (turns : List Turn) :
    (begun.afterTurns setup turns).Grounded :=
  afterTurns_keeps Grounded (fun _ _ _ move grounded => grounded.move move) begins.grounded turns

theorem Begins.linked_afterTurns {begun : Engine} (begins : Begins begun) (setup : Setup)
    (turns : List Turn) :
    (begun.afterTurns setup turns).Linked :=
  afterTurns_keeps Linked (fun _ _ _ move linked => linked.move move) begins.linked turns

theorem afterTurns_definition {id : ControllerId} {controller : Controller}
    (found : engine.controllers[id]? = some controller) (turns : List Turn) :
    ∃ later, (engine.afterTurns setup turns).controllers[id]? = some later ∧
      later.definition = controller.definition := by
  refine afterTurns_keeps (fun next => ∃ later, next.controllers[id]? = some later ∧
    later.definition = controller.definition) ?_ ⟨controller, found, rfl⟩ turns
  rintro compiler before after move ⟨later, present, its⟩
  obtain ⟨changed, follows, change⟩ := move.controller_change present
  exact ⟨changed, follows, change.definition.trans its⟩

theorem verdict_reports (grounded : engine.Grounded) {id : ControllerId}
    {verdict : Except CompileError Unit} (given : engine.verdict? id = some verdict)
    {command : Command} (request : id ∈ engine.requests setup command) :
    Reports verdict command (engine.perform setup command).1 := by
  obtain ⟨reported, after, reports⟩ := perform_reports grounded request
  have moves : Moves setup (fun _ => True) (fun _ => True) engine
      (engine.perform setup command).2 := perform_moves (fun _ _ => trivial) fun _ _ => trivial
  cases after.symm.trans (moves.verdict?_kept given)
  exact reports

/-- The first request that gets as far as the compiler. -/
theorem perform_attempts (grounded : engine.Grounded) {command : Command} {id : ControllerId}
    (request : id ∈ engine.requests setup command) (missing : engine.verdict? id = none) :
    ∃ controller, (engine.perform setup command).2.controllers[id]? = some controller ∧
      (engine.perform setup command).2.verdict? id =
        some (controller.definition.attempt setup.compiler) ∧
      (engine.perform setup command).2.requestCount id = engine.requestCount id + 1 ∧
      Reports (controller.definition.attempt setup.compiler) command
        (engine.perform setup command).1 := by
  obtain ⟨verdict, given, reports⟩ := perform_reports grounded request
  have moves : Moves setup (fun _ => True) (fun _ => True) engine
      (engine.perform setup command).2 := perform_moves (fun _ _ => trivial) fun _ _ => trivial
  rcases moves.verdict_cases id with ⟨same, -⟩ | ⟨-, -, ⟨controller, found, attempt⟩, count⟩
  · cases (same.trans missing).symm.trans given
  · cases attempt.symm.trans given
    exact ⟨controller, found, attempt, count, reports⟩

/-- The compiler is asked once for the code of a function, by the first request that gets that
far, and the verdict answers every request for good. -/
theorem compiled_once {begun : Engine} (begins : Begins begun) {before : List Turn} {first : Turn}
    {id : ControllerId} (unasked : ¬ Asks setup id begun before)
    (request : id ∈ (begun.afterTurns setup before).requests (first.setup setup) first.command) :
    (begun.afterTurns setup before).requestCount id = 0 ∧
    (∃ definition verdict, definition.Attempted first.compiler verdict ∧
      Reports verdict first.command ((begun.afterTurns setup before).take setup first).1 ∧
      ∀ rest engine, begun.afterTurns setup (before ++ first :: rest) = engine →
        engine.requestCount id = 1 ∧
        (∃ controller, engine.controllers[id]? = some controller ∧
          controller.definition = definition ∧ controller.settled? = some verdict) ∧
        (∀ turn, id ∈ engine.requests (turn.setup setup) turn.command →
          Reports verdict turn.command (engine.take setup turn).1) ∧
        (∀ error, verdict = .error error → setup.interprets = true →
          engine.StaysInterpreted setup id definition)) ∧
    ∀ turns engine, begun.afterTurns setup turns = engine →
      ∀ turn error, (engine.take setup turn).1 = .bound (.error (.definition error)) →
        (engine.take setup turn).2.requestCount id = engine.requestCount id := by
  obtain ⟨none, zero⟩ := begins.unasked id
  obtain ⟨still, count⟩ := afterTurns_unasked unasked
  refine ⟨count.trans zero, ?_, ?_⟩
  · obtain ⟨controller, found, given, once, reports⟩ :=
      perform_attempts (begins.grounded_afterTurns setup before) request (still.trans none)
    refine ⟨_, _, controller.definition.attempted first.compiler, reports, ?_⟩
    -- A verdict stands for the rest of the run, and it is what every later request reports.
    rintro rest engine rfl
    have linked := begins.linked_afterTurns setup (before ++ first :: rest)
    have grounded := begins.grounded_afterTurns setup (before ++ first :: rest)
    rw [afterTurns_append] at linked grounded ⊢
    obtain ⟨settled, same⟩ := afterTurns_settled given rest
    obtain ⟨later, present, its⟩ := afterTurns_definition found rest
    refine ⟨?_, ⟨later, present, its, ?_⟩, fun turn => verdict_reports grounded settled, ?_⟩
    · rw [count, zero] at once
      exact same.trans once
    · exact (verdict?_eq present).symm.trans settled
    · intro error failed interprets
      have unpublished := Controller.unpublished_of_failed
        ((verdict?_eq present).symm.trans (settled.trans (congrArg some failed)))
      rw [← its]
      exact linked.staysInterpreted interprets present unpublished
  · rintro turns engine rfl turn error rejected
    exact (perform_unasked (bind_rejected (begins.grounded_afterTurns setup turns) rejected id)).2

end

theorem compiled_once_tally :
    let crashing : Compiler :=
      ⟨fun _ _ => .crashed (some "boom"), fun _ _ => .crashed (some "boom")⟩
    let setup := eager (.reference none)
    let before : List Turn := [
      ⟨.reference none, .newCell (.int 40)⟩, ⟨.reference none, .bind .tally (some [0])⟩]
    let first : Turn := ⟨crashing, .compileNow .tally⟩
    let engine := plain.afterTurns setup (before ++ [first])
    engine.requestCount 0 = 1 ∧
      (engine.take setup ⟨.reference none, .compileNow .tally⟩).1 =
        .compiled (.error (.panicked "boom")) := by
  intro crashing setup before first engine
  have begins : Begins plain := .installed .shared false
  have unasked : ¬ Asks setup 0 plain before := by
    rintro (member | member | member) <;> cases member
  have request : 0 ∈ (plain.afterTurns setup before).requests (first.setup setup) first.command :=
    List.mem_singleton.mpr rfl
  obtain ⟨-, ⟨definition, verdict, -, reports, kept⟩, -⟩ := compiled_once begins unasked request
  cases reports
  obtain ⟨once, -, answers, -⟩ := kept [] engine rfl
  exact ⟨once, answers ⟨.reference none, .compileNow .tally⟩ (List.mem_singleton.mpr rfl)⟩

end Engine

end HotPath

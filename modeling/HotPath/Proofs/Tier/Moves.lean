import HotPath.Proofs.Tier.Move

/-!
Every command is a sequence of elementary changes, so a fact that each of them keeps is kept by
every run.
-/

namespace HotPath.Engine

/-- The controllers whose compilation a command asks for: a bind only without an interpreter and
for a closure that fits, a task only if something refers to its controller. -/
def requests (setup : Setup) (engine : Engine) : Command → List ControllerId
  | .compileNow definition => [(engine.controllerFor setup definition).1]
  | .bind definition closure =>
    let (id, engine) := engine.controllerFor setup definition
    if !setup.interprets && (engine.controllers[id]?).any
      (fun controller => (controller.definition.checkClosure closure).isOk) then [id] else []
  | .bindHeld controller closure =>
    if !setup.interprets && (engine.heldController? controller).any
      (fun held => (held.definition.checkClosure closure).isOk) then [controller] else []
  | .compileHeld controller => if engine.held.contains controller then [controller] else []
  | .runPending =>
    match engine.drainable with
    | some scheduler => (engine.waiting scheduler).filter engine.isLive
    | none => []
  | .runNext scheduler => ((engine.waiting scheduler).take 1).filter engine.isLive
  | _ => []

def Command.definition? : Command → Option Definition
  | .track definition | .bind definition _ | .compileNow definition => some definition
  | _ => none

/-! ## What the operations of an engine are made of -/

section

variable {setup : Setup} {named : Definition → Prop} {asked : ControllerId → Prop}
  {engine : Engine}

theorem compile_moves {id : ControllerId} (request : asked id) :
    Moves setup named asked engine (engine.compile setup id).2 := by
  unfold compile
  cases found : engine.controllers[id]? with
  | none => exact .refl
  | some controller =>
    cases settled : controller.settled? with
    | some answer =>
      simp only [settled]
      exact .refl
    | none =>
      simp only [settled]
      have kept : Move setup named asked engine _ := .compiled found settled request
      cases generated : controller.generate setup.compiler with
      | error error =>
        rw [generated] at kept
        exact .single kept
      | ok code =>
        rw [generated] at kept
        exact .tail (.single kept) (.logged _ _ _)

theorem controllerFor_moves {definition : Definition} (mentioned : named definition) :
    Moves setup named asked engine (engine.controllerFor setup definition).2 := by
  unfold controllerFor
  cases tracked : engine.tracked? definition.id with
  | some id => exact .refl
  | none =>
    have first : Move setup named asked engine (engine.log setup (.tracking definition.name)) :=
      .logged engine _ _
    exact .tail (.single first) (.tracked mentioned tracked)

theorem recordCall_moves (id : ControllerId) :
    Moves setup named asked engine (engine.recordCall setup id) := by
  unfold recordCall
  cases found : engine.controllers[id]? with
  | none => exact .refl
  | some controller =>
    cases enabled : setup.policy.enabled with
    | false => exact .refl
    | true =>
      cases count : controller.countCall? with
      | none => simpa [count] using .refl
      | some next =>
        cases due : next.isDue setup.policy with
        | false =>
          simp only [Bool.not_true, Bool.false_eq_true, ↓reduceIte, count, due]
          exact .single (.counted found enabled count due)
        | true =>
          simp only [Bool.not_true, Bool.false_eq_true, ↓reduceIte, count, due]
          exact .tail (.single (.scheduled found enabled count due)) (.logged _ _ _)

theorem finish_moves (reply : Reply) :
    Moves setup named asked engine (engine.finish reply).2 :=
  .single (.memory engine reply.store)

theorem enter_moves {target : HandleId} {handle : Handle} {entry : CompiledEntry}
    (holder : engine.handle? target = some handle)
    (serves : handle.dispatch = .compiled entry ∨
      ∃ id closure, handle.dispatch = .interpreted id closure (.switched entry))
    (args : List Value) :
    Moves setup named asked engine (engine.enter setup target entry args).2 :=
  .head (.entered holder serves) (finish_moves _)

/-- Counting a call touches nothing but controllers, queues and the journal. -/
theorem recordCall_frame (setup : Setup) (engine : Engine) (id : ControllerId) :
    ∃ controllers schedulers journal,
      engine.recordCall setup id = { engine with controllers, schedulers, journal } := by
  unfold recordCall
  cases engine.controllers[id]? with
  | none => exact ⟨_, _, _, rfl⟩
  | some controller =>
    cases setup.policy.enabled with
    | false => exact ⟨_, _, _, rfl⟩
    | true =>
      cases count : controller.countCall? with
      | none => exact ⟨engine.controllers, engine.schedulers, engine.journal, by simp [count]⟩
      | some next =>
        simp only [Bool.not_true, Bool.false_eq_true, ↓reduceIte, count]
        split <;> exact ⟨_, _, _, rfl⟩

theorem interpret_moves {target : HandleId} {handle : Handle} {id : ControllerId}
    (holder : engine.handle? target = some handle) (its : handle.controller? = some id)
    (definition : Definition) (closure : Option Binding) (args : List Value) :
    Moves setup named asked engine
      (engine.interpret setup target id definition closure args).2 := by
  have still : (engine.recordCall setup id).handle? target = some handle := by
    obtain ⟨controllers, schedulers, journal, same⟩ := recordCall_frame setup engine id
    rw [same]
    exact holder
  have counted : Moves setup named asked engine (engine.recordCall setup id) := recordCall_moves id
  exact (counted.tail (.interpreted still its)).trans (finish_moves _)

theorem resolveAndServe_moves {target : HandleId} {definition : Definition}
    {id : ControllerId} {closure : Option Binding}
    (holder : engine.handle? target = some ⟨definition, .interpreted id closure .unresolved⟩)
    (args : List Value) :
    Moves setup named asked engine
      (engine.resolveAndServe setup target id definition closure args).2 := by
  unfold resolveAndServe
  cases resolved : (engine.controllers[id]?).bind (·.entryFor? closure) with
  | none => exact interpret_moves holder rfl definition closure args
  | some result =>
    obtain ⟨controller, found, entered⟩ := Option.bind_eq_some_iff.mp resolved
    cases result with
    | error mismatch =>
      have logged : Move setup named asked engine
        (engine.log setup (.misfit definition.name mismatch)) := .logged engine _ _
      exact .tail (.single logged) (.pinned holder found entered)
    | ok entry =>
      have logged : Move setup named asked engine
        (engine.log setup (.switched definition.name entry.isAdapted)) := .logged engine _ _
      have switched : Moves setup named asked engine _ :=
        .tail (.single logged) (.switched holder found entered)
      have still : ((engine.log setup (.switched definition.name entry.isAdapted)).modifyController
          id Controller.countPromoted).handle? target = engine.handle? target := rfl
      rw [holder] at still
      have settled := (handle?_setHandle still
        (some ⟨definition, .interpreted id closure (.switched entry)⟩) target).trans (if_pos rfl)
      exact switched.trans (enter_moves settled (.inr ⟨id, closure, rfl⟩) args)

theorem invoke_moves {target : HandleId} {handle : Handle}
    (holder : engine.handle? target = some handle) (args : List Value) :
    Moves setup named asked engine (engine.invoke setup target handle args).2 := by
  obtain ⟨definition, dispatch⟩ := handle
  simp only [invoke]
  by_cases fits : args.length = definition.signature.arity
  · rw [if_neg (not_not_intro fits)]
    cases dispatch with
    | compiled entry => exact enter_moves holder (.inl rfl) args
    | interpreted id closure link =>
      cases link with
      | switched entry => exact enter_moves holder (.inr ⟨id, closure, rfl⟩) args
      | pinned => exact interpret_moves holder rfl definition closure args
      | unresolved => exact resolveAndServe_moves holder args
  · rw [if_pos fits]

theorem Moves.keeps (holds : Engine → Prop) {next : Engine}
    (moves : Moves setup named asked engine next)
    (kept : ∀ {before after : Engine}, Move setup named asked before after →
      holds before → holds after)
    (initially : holds engine) : holds next := by
  induction moves with
  | refl => exact initially
  | tail _ move earlier => exact kept move earlier

/-- What the changes of controllers keep and new controllers have, all of them keep. -/
theorem Moves.controller_keeps (holds : Controller → Prop) {next : Engine}
    (moves : Moves setup named asked engine next)
    (kept : ∀ {asked : Prop} {controller changed : Controller},
      controller.Change setup asked changed → holds controller → holds changed)
    (fresh : ∀ definition scheduler, holds { definition, scheduler }) {id : ControllerId}
    (initially : ∀ {controller}, engine.controllers[id]? = some controller → holds controller)
    {controller : Controller} (found : next.controllers[id]? = some controller) :
    holds controller := by
  refine moves.keeps (fun next => ∀ controller, next.controllers[id]? = some controller →
    holds controller) ?_ (fun _ => initially) controller found
  intro before after move earlier later present
  rcases move.controller_origin present with ⟨origin, was, change⟩ | ⟨-, definition, -, -, rfl⟩
  · exact kept change (earlier origin was)
  · exact fresh definition _

theorem Moves.size_controllers {next : Engine} (moves : Moves setup named asked engine next) :
    engine.controllers.size ≤ next.controllers.size :=
  moves.keeps (fun later => engine.controllers.size ≤ later.controllers.size)
    (fun move before => Nat.le_trans before move.size_controllers) (Nat.le_refl _)

/-! ## Binding -/

theorem Moves.definition {next : Engine} (moves : Moves setup named asked engine next)
    {id : ControllerId} {controller : Controller}
    (found : engine.controllers[id]? = some controller) :
    ∃ changed, next.controllers[id]? = some changed ∧
      changed.definition = controller.definition := by
  induction moves with
  | refl => exact ⟨controller, found, rfl⟩
  | tail _ move inductionHypothesis =>
    obtain ⟨earlier, present, same⟩ := inductionHypothesis
    obtain ⟨changed, later, change⟩ := move.controller_change present
    exact ⟨changed, later, change.definition.trans same⟩

theorem bindCompiled_moves {id : ControllerId} {controller : Controller}
    (found : engine.controllers[id]? = some controller) {closure : Option Binding}
    (closes : controller.definition.checkClosure closure = .ok ()) (request : asked id) :
    Moves setup named asked engine (engine.bindCompiled setup id controller closure).2 := by
  have compiles : Moves setup named asked engine (engine.compile setup id).2 :=
    compile_moves request
  obtain ⟨changed, present, same⟩ := compiles.definition found
  unfold bindCompiled
  generalize engine.compile setup id = answer at compiles present
  obtain ⟨result, compiled⟩ := answer
  cases result with
  | error error => exact compiles
  | ok _ =>
    simp only [present, Option.bind_some]
    cases entered : changed.entryFor? closure with
    | none => exact compiles
    | some result =>
      cases result with
      | error mismatch => exact compiles
      | ok entry =>
        rw [← same] at closes ⊢
        exact compiles.tail (.boundCompiled present closes entered)

theorem bindController_moves {id : ControllerId} {controller : Controller}
    (found : engine.controllers[id]? = some controller) (live : engine.isLive id = true)
    (closure : Option Binding)
    (request : setup.interprets = false → controller.definition.checkClosure closure = .ok () →
      asked id) :
    Moves setup named asked engine (engine.bindController setup id controller closure).2 := by
  unfold bindController
  cases closes : controller.definition.checkClosure closure with
  | error error => exact .refl
  | ok _ =>
    cases interprets : setup.interprets with
    | false => exact bindCompiled_moves found closes (request interprets closes)
    | true =>
      have interpreted : Move setup named asked engine _ :=
        .boundInterpreted interprets found live closes
      simp only [Bool.not_true, Bool.false_eq_true, ↓reduceIte]
      split
      · rename_i entry _ fits
        exact .single (.boundCompiled found closes fits)
      · exact .single interpreted

theorem heldController?_eq_some {id : ControllerId} {controller : Controller} :
    engine.heldController? id = some controller ↔
      id ∈ engine.held ∧ engine.controllers[id]? = some controller := by
  simp [heldController?]

theorem isLive_of_held {id : ControllerId} (held : id ∈ engine.held) : engine.isLive id = true :=
  isLive_iff.mpr (.inr (.inr held))

theorem registered_of_tracked {key : DefinitionId} {id : ControllerId}
    (tracked : engine.tracked? key = some id) : (key, id) ∈ engine.registry := by
  obtain ⟨before, rest, listed, -⟩ := List.lookup_eq_some_iff.mp tracked
  simp [listed]

theorem isLive_controllerFor (setup : Setup) (engine : Engine) (definition : Definition) :
    (engine.controllerFor setup definition).2.isLive
      (engine.controllerFor setup definition).1 = true := by
  unfold controllerFor
  cases tracked : engine.tracked? definition.id with
  | some id =>
    exact isLive_iff.mpr (.inl ⟨(definition.id, id), registered_of_tracked tracked, rfl⟩)
  | none => simp [isLive]

theorem bind_moves {definition : Definition} (mentioned : named definition)
    (closure : Option Binding)
    (request : ∀ id ∈ engine.requests setup (.bind definition closure), asked id) :
    Moves setup named asked engine (engine.bind setup definition closure).2 := by
  have tracks : Moves setup named asked engine (engine.controllerFor setup definition).2 :=
    controllerFor_moves mentioned
  have live := isLive_controllerFor setup engine definition
  unfold bind
  simp only [requests] at request
  generalize engine.controllerFor setup definition = answer at tracks live request
  obtain ⟨id, tracking⟩ := answer
  cases found : tracking.controllers[id]? with
  | none =>
    simp only [found]
    exact tracks
  | some controller =>
    simp only [found]
    refine tracks.trans (bindController_moves found live closure ?_)
    intro compileOnly closes
    apply request
    simp [compileOnly, found, closes, Except.isOk, Except.toBool]

/-! ## Background compilation -/

/-- Compiling touches nothing but controllers and the journal. -/
theorem compile_frame (setup : Setup) (engine : Engine) (id : ControllerId) :
    ∃ controllers journal, (engine.compile setup id).2 = { engine with controllers, journal } := by
  unfold compile
  cases engine.controllers[id]? with
  | none => exact ⟨_, _, rfl⟩
  | some controller =>
    cases settled : controller.settled? with
    | some answer => exact ⟨engine.controllers, engine.journal, by simp [settled]⟩
    | none =>
      simp only [settled]
      cases controller.generate setup.compiler <;> exact ⟨_, _, rfl⟩

theorem controllers_dropTask (scheduler : SchedulerId) :
    (engine.dropTask scheduler).controllers = engine.controllers := rfl

theorem isLive_dropTask (scheduler : SchedulerId) (id : ControllerId) :
    (engine.dropTask scheduler).isLive id = engine.isLive id := rfl

theorem compile_dropTask (scheduler : SchedulerId) (id : ControllerId) :
    (engine.dropTask scheduler).compile setup id =
      ((engine.compile setup id).1, (engine.compile setup id).2.dropTask scheduler) := by
  unfold compile
  rw [controllers_dropTask]
  cases engine.controllers[id]? with
  | none => rfl
  | some controller =>
    cases settled : controller.settled? with
    | some answer => simp [settled]
    | none =>
      simp only [settled]
      cases controller.generate setup.compiler <;> rfl

theorem compile_settled {id : ControllerId} {controller : Controller}
    {answer : Except CompileError Unit} (found : engine.controllers[id]? = some controller)
    (settled : controller.settled? = some answer) :
    engine.compile setup id = (answer, engine) := by
  unfold compile
  rw [found]
  simp only [settled]

theorem compile_unsettled (setup : Setup) {id : ControllerId} {controller : Controller}
    (found : engine.controllers[id]? = some controller) (unsettled : controller.settled? = none) :
    (engine.compile setup id).1 = (controller.generate setup.compiler).map (fun _ => ()) ∧
      (engine.compile setup id).2.controllers = engine.controllers.setIfInBounds id
        (controller.keep (setup.codegenMicros controller.definition)
          (controller.generate setup.compiler)) := by
  unfold compile
  rw [found]
  simp only [unsettled]
  cases controller.generate setup.compiler <;> exact ⟨rfl, rfl⟩

/-- After a request to compile, the controller has an answer: the one given. -/
theorem compile_settles (setup : Setup) {id : ControllerId} {controller : Controller}
    (found : engine.controllers[id]? = some controller) :
    ∃ changed, (engine.compile setup id).2.controllers[id]? = some changed ∧
      changed.settled? = some (engine.compile setup id).1 := by
  cases settled : controller.settled? with
  | some answer =>
    rw [compile_settled found settled]
    exact ⟨controller, found, settled⟩
  | none =>
    obtain ⟨bound, -⟩ := Array.getElem?_eq_some_iff.mp found
    obtain ⟨answer, controllers⟩ := compile_unsettled setup found settled
    rw [controllers, Array.getElem?_setIfInBounds_self_of_lt bound, answer]
    exact ⟨_, rfl, Controller.settled?_keep _ _ settled⟩

theorem runTask_moves {scheduler : SchedulerId} {id : ControllerId} {rest : List ControllerId}
    (first : engine.waiting scheduler = id :: rest)
    (request : engine.isLive id = true → asked id) :
    Moves setup named asked engine ((engine.dropTask scheduler).runTask setup id) := by
  unfold runTask
  rw [controllers_dropTask, isLive_dropTask]
  cases found : engine.controllers[id]? with
  | none => exact .single (.dequeued first fun _ controller present => by cases found ▸ present)
  | some controller =>
    cases live : engine.isLive id with
    | false => exact .single (.dequeued first fun claimed => by cases live ▸ claimed)
    | true =>
      obtain ⟨changed, present, settled⟩ := compile_settles setup found
      have compiles : Moves setup named asked engine (engine.compile setup id).2 :=
        compile_moves (request live)
      have waits : (engine.compile setup id).2.waiting scheduler = id :: rest := by
        obtain ⟨controllers, journal, same⟩ := compile_frame setup engine id
        rw [same]
        exact first
      have finished : ∀ controller, (engine.compile setup id).2.controllers[id]? = some controller →
          controller.settled? ≠ none := by
        intro controller same
        cases present.symm.trans same
        simp [settled]
      simp only [↓reduceIte, compile_dropTask]
      generalize engine.compile setup id = answer at compiles waits finished
      obtain ⟨result, compiled⟩ := answer
      have done : Moves setup named asked engine (compiled.dropTask scheduler) :=
        compiles.tail (.dequeued waits fun _ => finished)
      cases result with
      | ok _ => exact done
      | error error => exact done.tail (.logged _ _ _)

theorem runTask_frame (setup : Setup) (engine : Engine) (id : ControllerId) :
    ∃ controllers journal, engine.runTask setup id = { engine with controllers, journal } := by
  unfold runTask
  cases engine.controllers[id]? with
  | none => exact ⟨_, _, rfl⟩
  | some controller =>
    cases engine.isLive id with
    | false => exact ⟨_, _, rfl⟩
    | true =>
      obtain ⟨controllers, journal, same⟩ := compile_frame setup engine id
      simp only [↓reduceIte]
      generalize engine.compile setup id = answer at same
      obtain ⟨result, compiled⟩ := answer
      obtain rfl : compiled = _ := same
      cases result <;> exact ⟨_, _, rfl⟩

theorem isLive_runTask (id other : ControllerId) :
    (engine.runTask setup id).isLive other = engine.isLive other := by
  obtain ⟨controllers, journal, same⟩ := runTask_frame setup engine id
  rw [same]
  rfl

theorem waiting_runTask (scheduler : SchedulerId) (id : ControllerId) :
    (engine.runTask setup id).waiting scheduler = engine.waiting scheduler := by
  obtain ⟨controllers, journal, same⟩ := runTask_frame setup engine id
  rw [same]
  rfl

theorem runTasks_moves {scheduler : SchedulerId} {tasks rest : List ControllerId}
    (queued : engine.waiting scheduler = tasks ++ rest)
    (request : ∀ id ∈ tasks, engine.isLive id = true → asked id) :
    Moves setup named asked engine (runTasks setup scheduler tasks engine) := by
  induction tasks generalizing engine with
  | nil => exact .refl
  | cons id tasks inductionHypothesis =>
    have first : Moves setup named asked engine ((engine.dropTask scheduler).runTask setup id) :=
      runTask_moves queued (request id (List.mem_cons_self))
    refine first.trans (inductionHypothesis ?_ ?_)
    · rw [waiting_runTask, waiting_dropTask, if_pos rfl, queued]
      rfl
    · intro other later live
      rw [isLive_runTask] at live
      exact request other (List.mem_cons_of_mem id later) live

/-- The thread on which a setup is used decides only what the log says. -/
theorem Moves.of_thread {next : Engine} (thread : Thread)
    (moves : Moves { setup with thread } named asked engine next) :
    Moves setup named asked engine next := by
  refine Relation.ReflTransGen.mono ?_ _ _ moves
  intro before after move
  cases move with
  | memory store => exact .memory _ _
  | logged thread entry => exact .logged _ _ _
  | tracked mentioned untracked => exact .tracked mentioned untracked
  | released id => exact .released _ id
  | held live => exact .held live
  | unheld id => exact .unheld _ id
  | installed kind drained => exact .installed _ kind drained
  | reinstalled installed drained => exact .reinstalled installed drained
  | compiled found unsettled request => exact .compiled found unsettled request
  | counted found enabled count early => exact .counted found enabled count early
  | scheduled found enabled count due => exact .scheduled found enabled count due
  | interpreted holder its => exact .interpreted holder its
  | switched holder found fits => exact .switched holder found fits
  | pinned holder found misfits => exact .pinned holder found misfits
  | entered holder serves => exact .entered holder serves
  | boundCompiled found closes fits => exact .boundCompiled found closes fits
  | boundInterpreted interprets found live closes =>
    exact .boundInterpreted interprets found live closes
  | dropped target => exact .dropped _ target
  | dequeued first finished => exact .dequeued first finished

theorem runNext_moves {scheduler : SchedulerId}
    (request : ∀ id ∈ engine.requests setup (.runNext scheduler), asked id) :
    Moves setup named asked engine (engine.runNext setup scheduler).2 := by
  unfold runNext
  simp only [requests] at request
  cases queued : engine.waiting scheduler with
  | nil => exact .refl
  | cons id rest =>
    refine Moves.of_thread .worker (runTask_moves queued ?_)
    intro live
    apply request
    simp [queued, live]

theorem runPending_moves (request : ∀ id ∈ engine.requests setup .runPending, asked id) :
    Moves setup named asked engine (engine.runPending setup).2 := by
  unfold runPending
  simp only [requests] at request
  cases drained : engine.drainable with
  | none => exact .refl
  | some scheduler =>
    simp only [drained] at request
    refine runTasks_moves (List.append_nil _).symm ?_
    intro id queued live
    exact request id (List.mem_filter.mpr ⟨queued, live⟩)

theorem useScheduler_moves (kind : SchedulerKind) (drained : Bool) :
    Moves setup named asked engine (engine.useScheduler setup kind drained) := by
  unfold useScheduler
  split
  · exact .tail (.single (.logged _ _ _)) (.installed _ kind drained)
  · exact .single (.installed _ kind drained)

/-- Every command is a sequence of elementary changes. -/
theorem perform_moves {command : Command}
    (mention : ∀ definition, command.definition? = some definition → named definition)
    (request : ∀ id ∈ engine.requests setup command, asked id) :
    Moves setup named asked engine (engine.perform setup command).2 := by
  cases command with
  | track definition => exact controllerFor_moves (mention definition rfl)
  | bind definition closure => exact bind_moves (mention definition rfl) closure request
  | invoke target args =>
    simp only [perform]
    cases holder : engine.handle? target with
    | none => exact .refl
    | some handle => exact invoke_moves holder args
  | call target args =>
    simp only [perform]
    cases holder : engine.handle? target with
    | none => exact .refl
    | some handle => exact invoke_moves holder args
  | compileNow definition =>
    have tracks : Moves setup named asked engine (engine.controllerFor setup definition).2 :=
      controllerFor_moves (mention definition rfl)
    exact tracks.trans (compile_moves (request _ (List.mem_singleton.mpr rfl)))
  | release id => exact .single (.released engine id)
  | runPending => exact runPending_moves request
  | useScheduler kind drained => exact useScheduler_moves kind drained
  | reinstall scheduler drained =>
    simp only [perform]
    split
    · exact .single (.reinstalled ‹_› drained)
    · exact .refl
  | dropHandle target => exact .single (.dropped engine target)
  | hold id =>
    simp only [perform]
    cases live : engine.isLive id with
    | false => exact .refl
    | true => exact .single (.held live)
  | unhold id => exact .single (.unheld engine id)
  | bindHeld id closure =>
    simp only [perform, requests] at request ⊢
    cases kept : engine.heldController? id with
    | none => exact .refl
    | some controller =>
      obtain ⟨held, found⟩ := heldController?_eq_some.mp kept
      refine bindController_moves found (isLive_of_held held) closure ?_
      intro compileOnly closes
      apply request
      simp [compileOnly, kept, closes, Except.isOk, Except.toBool]
  | compileHeld id =>
    simp only [perform, requests] at request ⊢
    cases held : engine.held.contains id with
    | false => exact .refl
    | true =>
      rw [held] at request
      exact compile_moves (request id (List.mem_singleton.mpr rfl))
  | countHeld id =>
    simp only [perform]
    cases engine.held.contains id with
    | false => exact .refl
    | true => exact recordCall_moves id
  | newCell | writeCell | newBox | writeBox => exact .single (.memory engine _)
  | runNext scheduler => exact runNext_moves request

end

end HotPath.Engine

import HotPath.Proofs.Tier.Genuine
import HotPath.Proofs.Tier.Untiered

/-!
To its host an engine behaves as if it had no tiers: whatever is promoted, fails, is released or
rescheduled meanwhile, binds and calls give what interpreting every call gives.
-/

namespace HotPath

theorem Definition.interpret_alike (definition : Definition) (rounds : Nat) (args : List Value)
    (closure : Option Binding) {store store' : Store} (alike : store.Alike store') :
    (definition.interpret rounds args closure store).Alike
      (definition.interpret rounds args closure store') := by
  by_cases fits : args.length = definition.signature.arity
  · have sameCells : definition.SameCells (closure.getD []) (closure.getD []) := fun _ _ => rfl
    have first := entry_agrees sameCells rounds fits alike
    have second := entry_agrees sameCells rounds fits (Store.Alike.refl store')
    exact ⟨second.outcome.symm.trans first.outcome, second.slots.symm.trans first.slots,
      first.store.trans second.store.symm⟩
  · simp only [interpret, ne_eq, fits, not_false_eq_true, ↓reduceIte]
    exact ⟨rfl, rfl, alike⟩

/-- A handle that calls a function with a closure, on either tier. -/
inductive Handle.Serves (definition : Definition) (closure : Option Binding) : Handle → Prop where
  | compiled {binding : Binding} (sameCells : definition.SameCells (closure.getD []) binding) :
      Serves definition closure ⟨definition, .compiled (definition.entry binding)⟩
  | unresolved (id : ControllerId) :
      Serves definition closure ⟨definition, .interpreted id closure .unresolved⟩
  | switched (id : ControllerId) {binding : Binding}
      (sameCells : definition.SameCells (closure.getD []) binding) :
      Serves definition closure
        ⟨definition, .interpreted id closure (.switched (definition.entry binding))⟩

namespace Engine

/-- An engine that shows its host the same as one without tiers. -/
structure Shows (engine : Engine) (untiered : Untiered) : Prop where
  store : untiered.store.Alike engine.store
  size : engine.handles.size = untiered.handles.size
  handles : ∀ target,
    untiered.handle? target = none ∧ engine.handle? target = none ∨
    ∃ definition closure handle, untiered.handle? target = some (definition, closure) ∧
      engine.handle? target = some handle ∧ handle.Serves definition closure

/-- A change that touches neither handles nor memory. -/
structure Untouched (engine next : Engine) : Prop where
  store : next.store = engine.store
  handles : next.handles = engine.handles

variable {setup : Setup} {engine next : Engine} {untiered : Untiered}

theorem Untouched.trans {last : Engine} (first : engine.Untouched next)
    (second : next.Untouched last) : engine.Untouched last :=
  ⟨second.store.trans first.store, second.handles.trans first.handles⟩

/-! ## Commands about tiers -/

theorem compile_untouched (setup : Setup) (engine : Engine) (id : ControllerId) :
    engine.Untouched (engine.compile setup id).2 := by
  obtain ⟨controllers, journal, same⟩ := compile_frame setup engine id
  rw [same]
  exact ⟨rfl, rfl⟩

theorem runTask_untouched (setup : Setup) (engine : Engine) (id : ControllerId) :
    engine.Untouched (engine.runTask setup id) := by
  obtain ⟨controllers, journal, same⟩ := runTask_frame setup engine id
  rw [same]
  exact ⟨rfl, rfl⟩

theorem recordCall_untouched (setup : Setup) (engine : Engine) (id : ControllerId) :
    engine.Untouched (engine.recordCall setup id) := by
  obtain ⟨controllers, schedulers, journal, same⟩ := recordCall_frame setup engine id
  rw [same]
  exact ⟨rfl, rfl⟩

theorem controllerFor_untouched (setup : Setup) (engine : Engine) (definition : Definition) :
    engine.Untouched (engine.controllerFor setup definition).2 := by
  unfold controllerFor
  cases engine.tracked? definition.id <;> exact ⟨rfl, rfl⟩

theorem runTasks_untouched (setup : Setup) (scheduler : SchedulerId) (tasks : List ControllerId)
    (engine : Engine) : engine.Untouched (runTasks setup scheduler tasks engine) := by
  induction tasks generalizing engine with
  | nil => exact ⟨rfl, rfl⟩
  | cons task rest inductionHypothesis =>
    have dropped : engine.Untouched (engine.dropTask scheduler) := ⟨rfl, rfl⟩
    exact (dropped.trans (runTask_untouched setup _ task)).trans (inductionHypothesis _)

/-- A command that is not the host's touches nothing that the host shares with functions. -/
theorem perform_untouched (setup : Setup) (engine : Engine) {command : Command}
    (tiers : (engine.meant command).isHost = false) :
    engine.Untouched (engine.perform setup command).2 := by
  cases command with
  | track definition => exact controllerFor_untouched setup engine definition
  | compileNow definition =>
    exact (controllerFor_untouched setup engine definition).trans (compile_untouched setup _ _)
  | release | unhold => exact ⟨rfl, rfl⟩
  | runPending =>
    simp only [perform, runPending]
    cases engine.drainable with
    | none => exact ⟨rfl, rfl⟩
    | some scheduler => exact runTasks_untouched setup scheduler _ engine
  | useScheduler kind drained =>
    simp only [perform, useScheduler]
    split <;> exact ⟨rfl, rfl⟩
  | reinstall scheduler drained =>
    simp only [perform]
    split <;> exact ⟨rfl, rfl⟩
  | hold id =>
    simp only [perform]
    split <;> exact ⟨rfl, rfl⟩
  | bindHeld id closure =>
    simp only [perform, meant] at tiers ⊢
    cases kept : engine.heldController? id with
    | none => exact ⟨rfl, rfl⟩
    | some controller =>
      rw [kept] at tiers
      cases tiers
  | compileHeld id =>
    simp only [perform]
    split
    · exact compile_untouched setup engine id
    · exact ⟨rfl, rfl⟩
  | countHeld id =>
    simp only [perform]
    split
    · exact recordCall_untouched setup engine id
    · exact ⟨rfl, rfl⟩
  | runNext scheduler =>
    simp only [perform, runNext]
    cases engine.waiting scheduler with
    | nil => exact ⟨rfl, rfl⟩
    | cons task rest =>
      have dropped : engine.Untouched (engine.dropTask scheduler) := ⟨rfl, rfl⟩
      exact dropped.trans (runTask_untouched _ _ task)
  | bind | invoke | call | dropHandle | newCell | writeCell | newBox | writeBox => cases tiers

/-! ## Calls -/

/-- A change of memory and of things that a host does not see. -/
theorem Shows.withStore (shows : engine.Shows untiered) (handles : next.handles = engine.handles)
    {store : Store} (alike : store.Alike next.store) : next.Shows { untiered with store } where
  store := alike
  size := handles ▸ shows.size
  handles target := by
    have same : next.handle? target = engine.handle? target := by
      rw [handle?, handles, handle?]
    rw [same]
    exact shows.handles target

theorem Shows.untouched (shows : engine.Shows untiered) (untouched : engine.Untouched next) :
    next.Shows untiered :=
  shows.withStore untouched.handles (untouched.store ▸ shows.store)

/-- Another handle of the same function and closure takes the place of one. -/
theorem Shows.setHandle (shows : engine.Shows untiered) {target : HandleId}
    {definition : Definition} {closure : Option Binding} {handle changed : Handle}
    (bound : untiered.handle? target = some (definition, closure))
    (holder : engine.handle? target = some handle) (serves : changed.Serves definition closure) :
    (engine.setHandle target (some changed)).Shows untiered where
  store := shows.store
  size := (Array.size_setIfInBounds ..).trans shows.size
  handles other := by
    rw [handle?_setHandle holder]
    by_cases its : other = target
    · subst its
      rw [if_pos rfl]
      exact .inr ⟨definition, closure, changed, bound, rfl, serves⟩
    · rw [if_neg its]
      exact shows.handles other

variable {definition : Definition} {closure : Option Binding} {args : List Value}
  {target : HandleId}

theorem enter_handles (setup : Setup) (engine : Engine) (target : HandleId)
    (entry : CompiledEntry) (args : List Value) :
    (engine.enter setup target entry args).2.handles = engine.handles := rfl

theorem interpret_handles (setup : Setup) (engine : Engine) (target : HandleId) (id : ControllerId)
    (definition : Definition) (closure : Option Binding) (args : List Value) :
    (engine.interpret setup target id definition closure args).2.handles =
      (engine.recordCall setup id).handles := rfl

theorem Shows.enter (shows : engine.Shows untiered) {binding : Binding}
    (sameCells : definition.SameCells (closure.getD []) binding)
    (fits : args.length = definition.signature.arity) (setup : Setup) (target : HandleId) :
    let reply := definition.interpret setup.rounds args closure untiered.store
    (engine.enter setup target (definition.entry binding) args).1 = ⟨reply.outcome, reply.slots⟩ ∧
      (engine.enter setup target (definition.entry binding) args).2.Shows
        { untiered with store := reply.store } := by
  obtain ⟨outcome, slots, alike⟩ :=
    Definition.entry_agrees sameCells setup.rounds fits shows.store
  refine ⟨?_, shows.withStore (enter_handles ..) alike⟩
  rw [← outcome, ← slots]
  rfl

theorem Shows.interpret (shows : engine.Shows untiered) (setup : Setup) (target : HandleId)
    (id : ControllerId) :
    let reply := definition.interpret setup.rounds args closure untiered.store
    (engine.interpret setup target id definition closure args).1 = ⟨reply.outcome, reply.slots⟩ ∧
      (engine.interpret setup target id definition closure args).2.Shows
        { untiered with store := reply.store } := by
  have counted := shows.untouched (recordCall_untouched setup engine id)
  obtain ⟨outcome, slots, alike⟩ :=
    definition.interpret_alike setup.rounds args closure counted.store
  refine ⟨?_, counted.withStore (interpret_handles ..) alike⟩
  rw [← outcome, ← slots]
  rfl

/-- A call of a handle is an interpretation, whatever tier serves it. -/
theorem Shows.invoke {known : Definition → Prop} (shows : engine.Shows untiered)
    (genuine : Genuine known engine) (linked : engine.Linked) (setup : Setup) {handle : Handle}
    (bound : untiered.handle? target = some (definition, closure))
    (holder : engine.handle? target = some handle) (serves : handle.Serves definition closure)
    (args : List Value) :
    let reply := definition.interpret setup.rounds args closure untiered.store
    (engine.invoke setup target handle args).1 = ⟨reply.outcome, reply.slots⟩ ∧
      (engine.invoke setup target handle args).2.Shows { untiered with store := reply.store } := by
  by_cases fits : args.length = definition.signature.arity
  · cases serves with
    | compiled sameCells =>
      simp only [Engine.invoke, ne_eq, fits, not_true_eq_false, ↓reduceIte]
      exact shows.enter sameCells fits setup target
    | switched id sameCells =>
      simp only [Engine.invoke, ne_eq, fits, not_true_eq_false, ↓reduceIte]
      exact shows.enter sameCells fits setup target
    | unresolved id =>
      simp only [Engine.invoke, ne_eq, fits, not_true_eq_false, ↓reduceIte, resolveAndServe]
      cases resolved : (engine.controllers[id]?).bind (·.entryFor? closure) with
      | none => exact shows.interpret setup target id
      | some entered =>
        obtain ⟨closes, controller, present, rfl, -⟩ := linked holder
        rw [present] at resolved
        obtain ⟨binding, sameCells, rfl⟩ := genuine.entryFor? present closes resolved
        have quiet : engine.Untouched ((engine.log setup (.switched controller.definition.name
            (controller.definition.entry binding).isAdapted)).modifyController id
              Controller.countPromoted) := ⟨rfl, rfl⟩
        have switched := (shows.untouched quiet).setHandle bound holder (.switched id sameCells)
        exact switched.enter sameCells fits setup target
  · obtain rfl : handle.definition = definition := by cases serves <;> rfl
    simp only [Engine.invoke, Definition.interpret, ne_eq, fits, not_false_eq_true, ↓reduceIte]
    exact ⟨trivial, shows⟩

/-! ## Binding -/

theorem Shows.addHandle (shows : engine.Shows untiered) {handle : Handle}
    (serves : handle.Serves definition closure) :
    (engine.addHandle handle).1 = untiered.handles.size ∧
      (engine.addHandle handle).2.Shows
        { untiered with handles := untiered.handles.push (some (definition, closure)) } := by
  refine ⟨shows.size, shows.store, ?_, fun target => ?_⟩
  · simp [Engine.addHandle, shows.size]
  · rw [handle?_addHandle, Untiered.handle?, Array.getElem?_push, shows.size]
    by_cases fresh : target = untiered.handles.size
    · rw [if_pos fresh, if_pos fresh]
      exact .inr ⟨definition, closure, handle, rfl, rfl, serves⟩
    · rw [if_neg fresh, if_neg fresh]
      exact shows.handles target

/-- How a bind shows: as one without tiers, or, without an interpreter, as refused
because compiling failed. -/
def BindShows (setup : Setup) (untiered : Untiered) (definition : Definition)
    (closure : Option Binding) (bound : Except BindError HandleId × Engine) : Prop :=
  (Answer.bound bound.1 = (untiered.bind definition closure).1 ∧
    bound.2.Shows (untiered.bind definition closure).2) ∨
  (setup.interprets = false ∧ (∃ error, bound.1 = .error (.compile error)) ∧
    bound.2.Shows untiered)

theorem Shows.bindCompiled {known : Definition → Prop} (shows : engine.Shows untiered)
    (genuine : Genuine known engine) (faithful : setup.compiler.Faithful)
    (compileOnly : setup.interprets = false) {id : ControllerId} {controller : Controller}
    (found : engine.controllers[id]? = some controller)
    (closes : controller.definition.checkClosure closure = .ok ()) :
    BindShows setup untiered controller.definition closure
      (engine.bindCompiled setup id controller closure) := by
  have compiles : Moves setup known (fun _ => True) engine (engine.compile setup id).2 :=
    compile_moves trivial
  have genuine := compiles.genuine faithful genuine
  have shows := shows.untouched (compile_untouched setup engine id)
  obtain ⟨changed, present, settled⟩ := compile_settles setup found
  obtain ⟨later, present', its⟩ := compiles.definition found
  cases present.symm.trans present'
  unfold Engine.bindCompiled
  generalize engine.compile setup id = answer at genuine shows present settled
  obtain ⟨result, compiled⟩ := answer
  cases result with
  | error error => exact .inr ⟨compileOnly, ⟨error, rfl⟩, shows⟩
  | ok _ =>
    obtain ⟨code, published⟩ := Controller.published_of_settled settled
    obtain ⟨entered, entry⟩ : ∃ entered, changed.entryFor? closure = some entered := by
      simp [Controller.entryFor?, published]
    rw [← its] at closes ⊢
    obtain ⟨binding, sameCells, rfl⟩ := genuine.entryFor? present closes entry
    obtain ⟨target, added⟩ := shows.addHandle (.compiled sameCells)
    left
    simp only [present, Option.bind_some, entry, Untiered.bind, closes]
    exact ⟨congrArg (Answer.bound ∘ Except.ok) target, added⟩

theorem Shows.bindController {known : Definition → Prop} (shows : engine.Shows untiered)
    (genuine : Genuine known engine) (faithful : setup.compiler.Faithful) {id : ControllerId}
    {controller : Controller} (found : engine.controllers[id]? = some controller)
    (closure : Option Binding) :
    BindShows setup untiered controller.definition closure
      (engine.bindController setup id controller closure) := by
  unfold Engine.bindController
  cases closes : controller.definition.checkClosure closure with
  | error error =>
    left
    simp only [Untiered.bind, closes]
    exact ⟨trivial, shows⟩
  | ok _ =>
    cases interprets : setup.interprets with
    | false => exact shows.bindCompiled genuine faithful interprets found closes
    | true =>
      left
      simp only [Bool.not_true, Bool.false_eq_true, ↓reduceIte, Untiered.bind, closes]
      split
      · rename_i entry _ fits
        obtain ⟨binding, sameCells, same⟩ := genuine.entryFor? found closes fits
        cases same
        obtain ⟨target, added⟩ := shows.addHandle (.compiled sameCells)
        exact ⟨congrArg (Answer.bound ∘ Except.ok) target, added⟩
      · obtain ⟨target, added⟩ := shows.addHandle (.unresolved id)
        exact ⟨congrArg (Answer.bound ∘ Except.ok) target, added⟩

theorem Shows.bind {known : Definition → Prop} (shows : engine.Shows untiered)
    (genuine : Genuine known engine) (distinct : Distinct known)
    (faithful : setup.compiler.Faithful) (mentioned : known definition)
    (closure : Option Binding) :
    BindShows setup untiered definition closure (engine.bind setup definition closure) := by
  have tracks : Moves setup known (fun _ => True) engine
      (engine.controllerFor setup definition).2 := controllerFor_moves mentioned
  obtain ⟨controller, present, rfl⟩ := genuine.controllerFor setup distinct mentioned
  have genuine := tracks.genuine faithful genuine
  have shows := shows.untouched (controllerFor_untouched setup engine controller.definition)
  unfold Engine.bind
  simp only [present]
  exact shows.bindController genuine faithful present closure

/-! ## Commands of the host -/

theorem Shows.withMemory (shows : engine.Shows untiered) {store store' : Store}
    (alike : store.Alike store') : Shows { engine with store := store' } { untiered with store } :=
  ⟨alike, shows.size, shows.handles⟩

theorem Shows.dropHandle (shows : engine.Shows untiered) (target : HandleId) :
    (engine.dropHandle target).Shows
      { untiered with handles := untiered.handles.setIfInBounds target none } := by
  refine ⟨shows.store, ?_, fun other => ?_⟩
  · simp [Engine.dropHandle, Engine.setHandle, shows.size]
  · rw [handle?_dropHandle, Untiered.handle?_dropped]
    by_cases its : other = target
    · rw [if_pos its, if_pos its]
      exact .inl ⟨rfl, rfl⟩
    · rw [if_neg its, if_neg its]
      exact shows.handles other

/-- Whether a bind was refused since there is no code for its function. -/
def Answer.isRefusal : Answer → Bool
  | .bound (.error (.compile _)) => true
  | _ => false

theorem BindShows.answered {bound : Except BindError HandleId × Engine}
    (shown : BindShows setup untiered definition closure bound) :
    (Answer.bound bound.1 = (untiered.bind definition closure).1 ∧
      (Answer.bound bound.1).isRefusal = false ∧
      bound.2.Shows (untiered.bind definition closure).2) ∨
    (setup.interprets = false ∧ (Answer.bound bound.1).isRefusal = true ∧
      bound.2.Shows untiered) := by
  rcases shown with ⟨answer, after⟩ | ⟨compileOnly, ⟨error, refused⟩, after⟩
  · refine .inl ⟨answer, ?_, after⟩
    rw [answer, Untiered.bind]
    split <;> rfl
  · exact .inr ⟨compileOnly, by rw [refused]; rfl, after⟩

theorem Shows.perform {known : Definition → Prop} (shows : engine.Shows untiered)
    (genuine : Genuine known engine) (linked : engine.Linked) (distinct : Distinct known)
    (faithful : setup.compiler.Faithful) {command : Command}
    (mentioned : ∀ definition, command.definition? = some definition → known definition)
    (host : (engine.meant command).isHost = true) :
    ((engine.perform setup command).1 =
        (untiered.perform setup.rounds (engine.meant command)).1 ∧
      (engine.perform setup command).1.isRefusal = false ∧
      (engine.perform setup command).2.Shows
        (untiered.perform setup.rounds (engine.meant command)).2) ∨
    (setup.interprets = false ∧ (engine.perform setup command).1.isRefusal = true ∧
      (engine.perform setup command).2.Shows untiered) := by
  cases command with
  | bind definition closure =>
    exact (shows.bind genuine distinct faithful (mentioned definition rfl) closure).answered
  | bindHeld id closure =>
    simp only [Engine.perform, meant] at host ⊢
    cases kept : engine.heldController? id with
    | none =>
      rw [kept] at host
      cases host
    | some controller =>
      obtain ⟨-, found⟩ := heldController?_eq_some.mp kept
      exact (shows.bindController genuine faithful found closure).answered
  | invoke target args =>
    left
    simp only [Engine.perform, meant, Untiered.perform, Untiered.invoke]
    rcases shows.handles target with ⟨unbound, missing⟩ |
      ⟨definition, closure, handle, bound, holder, serves⟩
    · rw [unbound, missing]
      exact ⟨rfl, rfl, shows⟩
    · obtain ⟨answer, after⟩ := shows.invoke genuine linked setup bound holder serves args
      rw [bound, holder]
      exact ⟨congrArg Answer.invoked answer, rfl, after⟩
  | call target args =>
    left
    simp only [Engine.perform, meant, Untiered.perform, Untiered.invoke]
    rcases shows.handles target with ⟨unbound, missing⟩ |
      ⟨definition, closure, handle, bound, holder, serves⟩
    · rw [unbound, missing]
      exact ⟨rfl, rfl, shows⟩
    · obtain ⟨answer, after⟩ := shows.invoke genuine linked setup bound holder serves args
      rw [bound, holder]
      simp only [Engine.call]
      generalize engine.invoke setup target handle args = result at answer after
      obtain ⟨invocation, called⟩ := result
      obtain rfl : invocation = _ := answer
      exact ⟨rfl, rfl, after⟩
  | dropHandle target => exact .inl ⟨rfl, rfl, shows.dropHandle target⟩
  | newCell value =>
    have same := congrArg (Answer.made ∘ Array.size) shows.store.cells
    exact .inl ⟨same, rfl, shows.withMemory (shows.store.newCell value)⟩
  | writeCell cell value =>
    exact .inl ⟨rfl, rfl, shows.withMemory (shows.store.writeCell cell value)⟩
  | newBox value =>
    have same := congrArg (Answer.made ∘ Array.size) shows.store.hostBoxes
    exact .inl ⟨same, rfl, shows.withMemory (shows.store.newHostBox value)⟩
  | writeBox box value =>
    exact .inl ⟨rfl, rfl, shows.withMemory (shows.store.writeBox box value)⟩
  | _ => cases host

/-! ## Runs -/

/-- What a host observes in a run. A bind that was refused is left out; for the host
nothing came of it. -/
def observed (setup : Setup) : Engine → List Turn → List Observation
  | _, [] => []
  | engine, turn :: rest =>
    let (answer, next) := engine.take setup turn
    if (engine.meant turn.command).isHost && !answer.isRefusal then
      ⟨engine.meant turn.command, answer, next.store.cells, next.store.hostBoxes⟩ ::
        next.observed setup rest
    else next.observed setup rest

def served (setup : Setup) (engine : Engine) (turns : List Turn) : List Command :=
  (engine.observed setup turns).map (·.command)

def hostCommands (setup : Setup) (engine : Engine) (turns : List Turn) : List Command :=
  engine.history setup (fun engine turn => [engine.meant turn.command].filter Command.isHost) turns

theorem observed_skipped {turn : Turn}
    (skipped : ((engine.meant turn.command).isHost &&
      !(engine.take setup turn).1.isRefusal) = false) (rest : List Turn) :
    engine.observed setup (turn :: rest) = (engine.take setup turn).2.observed setup rest := by
  simp [Engine.observed, skipped]

theorem observed_served {turn : Turn} (host : (engine.meant turn.command).isHost = true)
    (accepted : (engine.take setup turn).1.isRefusal = false) (rest : List Turn) :
    engine.observed setup (turn :: rest) =
      ⟨engine.meant turn.command, (engine.take setup turn).1,
        (engine.take setup turn).2.store.cells, (engine.take setup turn).2.store.hostBoxes⟩ ::
        (engine.take setup turn).2.observed setup rest := by
  simp [Engine.observed, host, accepted]

/-- A run shows what the same commands show without tiers, and with an interpreter it
refuses none of them. -/
theorem Shows.observed {known : Definition → Prop} (shows : engine.Shows untiered)
    (genuine : Genuine known engine) (linked : engine.Linked) (distinct : Distinct known)
    {turns : List Turn} (faithful : ∀ turn ∈ turns, turn.compiler.Faithful)
    (mentioned : ∀ turn ∈ turns, ∀ definition, turn.command.definition? = some definition →
      known definition) :
    engine.observed setup turns =
        untiered.observed setup.rounds (engine.served setup turns) ∧
      (setup.interprets = true → engine.served setup turns = engine.hostCommands setup turns) := by
  induction turns generalizing engine untiered with
  | nil => exact ⟨rfl, fun _ => rfl⟩
  | cons turn rest inductionHypothesis =>
    have sound : (turn.setup setup).compiler.Faithful := faithful turn List.mem_cons_self
    have known := mentioned turn List.mem_cons_self
    have moves : Moves (turn.setup setup) _ (fun _ => True) engine (engine.take setup turn).2 :=
      perform_moves known fun _ _ => trivial
    have genuine' := moves.genuine sound genuine
    have linked' := moves.keeps Linked (fun move before => before.move move) linked
    have goOn {untiered : Untiered} (after : (engine.take setup turn).2.Shows untiered) :=
      inductionHypothesis after genuine' linked'
        (fun later member => faithful later (List.mem_cons_of_mem _ member))
        (fun later member => mentioned later (List.mem_cons_of_mem _ member))
    cases host : (engine.meant turn.command).isHost with
    | false =>
      have after := shows.untouched (perform_untouched (turn.setup setup) engine host)
      rw [served, observed_skipped (by simp [host]), hostCommands, history,
        List.filter_cons_of_neg (by simp [host])]
      exact goOn after
    | true =>
      rcases shows.perform genuine linked distinct sound known host with
        ⟨answer, accepted, after⟩ | ⟨compileOnly, refused, after⟩
      · obtain ⟨observations, commands⟩ := goOn after
        let performed := untiered.perform setup.rounds (engine.meant turn.command)
        have first : (engine.take setup turn).1 = performed.1 := answer
        have cells : (engine.take setup turn).2.store.cells = performed.2.store.cells :=
          after.store.cells
        have boxes : (engine.take setup turn).2.store.hostBoxes = performed.2.store.hostBoxes :=
          after.store.hostBoxes
        rw [served, observed_served host accepted, hostCommands, history, List.map_cons,
          List.filter_cons_of_pos host]
        refine ⟨?_, fun interprets => congrArg _ (commands interprets)⟩
        refine congrArg₂ List.cons ?_ observations
        rw [first, cells, boxes]
        rfl
      · -- A bind that compiling refuses is not among what was served, and leaves no handle.
        have gone : (engine.take setup turn).1.isRefusal = true := refused
        rw [served, observed_skipped (by simp [gone])]
        refine ⟨(goOn after).1, fun interprets => ?_⟩
        cases compileOnly.symm.trans interprets

theorem Begins.shows {begun : Engine} (begins : Begins begun) : begun.Shows {} := by
  induction begins with
  | installed kind drained => exact ⟨.refl _, rfl, fun target => .inl ⟨rfl, rfl⟩⟩
  | logged _ _ _ shows => exact ⟨shows.store, shows.size, shows.handles⟩

/-- The functions that the commands of a run speak of. -/
def Mentions (turns : List Turn) (definition : Definition) : Prop :=
  ∃ turn ∈ turns, turn.command.definition? = some definition

theorem Begins.observed {begun : Engine} (begins : Begins begun) (setup : Setup)
    {turns : List Turn} (distinct : Distinct (Mentions turns))
    (faithful : ∀ turn ∈ turns, turn.compiler.Faithful) :
    begun.observed setup turns =
        Untiered.observed setup.rounds {} (begun.served setup turns) ∧
      (setup.interprets = true → begun.served setup turns = begun.hostCommands setup turns) :=
  begins.shows.observed (begins.genuine _) begins.linked distinct faithful
    fun turn member _ mentioned => ⟨turn, member, mentioned⟩

end Engine

end HotPath

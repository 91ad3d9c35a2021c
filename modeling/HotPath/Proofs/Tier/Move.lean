import HotPath.Tier.Run
import Mathlib.Logic.Relation

/-!
The elementary changes of an engine, and what each part of an engine can look like after one.
-/

namespace HotPath

theorem Controller.definition_keep (controller : Controller) (micros : Nat)
    (code : Except CompileError CompiledCode) :
    (controller.keep micros code).definition = controller.definition := by
  cases code <;> rfl

theorem Controller.countCall?_eq_some {controller next : Controller}
    (count : controller.countCall? = some next) :
    next = { controller with executionCount := controller.executionCount + 1 } := by
  unfold countCall? at count
  split at count
  · exact (Option.some.inj count).symm
  · cases count

theorem Controller.settled?_eq_none_iff {controller : Controller} :
    controller.settled? = none ↔ controller.published = none ∧ controller.failure = none := by
  unfold settled?
  cases controller.published <;> cases controller.failure <;> simp

theorem Controller.settled?_keep {controller : Controller} (micros : Nat)
    (code : Except CompileError CompiledCode) (unsettled : controller.settled? = none) :
    (controller.keep micros code).settled? = some (code.map fun _ => ()) := by
  obtain ⟨unpublished, -⟩ := settled?_eq_none_iff.mp unsettled
  cases code <;> simp [settled?, keep, unpublished, Except.map]

theorem Controller.published_of_settled {controller : Controller}
    (settled : controller.settled? = some (.ok ())) :
    ∃ code, controller.published = some code := by
  unfold settled? at settled
  cases published : controller.published with
  | some code => exact ⟨code, rfl⟩
  | none => cases failure : controller.failure <;> simp [published, failure] at settled

theorem Controller.unpublished_of_failed {controller : Controller} {error : CompileError}
    (failed : controller.settled? = some (.error error)) : controller.published = none := by
  unfold settled? at failed
  cases published : controller.published with
  | some code => simp [published] at failed
  | none => rfl

/-- What an elementary change can make of a controller; `asked` says whether it may
be compiled. -/
inductive Controller.Change (setup : Setup) (asked : Prop) : Controller → Controller → Prop where
  | kept {controller : Controller} : Change setup asked controller controller
  | compiled {controller : Controller} (unsettled : controller.settled? = none) (request : asked) :
      Change setup asked controller (controller.keep (setup.codegenMicros controller.definition)
        (controller.generate setup.compiler))
  | counted {controller next : Controller} (enabled : setup.policy.enabled = true)
      (count : controller.countCall? = some next) (early : next.isDue setup.policy = false) :
      Change setup asked controller next
  | scheduled {controller next : Controller} (enabled : setup.policy.enabled = true)
      (count : controller.countCall? = some next) (due : next.isDue setup.policy = true) :
      Change setup asked controller next.markScheduled
  | interpreted {controller : Controller} :
      Change setup asked controller controller.countInterpreted
  | promoted {controller : Controller} : Change setup asked controller controller.countPromoted

theorem Controller.Change.definition {setup : Setup} {asked : Prop}
    {controller changed : Controller} (change : controller.Change setup asked changed) :
    changed.definition = controller.definition := by
  cases change with
  | kept | interpreted | promoted => rfl
  | compiled => exact definition_keep _ _ _
  | counted _ count | scheduled _ count =>
    obtain rfl := countCall?_eq_some count
    rfl

theorem Controller.Change.published {setup : Setup} {asked : Prop}
    {controller changed : Controller} (change : controller.Change setup asked changed)
    {code : CompiledCode} (published : controller.published = some code) :
    changed.published = some code := by
  cases change with
  | kept | interpreted | promoted => exact published
  | compiled unsettled => cases (settled?_eq_none_iff.mp unsettled).1.symm.trans published
  | counted _ count | scheduled _ count =>
    obtain rfl := countCall?_eq_some count
    exact published

theorem Controller.Change.failure {setup : Setup} {asked : Prop}
    {controller changed : Controller} (change : controller.Change setup asked changed)
    {error : CompileError} (failed : controller.failure = some error) :
    changed.failure = some error := by
  cases change with
  | kept | interpreted | promoted => exact failed
  | compiled unsettled => cases (settled?_eq_none_iff.mp unsettled).2.symm.trans failed
  | counted _ count | scheduled _ count =>
    obtain rfl := countCall?_eq_some count
    exact failed

theorem Controller.published_of_entry {controller : Controller} {closure : Option Binding}
    {entered : Except Mismatch CompiledEntry}
    (entry : controller.entryFor? closure = some entered) :
    ∃ code, controller.published = some code := by
  obtain ⟨code, published, -⟩ := Option.map_eq_some_iff.mp entry
  exact ⟨code, published⟩

namespace Engine

/-- An elementary change of an engine, brought about by a command that may make it
track the `named` functions and may have the `asked` controllers compiled. -/
inductive Move (setup : Setup) (named : Definition → Prop) (asked : ControllerId → Prop) :
    Engine → Engine → Prop where
  | memory (engine : Engine) (store : Store) : Move setup named asked engine { engine with store }
  | logged (engine : Engine) (thread : Thread) (entry : LogRecord) :
      Move setup named asked engine (engine.record (.logged thread entry))
  | tracked {engine : Engine} {definition : Definition} (mentioned : named definition)
      (untracked : engine.tracked? definition.id = none) :
      Move setup named asked engine { engine with
        controllers := engine.controllers.push { definition, scheduler := engine.current }
        registry := (definition.id, engine.controllers.size) :: engine.registry }
  | released (engine : Engine) (id : DefinitionId) :
      Move setup named asked engine (engine.release id).2
  | held {engine : Engine} {id : ControllerId} (live : engine.isLive id = true) :
      Move setup named asked engine (engine.hold id)
  | unheld (engine : Engine) (id : ControllerId) :
      Move setup named asked engine (engine.unhold id)
  | installed (engine : Engine) (kind : SchedulerKind) (drained : Bool) :
      Move setup named asked engine (engine.install kind drained)
  | reinstalled {engine : Engine} {scheduler : SchedulerId}
      (installed : scheduler < engine.schedulers.size) (drained : Bool) :
      Move setup named asked engine (engine.reinstall scheduler drained)
  /-- The compiler is asked for the code of a function, and its answer is kept. -/
  | compiled {engine : Engine} {id : ControllerId} {controller : Controller}
      (found : engine.controllers[id]? = some controller) (unsettled : controller.settled? = none)
      (request : asked id) :
      Move setup named asked engine ((engine.record (.requested id)).setController id
        (controller.keep (setup.codegenMicros controller.definition)
          (controller.generate setup.compiler)))
  /-- A call is counted that does not trigger background compilation. -/
  | counted {engine : Engine} {id : ControllerId} {controller next : Controller}
      (found : engine.controllers[id]? = some controller) (enabled : setup.policy.enabled = true)
      (count : controller.countCall? = some next) (early : next.isDue setup.policy = false) :
      Move setup named asked engine (engine.setController id next)
  /-- A call is counted that does. -/
  | scheduled {engine : Engine} {id : ControllerId} {controller next : Controller}
      (found : engine.controllers[id]? = some controller) (enabled : setup.policy.enabled = true)
      (count : controller.countCall? = some next) (due : next.isDue setup.policy = true) :
      Move setup named asked engine
        ((engine.setController id next.markScheduled).submitTask next.scheduler id)
  | interpreted {engine : Engine} {target : HandleId} {handle : Handle} {id : ControllerId}
      (holder : engine.handle? target = some handle) (its : handle.controller? = some id) :
      Move setup named asked engine
        ((engine.modifyController id Controller.countInterpreted).record (.interpreted target id))
  /-- A handle meets published code that fits, and calls it from now on. -/
  | switched {engine : Engine} {target : HandleId} {definition : Definition} {id : ControllerId}
      {closure : Option Binding} {controller : Controller} {entry : CompiledEntry}
      (holder : engine.handle? target =
        some ⟨definition, .interpreted id closure .unresolved⟩)
      (found : engine.controllers[id]? = some controller)
      (fits : controller.entryFor? closure = some (.ok entry)) :
      Move setup named asked engine
        ((engine.modifyController id Controller.countPromoted).setHandle target
          (some ⟨definition, .interpreted id closure (.switched entry)⟩))
  /-- A handle meets published code that does not fit, and stays interpreted. -/
  | pinned {engine : Engine} {target : HandleId} {definition : Definition} {id : ControllerId}
      {closure : Option Binding} {controller : Controller} {mismatch : Mismatch}
      (holder : engine.handle? target =
        some ⟨definition, .interpreted id closure .unresolved⟩)
      (found : engine.controllers[id]? = some controller)
      (misfits : controller.entryFor? closure = some (.error mismatch)) :
      Move setup named asked engine
        (engine.setHandle target (some ⟨definition, .interpreted id closure .pinned⟩))
  | entered {engine : Engine} {target : HandleId} {handle : Handle} {entry : CompiledEntry}
      (holder : engine.handle? target = some handle)
      (serves : handle.dispatch = .compiled entry ∨
        ∃ id closure, handle.dispatch = .interpreted id closure (.switched entry)) :
      Move setup named asked engine (engine.record (.entered target entry.shape entry.isAdapted))
  | boundCompiled {engine : Engine} {id : ControllerId} {controller : Controller}
      {closure : Option Binding} {entry : CompiledEntry}
      (found : engine.controllers[id]? = some controller)
      (closes : controller.definition.checkClosure closure = .ok ())
      (fits : controller.entryFor? closure = some (.ok entry)) :
      Move setup named asked engine (engine.addHandle ⟨controller.definition, .compiled entry⟩).2
  | boundInterpreted {engine : Engine} {id : ControllerId} {controller : Controller}
      {closure : Option Binding} (interprets : setup.interprets = true)
      (found : engine.controllers[id]? = some controller) (live : engine.isLive id = true)
      (closes : controller.definition.checkClosure closure = .ok ()) :
      Move setup named asked engine
        (engine.addHandle ⟨controller.definition, .interpreted id closure .unresolved⟩).2
  | dropped (engine : Engine) (target : HandleId) :
      Move setup named asked engine (engine.dropHandle target)
  /-- A task is over: its controller has an answer, or nothing refers to it. -/
  | dequeued {engine : Engine} {scheduler : SchedulerId} {id : ControllerId}
      {rest : List ControllerId} (first : engine.waiting scheduler = id :: rest)
      (finished : engine.isLive id = true →
        ∀ controller, engine.controllers[id]? = some controller → controller.settled? ≠ none) :
      Move setup named asked engine (engine.dropTask scheduler)

/-- Some elementary changes, one after the other. -/
abbrev Moves (setup : Setup) (named : Definition → Prop) (asked : ControllerId → Prop) :
    Engine → Engine → Prop :=
  Relation.ReflTransGen (Move setup named asked)

/-! ## Controllers -/

theorem modify_controller {engine : Engine} {id : ControllerId} {controller : Controller}
    (found : engine.controllers[id]? = some controller) (change : Controller → Controller) :
    (engine.modifyController id change).controllers =
      engine.controllers.setIfInBounds id (change controller) := by
  apply Array.ext_getElem?
  intro other
  simp only [modifyController, Array.getElem?_modify, Array.getElem?_setIfInBounds]
  by_cases its : id = other
  · subst its
    obtain ⟨bound, -⟩ := Array.getElem?_eq_some_iff.mp found
    rw [if_pos rfl, found, if_pos rfl, if_pos bound]
    rfl
  · simp [its]

theorem modify_missing {engine : Engine} {id : ControllerId}
    (missing : engine.controllers[id]? = none) (change : Controller → Controller) :
    (engine.modifyController id change).controllers = engine.controllers := by
  apply Array.ext_getElem?
  intro other
  simp only [modifyController, Array.getElem?_modify]
  by_cases its : id = other
  · subst its
    simp [missing]
  · simp [its]

section

variable {setup : Setup} {named : Definition → Prop} {asked : ControllerId → Prop}
  {engine next : Engine}

/-- A move leaves the controllers alone, changes one of them, or makes one. -/
theorem Move.controllers_cases (move : Move setup named asked engine next) :
    next.controllers = engine.controllers ∨
    (∃ id controller changed, engine.controllers[id]? = some controller ∧
      controller.Change setup (asked id) changed ∧
      next.controllers = engine.controllers.setIfInBounds id changed) ∨
    (∃ definition, named definition ∧ engine.tracked? definition.id = none ∧
      next.controllers =
        engine.controllers.push { definition, scheduler := engine.current }) := by
  cases move with
  | memory | logged | released | held | unheld | installed | reinstalled | pinned | entered
    | boundCompiled | boundInterpreted | dropped | dequeued => exact .inl rfl
  | tracked mentioned untracked => exact .inr (.inr ⟨_, mentioned, untracked, rfl⟩)
  | compiled found unsettled request =>
    exact .inr (.inl ⟨_, _, _, found, .compiled unsettled request, rfl⟩)
  | counted found enabled count early =>
    exact .inr (.inl ⟨_, _, _, found, .counted enabled count early, rfl⟩)
  | scheduled found enabled count due =>
    exact .inr (.inl ⟨_, _, _, found, .scheduled enabled count due, rfl⟩)
  | @interpreted target handle id holder its =>
    cases found : engine.controllers[id]? with
    | none => exact .inl (modify_missing found _)
    | some controller =>
      exact .inr (.inl ⟨_, _, _, found, .interpreted, modify_controller found _⟩)
  | switched holder found fits =>
    refine .inr (.inl ⟨_, _, _, found, .promoted, ?_⟩)
    exact modify_controller found Controller.countPromoted

theorem Move.size_controllers (move : Move setup named asked engine next) :
    engine.controllers.size ≤ next.controllers.size := by
  rcases move.controllers_cases with same | ⟨_, _, _, _, _, result⟩ | ⟨_, _, _, result⟩
  · exact Nat.le_of_eq (by rw [same])
  · exact Nat.le_of_eq (by rw [result, Array.size_setIfInBounds])
  · rw [result, Array.size_push]
    exact Nat.le_succ _

theorem Move.controller_origin (move : Move setup named asked engine next) {id : ControllerId}
    {controller : Controller} (found : next.controllers[id]? = some controller) :
    (∃ earlier, engine.controllers[id]? = some earlier ∧
      earlier.Change setup (asked id) controller) ∨
    (id = engine.controllers.size ∧ ∃ definition, named definition ∧
      engine.tracked? definition.id = none ∧
      controller = { definition, scheduler := engine.current }) := by
  rcases move.controllers_cases with same | ⟨target, earlier, changed, present, change, result⟩ |
    ⟨definition, mentioned, untracked, result⟩
  · rw [same] at found
    exact .inl ⟨controller, found, .kept⟩
  · rw [result, Array.getElem?_setIfInBounds] at found
    by_cases its : target = id
    · subst its
      obtain ⟨bound, -⟩ := Array.getElem?_eq_some_iff.mp present
      rw [if_pos rfl, if_pos bound] at found
      cases found
      exact .inl ⟨earlier, present, change⟩
    · rw [if_neg its] at found
      exact .inl ⟨controller, found, .kept⟩
  · rw [result, Array.getElem?_push] at found
    by_cases fresh : id = engine.controllers.size
    · rw [if_pos fresh] at found
      cases found
      exact .inr ⟨fresh, definition, mentioned, untracked, rfl⟩
    · rw [if_neg fresh] at found
      exact .inl ⟨controller, found, .kept⟩

theorem Move.controller_change (move : Move setup named asked engine next) {id : ControllerId}
    {controller : Controller} (found : engine.controllers[id]? = some controller) :
    ∃ changed, next.controllers[id]? = some changed ∧
      controller.Change setup (asked id) changed := by
  obtain ⟨bound, -⟩ := Array.getElem?_eq_some_iff.mp found
  rcases move.controllers_cases with same | ⟨target, earlier, changed, present, change, result⟩ |
    ⟨definition, mentioned, untracked, result⟩
  · rw [same]
    exact ⟨controller, found, .kept⟩
  · rw [result, Array.getElem?_setIfInBounds]
    by_cases its : target = id
    · subst its
      rw [if_pos rfl, if_pos bound]
      rw [found] at present
      cases present
      exact ⟨changed, rfl, change⟩
    · rw [if_neg its]
      exact ⟨controller, found, .kept⟩
  · rw [result, Array.getElem?_push, if_neg (Nat.ne_of_lt bound)]
    exact ⟨controller, found, .kept⟩

end

/-! ## Handles, and what is live -/

section

variable {setup : Setup} {named : Definition → Prop} {asked : ControllerId → Prop}
  {engine next : Engine}

theorem isLive_iff {id : ControllerId} :
    engine.isLive id = true ↔
      (∃ entry ∈ engine.registry, entry.2 = id) ∨
        (∃ target handle, engine.handle? target = some handle ∧ handle.controller? = some id) ∨
        id ∈ engine.held := by
  have handles : engine.handles.any
      (fun handle => handle.any fun h => h.controller? == some id) = true ↔
      ∃ target handle, engine.handle? target = some handle ∧ handle.controller? = some id := by
    rw [Array.any_eq_true]
    constructor
    · rintro ⟨target, bound, refers⟩
      obtain ⟨handle, present, its⟩ := (Option.any_eq_true _ _).mp refers
      exact ⟨target, handle, by simp [handle?, bound, present], by simpa using its⟩
    · rintro ⟨target, handle, present, its⟩
      have filled : engine.handles[target]? = some (some handle) :=
        Option.join_eq_some_iff.mp present
      obtain ⟨bound, same⟩ := Array.getElem?_eq_some_iff.mp filled
      exact ⟨target, bound, by simp [same, its]⟩
  simp only [isLive, Bool.or_eq_true, handles, List.any_eq_true, beq_iff_eq,
    List.contains_iff_mem, or_assoc]

theorem handle?_setHandle_made {target : HandleId} (made : target < engine.handles.size)
    (changed : Option Handle) (other : HandleId) :
    (engine.setHandle target changed).handle? other =
      if other = target then changed else engine.handle? other := by
  by_cases its : other = target
  · subst its
    simp [handle?, setHandle, Array.getElem?_setIfInBounds_self_of_lt made]
  · simp [handle?, setHandle, its, Array.getElem?_setIfInBounds_ne (Ne.symm its)]

theorem handle?_setHandle {target : HandleId} {handle : Handle}
    (holder : engine.handle? target = some handle) (changed : Option Handle) (other : HandleId) :
    (engine.setHandle target changed).handle? other =
      if other = target then changed else engine.handle? other := by
  refine handle?_setHandle_made ?_ changed other
  rcases Nat.lt_or_ge target engine.handles.size with made | absent
  · exact made
  · simp [handle?, Array.getElem?_eq_none absent] at holder

theorem handle?_dropHandle (target other : HandleId) :
    (engine.dropHandle target).handle? other =
      if other = target then none else engine.handle? other := by
  simp only [handle?, dropHandle, setHandle, Array.getElem?_setIfInBounds]
  by_cases its : target = other
  · subst its
    rw [if_pos rfl, if_pos rfl]
    split <;> rfl
  · rw [if_neg its, if_neg (Ne.symm its)]

theorem handle?_addHandle (handle : Handle) (other : HandleId) :
    (engine.addHandle handle).2.handle? other =
      if other = engine.handles.size then some handle else engine.handle? other := by
  simp only [handle?, addHandle, Array.getElem?_push]
  split <;> rfl

inductive Origin (setup : Setup) (engine : Engine) (target : HandleId) : Handle → Prop where
  | kept {handle : Handle} (holder : engine.handle? target = some handle) :
      Origin setup engine target handle
  | compiled {id : ControllerId} {controller : Controller} {closure : Option Binding}
      {entry : CompiledEntry} (found : engine.controllers[id]? = some controller)
      (closes : controller.definition.checkClosure closure = .ok ())
      (fits : controller.entryFor? closure = some (.ok entry)) :
      Origin setup engine target ⟨controller.definition, .compiled entry⟩
  | interpreted {id : ControllerId} {controller : Controller} {closure : Option Binding}
      (interprets : setup.interprets = true)
      (found : engine.controllers[id]? = some controller) (live : engine.isLive id = true)
      (closes : controller.definition.checkClosure closure = .ok ()) :
      Origin setup engine target ⟨controller.definition, .interpreted id closure .unresolved⟩
  | switched {definition : Definition} {id : ControllerId} {closure : Option Binding}
      {controller : Controller} {entry : CompiledEntry}
      (holder : engine.handle? target = some ⟨definition, .interpreted id closure .unresolved⟩)
      (found : engine.controllers[id]? = some controller)
      (fits : controller.entryFor? closure = some (.ok entry)) :
      Origin setup engine target ⟨definition, .interpreted id closure (.switched entry)⟩
  | pinned {definition : Definition} {id : ControllerId} {closure : Option Binding}
      {controller : Controller} {mismatch : Mismatch}
      (holder : engine.handle? target = some ⟨definition, .interpreted id closure .unresolved⟩)
      (found : engine.controllers[id]? = some controller)
      (misfits : controller.entryFor? closure = some (.error mismatch)) :
      Origin setup engine target ⟨definition, .interpreted id closure .pinned⟩

theorem Move.handle_origin (move : Move setup named asked engine next) {target : HandleId}
    {handle : Handle} (found : next.handle? target = some handle) :
    Origin setup engine target handle := by
  cases move with
  | memory | logged | released | held | unheld | installed | reinstalled | tracked | entered
    | compiled
    | counted | scheduled | interpreted | dequeued => exact .kept found
  | boundCompiled present closes fits =>
    rw [handle?_addHandle] at found
    split at found
    · cases found
      exact .compiled present closes fits
    · exact .kept found
  | boundInterpreted interprets present live closes =>
    rw [handle?_addHandle] at found
    split at found
    · cases found
      exact .interpreted interprets present live closes
    · exact .kept found
  | switched holder present fits =>
    change (engine.setHandle _ _).handle? _ = _ at found
    rw [handle?_setHandle holder] at found
    split at found
    · cases found
      subst target
      exact .switched holder present fits
    · exact .kept found
  | pinned holder present misfits =>
    rw [handle?_setHandle holder] at found
    split at found
    · cases found
      subst target
      exact .pinned holder present misfits
    · exact .kept found
  | dropped target =>
    rw [handle?_dropHandle] at found
    split at found
    · cases found
    · exact .kept found

theorem Origin.isLive {target : HandleId} {handle : Handle} {id : ControllerId}
    (origin : Origin setup engine target handle) (its : handle.controller? = some id) :
    engine.isLive id = true := by
  cases origin with
  | kept holder => exact isLive_iff.mpr (.inr (.inl ⟨target, handle, holder, its⟩))
  | compiled => cases its
  | interpreted _ _ live =>
    cases its
    exact live
  | switched holder | pinned holder =>
    cases its
    exact isLive_iff.mpr (.inr (.inl ⟨target, _, holder, rfl⟩))

theorem Move.registry_origin (move : Move setup named asked engine next)
    {entry : DefinitionId × ControllerId} (member : entry ∈ next.registry) :
    entry ∈ engine.registry ∨ ∃ definition, entry = (definition.id, engine.controllers.size) ∧
      next.controllers =
        engine.controllers.push { definition, scheduler := engine.current } := by
  cases move with
  | tracked mentioned untracked =>
    rcases List.mem_cons.mp member with rfl | earlier
    · exact .inr ⟨_, rfl, rfl⟩
    · exact .inl earlier
  | released id => exact .inl (List.mem_filter.mp member).1
  | _ => exact .inl member

theorem Move.held_origin (move : Move setup named asked engine next) {id : ControllerId}
    (member : id ∈ next.held) : engine.isLive id = true := by
  have earlier : id ∈ engine.held → engine.isLive id = true := fun held =>
    isLive_iff.mpr (.inr (.inr held))
  cases move with
  | held live =>
    rcases List.mem_cons.mp member with rfl | held
    · exact live
    · exact earlier held
  | unheld => exact earlier (List.mem_of_mem_erase member)
  | _ => exact earlier member

/-- What is live after a move was live before, or was just made. -/
theorem Move.isLive_cases (move : Move setup named asked engine next) {id : ControllerId}
    (live : next.isLive id = true) :
    engine.isLive id = true ∨ id = engine.controllers.size ∧ id < next.controllers.size := by
  rcases isLive_iff.mp live with ⟨entry, member, rfl⟩ | ⟨target, handle, holder, its⟩ | held
  · rcases move.registry_origin member with earlier | fresh
    · exact .inl (isLive_iff.mpr (.inl ⟨entry, earlier, rfl⟩))
    · obtain ⟨definition, rfl, made⟩ := fresh
      exact .inr ⟨rfl, by simp [made]⟩
  · exact .inl ((move.handle_origin holder).isLive its)
  · exact .inl (move.held_origin held)

/-- A controller that nothing refers to any more is never referred to again. -/
theorem Move.isLive_of (move : Move setup named asked engine next) {id : ControllerId}
    (existing : id < engine.controllers.size) (live : next.isLive id = true) :
    engine.isLive id = true := by
  rcases move.isLive_cases live with earlier | ⟨fresh, -⟩
  · exact earlier
  · exact absurd fresh (Nat.ne_of_lt existing)

end

/-! ## Queues -/

section

variable {engine : Engine}

theorem waiting_submitTask {scheduler : SchedulerId}
    (installed : scheduler < engine.schedulers.size) (id : ControllerId) (other : SchedulerId) :
    (engine.submitTask scheduler id).waiting other =
      if other = scheduler then engine.waiting scheduler ++ [id] else engine.waiting other := by
  simp only [waiting, submitTask, Array.getElem?_modify]
  by_cases its : other = scheduler
  · subst its
    simp [installed, Queue.submit]
  · rw [if_neg (Ne.symm its), if_neg its]

theorem waiting_dropTask (scheduler other : SchedulerId) :
    (engine.dropTask scheduler).waiting other =
      if other = scheduler then (engine.waiting scheduler).tail else engine.waiting other := by
  simp only [waiting, dropTask, Array.getElem?_modify]
  by_cases its : other = scheduler
  · subst its
    cases engine.schedulers[other]? <;> simp
  · rw [if_neg (Ne.symm its), if_neg its]

theorem waiting_install (kind : SchedulerKind) (drained : Bool) (other : SchedulerId) :
    (engine.install kind drained).waiting other = engine.waiting other := by
  simp only [waiting, install, Array.getElem?_push]
  by_cases fresh : other = engine.schedulers.size
  · simp [fresh]
  · rw [if_neg fresh]

end

end Engine

end HotPath

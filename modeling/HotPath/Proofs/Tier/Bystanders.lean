import HotPath.Proofs.Tier.Ledger

/-!
What is done to one controller leaves the others alone: their state, the functions that the
registry leads to them for, their handles, their holds and their tasks in the queues.
-/

namespace HotPath.Engine

/-- A change that leaves a controller and the handles it owns alone. -/
structure Aside (id : ControllerId) (own : List HandleId) (engine next : Engine) : Prop where
  controller : next.controllers[id]? = engine.controllers[id]?
  registry : ∀ key, (key, id) ∈ next.registry ↔ (key, id) ∈ engine.registry
  handles : ∀ target ∈ own, next.handle? target = engine.handle? target
  size : engine.handles.size ≤ next.handles.size
  /-- No handle of the controller is made. -/
  foreign : ∀ {target : HandleId} {handle : Handle}, next.handle? target = some handle →
    handle.controller? = some id → engine.handle? target = some handle
  held : next.held.count id = engine.held.count id
  waiting : ∀ scheduler, (next.waiting scheduler).count id = (engine.waiting scheduler).count id
  schedulers : next.schedulers.size = engine.schedulers.size
  current : next.current = engine.current
  drainable : next.drainable = engine.drainable

variable {id other : ControllerId} {own : List HandleId} {engine next : Engine}

/-- A scheduler that was never installed takes no task. -/
theorem waiting_submitTask_missing {scheduler : SchedulerId}
    (missing : ¬ scheduler < engine.schedulers.size) (id : ControllerId) (its : SchedulerId) :
    (engine.submitTask scheduler id).waiting its = engine.waiting its := by
  simp only [waiting, submitTask, Array.getElem?_modify]
  by_cases same : scheduler = its
  · subst same
    rw [if_pos rfl, Array.getElem?_eq_none (Nat.le_of_not_lt missing)]
    rfl
  · rw [if_neg same]

namespace Aside

theorem refl (id : ControllerId) (own : List HandleId) (engine : Engine) :
    Aside id own engine engine :=
  ⟨rfl, fun _ => .rfl, fun _ _ => rfl, Nat.le_refl _, fun found _ => found, rfl, fun _ => rfl, rfl,
    rfl, rfl⟩

theorem trans {last : Engine} (first : Aside id own engine next) (second : Aside id own next last) :
    Aside id own engine last where
  controller := second.controller.trans first.controller
  registry key := (second.registry key).trans (first.registry key)
  handles target member := (second.handles target member).trans (first.handles target member)
  size := Nat.le_trans first.size second.size
  foreign found its := first.foreign (second.foreign found its) its
  held := second.held.trans first.held
  waiting scheduler := (second.waiting scheduler).trans (first.waiting scheduler)
  schedulers := second.schedulers.trans first.schedulers
  current := second.current.trans first.current
  drainable := second.drainable.trans first.drainable

theorem noted (aside : Aside id own engine next) (store : Store) (journal : Array Event) :
    Aside id own engine { next with store, journal } :=
  ⟨aside.controller, aside.registry, aside.handles, aside.size, aside.foreign, aside.held,
    aside.waiting, aside.schedulers, aside.current, aside.drainable⟩

theorem setController (apart : other ≠ id) (controller : Controller) :
    Aside id own engine (engine.setController other controller) :=
  { refl id own engine with controller := Array.getElem?_setIfInBounds_ne apart }

theorem modifyController (apart : other ≠ id) (change : Controller → Controller) :
    Aside id own engine (engine.modifyController other change) :=
  { refl id own engine with
    controller := by simp [Engine.modifyController, Array.getElem?_modify, apart] }

theorem submitTask (apart : other ≠ id) (scheduler : SchedulerId) :
    Aside id own engine (engine.submitTask scheduler other) :=
  { refl id own engine with
    waiting := fun its => by
      by_cases installed : scheduler < engine.schedulers.size
      · rw [waiting_submitTask installed]
        split
        · subst its
          simp [List.count_append, apart]
        · rfl
      · rw [waiting_submitTask_missing installed]
    schedulers := by simp [Engine.submitTask] }

theorem dropTask {scheduler : SchedulerId}
    (apart : (engine.waiting scheduler).head? ≠ some id) :
    Aside id own engine (engine.dropTask scheduler) :=
  { refl id own engine with
    waiting := fun its => by
      rw [waiting_dropTask]
      split
      · subst its
        cases tasks : engine.waiting scheduler with
        | nil => rfl
        | cons task rest =>
          have others : task ≠ id := fun same => apart (by rw [tasks, same]; rfl)
          simp [others]
      · rfl
    schedulers := by simp [Engine.dropTask] }

theorem setHandle {target : HandleId} (foreign : target ∉ own) {handle handle' : Handle}
    (holder : engine.handle? target = some handle) (others : handle'.controller? ≠ some id) :
    Aside id own engine (engine.setHandle target (some handle')) :=
  { refl id own engine with
    handles := fun its member => by
      rw [handle?_setHandle holder, if_neg (ne_of_mem_of_not_mem member foreign)]
    size := by simp [Engine.setHandle]
    foreign := fun found its => by
      rw [handle?_setHandle holder] at found
      split at found
      · cases found
        exact absurd its others
      · exact found }

theorem dropHandle {target : HandleId} (foreign : target ∉ own) :
    Aside id own engine (engine.dropHandle target) :=
  { refl id own engine with
    handles := fun its member => by
      rw [handle?_dropHandle, if_neg (ne_of_mem_of_not_mem member foreign)]
    size := by simp [Engine.dropHandle, Engine.setHandle]
    foreign := fun found its => by
      rw [handle?_dropHandle] at found
      split at found
      · cases found
      · exact found }

theorem addHandle (made : ∀ target ∈ own, target < engine.handles.size) {handle : Handle}
    (others : handle.controller? ≠ some id) :
    Aside id own engine (engine.addHandle handle).2 :=
  { refl id own engine with
    handles := fun target member => by
      rw [handle?_addHandle, if_neg (Nat.ne_of_lt (made target member))]
    size := by simp [Engine.addHandle]
    foreign := fun found its => by
      rw [handle?_addHandle] at found
      split at found
      · cases found
        exact absurd its others
      · exact found }

theorem hold (apart : other ≠ id) : Aside id own engine (engine.hold other) :=
  { refl id own engine with held := List.count_cons_of_ne apart }

theorem unhold (apart : other ≠ id) : Aside id own engine (engine.unhold other) :=
  { refl id own engine with held := List.count_erase_of_ne (Ne.symm apart) }

end Aside

/-! ## The registry -/

/-- No function is registered twice. -/
def Keyed (engine : Engine) : Prop := (engine.registry.map Prod.fst).Nodup

theorem Keyed.tracked? (keyed : engine.Keyed) {key : DefinitionId}
    (member : (key, id) ∈ engine.registry) : engine.tracked? key = some id := by
  obtain ⟨before, rest, split⟩ := List.append_of_mem member
  refine List.lookup_eq_some_iff.mpr ⟨before, rest, split, fun entry earlier => ?_⟩
  rw [Keyed, split, List.map_append, List.map_cons, List.nodup_append] at keyed
  have apart := keyed.2.2 entry.1 (List.mem_map_of_mem earlier) key List.mem_cons_self
  simpa using Ne.symm apart

theorem Keyed.move {setup : Setup} {named : Definition → Prop} {asked : ControllerId → Prop}
    (keyed : engine.Keyed) (move : Move setup named asked engine next) : next.Keyed := by
  cases move with
  | tracked mentioned untracked =>
    refine List.nodup_cons.mpr ⟨fun member => ?_, keyed⟩
    obtain ⟨entry, listed, same⟩ := List.mem_map.mp member
    simpa [same] using List.lookup_eq_none_iff.mp untracked entry listed
  | released key => exact keyed.sublist (List.filter_sublist.map _)
  | _ => exact keyed

theorem Begins.keyed {begun : Engine} (begins : Begins begun) : begun.Keyed := by
  induction begins with
  | installed kind drained => exact List.nodup_nil
  | logged _ _ _ keyed => exact keyed

/-- Releasing a function that another controller tracks, or none. -/
theorem Keyed.aside_release (keyed : engine.Keyed) (own : List HandleId) {key : DefinitionId}
    (apart : engine.tracked? key ≠ some id) : Aside id own engine (engine.release key).2 :=
  { Aside.refl id own engine with
    registry := fun key' => by
      simp only [release, List.mem_filter, bne_iff_ne, ne_eq, and_iff_left_iff_imp]
      rintro member rfl
      exact apart (keyed.tracked? member) }

/-! ## Operations on other controllers -/

theorem aside_compile (setup : Setup) (engine : Engine) (own : List HandleId)
    (apart : other ≠ id) : Aside id own engine (engine.compile setup other).2 := by
  unfold compile
  cases engine.controllers[other]? with
  | none => exact .refl id own engine
  | some controller =>
    cases settled : controller.settled? with
    | some answer =>
      simp only [settled]
      exact .refl id own engine
    | none =>
      simp only [settled]
      cases controller.generate setup.compiler with
      | error error => exact (Aside.setController apart _).noted _ _
      | ok code => exact (Aside.setController apart _).noted _ _

theorem aside_recordCall (setup : Setup) (engine : Engine) (own : List HandleId)
    (apart : other ≠ id) : Aside id own engine (engine.recordCall setup other) := by
  unfold recordCall
  cases engine.controllers[other]? with
  | none => exact .refl id own engine
  | some controller =>
    cases setup.policy.enabled with
    | false => exact .refl id own engine
    | true =>
      cases count : controller.countCall? with
      | none =>
        simp only [count]
        exact .refl id own engine
      | some counted =>
        simp only [count, Bool.not_true, Bool.false_eq_true, ↓reduceIte]
        cases counted.isDue setup.policy with
        | false => exact Aside.setController apart counted
        | true =>
          have marked : Aside id own engine (engine.setController other counted.markScheduled) :=
            .setController apart _
          exact (marked.noted _ _).trans (.submitTask apart _)

theorem aside_runTask (setup : Setup) (engine : Engine) (own : List HandleId)
    (apart : other ≠ id) : Aside id own engine (engine.runTask setup other) := by
  unfold runTask
  cases engine.controllers[other]? with
  | none => exact .refl id own engine
  | some controller =>
    cases engine.isLive other with
    | false => exact .refl id own engine
    | true =>
      have compiled := aside_compile setup engine own apart
      simp only [↓reduceIte]
      generalize engine.compile setup other = answer at compiled
      obtain ⟨result, next⟩ := answer
      cases result with
      | ok _ => exact compiled
      | error error => exact compiled.noted _ _

theorem aside_controllerFor (setup : Setup) (engine : Engine) (own : List HandleId)
    {definition : Definition} (apart : (engine.controllerFor setup definition).1 ≠ id) :
    Aside id own engine (engine.controllerFor setup definition).2 := by
  unfold controllerFor at apart ⊢
  cases tracked : engine.tracked? definition.id with
  | some its => exact .refl id own engine
  | none =>
    rw [tracked] at apart
    have made : id ≠ engine.controllers.size := fun same => apart same.symm
    exact { Aside.refl id own engine with
      controller := by simp [log, record, Array.getElem?_push, made]
      registry := fun key => by simp [log, record, made] }

theorem aside_bindController (setup : Setup) (engine : Engine)
    (made : ∀ target ∈ own, target < engine.handles.size) (apart : other ≠ id)
    (controller : Controller) (closure : Option Binding) :
    Aside id own engine (engine.bindController setup other controller closure).2 := by
  unfold bindController
  cases controller.definition.checkClosure closure with
  | error error => exact .refl id own engine
  | ok _ =>
    cases setup.interprets with
    | true =>
      apply Aside.addHandle made
      split
      · simp [Handle.controller?]
      · simpa [Handle.controller?] using apart
    | false =>
      have compiled := aside_compile setup engine own apart
      simp only [Bool.not_false, ↓reduceIte, bindCompiled]
      generalize engine.compile setup other = answer at compiled
      obtain ⟨result, next⟩ := answer
      cases result with
      | error error => exact compiled
      | ok _ =>
        simp only
        split
        · have made' (target : HandleId) (member : target ∈ own) : target < next.handles.size :=
            Nat.lt_of_lt_of_le (made target member) compiled.size
          exact compiled.trans (.addHandle made' (by simp [Handle.controller?]))
        · exact compiled
        · exact compiled

theorem aside_bind (setup : Setup) (engine : Engine)
    (made : ∀ target ∈ own, target < engine.handles.size) {definition : Definition}
    (apart : (engine.controllerFor setup definition).1 ≠ id) (closure : Option Binding) :
    Aside id own engine (engine.bind setup definition closure).2 := by
  have tracked := aside_controllerFor setup engine own apart
  unfold bind
  generalize engine.controllerFor setup definition = answer at tracked apart
  obtain ⟨its, tracking⟩ := answer
  cases found : tracking.controllers[its]? with
  | none =>
    simp only [found]
    exact tracked
  | some controller =>
    simp only [found]
    refine tracked.trans (aside_bindController setup tracking (fun target member => ?_) apart
      controller closure)
    exact Nat.lt_of_lt_of_le (made target member) tracked.size

theorem aside_invoke (setup : Setup) (engine : Engine) {target : HandleId} {handle : Handle}
    (foreign : target ∉ own) (holder : engine.handle? target = some handle)
    (others : handle.controller? ≠ some id) (args : List Value) :
    Aside id own engine (engine.invoke setup target handle args).2 := by
  have served := serving_invoke setup engine target handle args
  generalize engine.invoke setup target handle args = answer at served
  cases served with
  | rejected => exact .refl id own engine
  | entered => exact (Aside.refl id own engine).noted _ _
  | @interpreted its closure link fits dispatch unmet =>
    have apart : its ≠ id := by simpa [Handle.controller?, dispatch] using others
    exact ((aside_recordCall setup engine own apart).trans (.modifyController apart _)).noted _ _
  | @switched its closure controller entry fits dispatch found resolved =>
    have apart : its ≠ id := by simpa [Handle.controller?, dispatch] using others
    have promoted : Aside id own engine (engine.modifyController its Controller.countPromoted) :=
      .modifyController apart _
    exact (((promoted.noted _ _).trans (.setHandle foreign holder
      (by simpa [Handle.controller?] using apart))).noted _ _)
  | @pinned its closure controller mismatch fits dispatch found resolved =>
    have apart : its ≠ id := by simpa [Handle.controller?, dispatch] using others
    exact ((Aside.refl id own engine).noted _ _).trans
      (.setHandle foreign holder (by simpa [Handle.controller?] using apart))

end HotPath.Engine

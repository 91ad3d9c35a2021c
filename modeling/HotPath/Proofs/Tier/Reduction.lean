import HotPath.Proofs.Tier.Bystanders
import HotPath.Proofs.Tier.Draining

/-!
An engine reduced to one controller. The reduct has the controller under the number zero, its
handles numbered from zero, its holds and its tasks, and nothing of any other controller; an
operation on the controller does the same to both.
-/

namespace HotPath

/-- A controller apart from what the clock showed when its code was generated. -/
def Controller.untimed (controller : Controller) : Controller :=
  { controller with counters := { controller.counters with micros := 0 } }

/-- A handle whose controller goes by the number zero. -/
def Handle.renumbered (handle : Handle) : Handle :=
  match handle.dispatch with
  | .compiled _ => handle
  | .interpreted _ closure link => { handle with dispatch := .interpreted 0 closure link }

/-- Setups that differ at most in the clock, the allowance of loop tests and the thread. -/
structure Setup.Agrees (first second : Setup) : Prop where
  interprets : second.interprets = first.interprets
  compiler : second.compiler = first.compiler
  policy : second.policy = first.policy

namespace Controller

variable {controller controller' : Controller}

/-- Controllers that differ in times only agree in whatever does not look at these. -/
theorem agree_of_untimed {α : Type} (shows : Controller → α)
    (blind : ∀ controller, shows controller = shows controller.untimed)
    (same : controller'.untimed = controller.untimed) : shows controller' = shows controller := by
  rw [blind, same, ← blind]

theorem untimed_keep (controller : Controller) (micros : Nat)
    (code : Except CompileError CompiledCode) :
    (controller.keep micros code).untimed = controller.untimed.keep 0 code := by
  cases code <;> rfl

theorem untimed_countCall? (controller : Controller) :
    controller.countCall?.map untimed = controller.untimed.countCall? := by
  by_cases below : controller.executionCount < maxExecutionCount <;>
    simp [countCall?, untimed, below]

theorem countCall?_of_untimed (same : controller'.untimed = controller.untimed) :
    controller'.countCall?.map untimed = controller.countCall?.map untimed := by
  rw [untimed_countCall?, same, untimed_countCall?]

end Controller

namespace Engine

/-- The second engine is the first one reduced to a controller and the handles it owns. -/
structure Reduces (id : ControllerId) (own : List HandleId) (engine lone : Engine) : Prop where
  controller : (lone.controllers[0]?).map Controller.untimed =
    (engine.controllers[id]?).map Controller.untimed
  single : lone.controllers.size ≤ 1
  registry : ∀ key its, (key, its) ∈ lone.registry ↔ its = 0 ∧ (key, id) ∈ engine.registry
  handles : ∀ {place target}, own[place]? = some target →
    lone.handle? place = (engine.handle? target).map Handle.renumbered
  size : lone.handles.size = own.length
  made : ∀ target ∈ own, target < engine.handles.size
  distinct : own.Nodup
  owned : ∀ {target handle its}, engine.handle? target = some handle →
    handle.controller? = some its → (its = id ↔ target ∈ own)
  held : lone.held.count 0 = engine.held.count id
  waiting : ∀ scheduler,
    lone.waiting scheduler = List.replicate ((engine.waiting scheduler).count id) 0
  schedulers : lone.schedulers.size = engine.schedulers.size
  current : lone.current = engine.current
  drainable : lone.drainable = engine.drainable

variable {id : ControllerId} {own : List HandleId} {engine next lone : Engine}
  {setup setup' : Setup}

namespace Reduces

theorem aside (reduces : Reduces id own engine lone) (aside : Aside id own engine next) :
    Reduces id own next lone where
  controller := by rw [reduces.controller, aside.controller]
  single := reduces.single
  registry key its := by rw [reduces.registry, aside.registry]
  handles listed := by
    rw [reduces.handles listed, aside.handles _ (List.mem_of_getElem? listed)]
  size := reduces.size
  made target member := Nat.lt_of_lt_of_le (reduces.made target member) aside.size
  distinct := reduces.distinct
  owned {target handle its} found refers := by
    constructor
    · rintro rfl
      exact (reduces.owned (aside.foreign found refers) refers).mp rfl
    · intro member
      rw [aside.handles target member] at found
      exact (reduces.owned found refers).mpr member
  held := by rw [reduces.held, aside.held]
  waiting scheduler := by rw [reduces.waiting, aside.waiting]
  schedulers := by rw [reduces.schedulers, aside.schedulers]
  current := by rw [reduces.current, aside.current]
  drainable := by rw [reduces.drainable, aside.drainable]

theorem noted (reduces : Reduces id own engine lone) (store store' : Store)
    (journal journal' : Array Event) :
    Reduces id own { engine with store, journal }
      { lone with store := store', journal := journal' } :=
  ⟨reduces.controller, reduces.single, reduces.registry, reduces.handles, reduces.size,
    reduces.made, reduces.distinct, reduces.owned, reduces.held, reduces.waiting,
    reduces.schedulers, reduces.current, reduces.drainable⟩

theorem found (reduces : Reduces id own engine lone) {controller : Controller}
    (present : engine.controllers[id]? = some controller) :
    ∃ controller', lone.controllers[0]? = some controller' ∧
      controller'.untimed = controller.untimed := by
  have same := reduces.controller
  rw [present] at same
  exact Option.map_eq_some_iff.mp same

theorem missing (reduces : Reduces id own engine lone)
    (absent : engine.controllers[id]? = none) : lone.controllers[0]? = none := by
  have same := reduces.controller
  rw [absent] at same
  exact Option.map_eq_none_iff.mp same

/-- The controller answers alike in both engines, unless asked about times. -/
theorem asks (reduces : Reduces id own engine lone) {α : Type} (shows : Controller → Option α)
    (blind : ∀ controller, shows controller = shows controller.untimed) :
    (lone.controllers[0]?).bind shows = (engine.controllers[id]?).bind shows := by
  cases present : engine.controllers[id]? with
  | none => rw [reduces.missing present]
  | some controller =>
    obtain ⟨controller', present', same⟩ := reduces.found present
    rw [present']
    exact Controller.agree_of_untimed shows blind same

/-- Something refers to the controller exactly if something does in the reduct. -/
theorem isLive (reduces : Reduces id own engine lone) : lone.isLive 0 = engine.isLive id := by
  rw [Bool.eq_iff_iff, isLive_iff, isLive_iff]
  refine or_congr ?_ (or_congr ?_ ?_)
  · constructor
    · rintro ⟨⟨key, its⟩, member, rfl⟩
      exact ⟨(key, id), ((reduces.registry _ _).mp member).2, rfl⟩
    · rintro ⟨⟨key, its⟩, member, rfl⟩
      exact ⟨(key, 0), (reduces.registry _ _).mpr ⟨rfl, member⟩, rfl⟩
  · constructor
    · rintro ⟨place, handle, found, refers⟩
      have inside : place < own.length := by
        rw [← reduces.size]
        exact lt_size_of_handle found
      have listed := List.getElem?_eq_getElem inside
      rw [reduces.handles listed] at found
      obtain ⟨handle, present, rfl⟩ := Option.map_eq_some_iff.mp found
      obtain ⟨definition, dispatch⟩ := handle
      cases dispatch with
      | compiled => cases refers
      | interpreted its closure link =>
        obtain rfl := (reduces.owned present rfl).mpr (List.getElem_mem inside)
        exact ⟨_, _, present, rfl⟩
    · rintro ⟨target, handle, present, refers⟩
      have member := (reduces.owned present refers).mp rfl
      obtain ⟨place, inside, rfl⟩ := List.getElem_of_mem member
      obtain ⟨definition, dispatch⟩ := handle
      cases dispatch with
      | compiled => cases refers
      | interpreted its closure link =>
        refine ⟨place, ⟨definition, .interpreted 0 closure link⟩, ?_, rfl⟩
        rw [reduces.handles (List.getElem?_eq_getElem inside), present]
        rfl
  · rw [← List.count_pos_iff, reduces.held, List.count_pos_iff]

/-! ## Changes of both -/

theorem setController (reduces : Reduces id own engine lone) {before changed changed' : Controller}
    (present : engine.controllers[id]? = some before)
    (same : changed'.untimed = changed.untimed) :
    Reduces id own (engine.setController id changed) (lone.setController 0 changed') :=
  { reduces with
    controller := by
      obtain ⟨before', present', -⟩ := reduces.found present
      obtain ⟨bound, -⟩ := Array.getElem?_eq_some_iff.mp present
      obtain ⟨bound', -⟩ := Array.getElem?_eq_some_iff.mp present'
      simp [Engine.setController, Array.getElem?_setIfInBounds_self_of_lt bound,
        Array.getElem?_setIfInBounds_self_of_lt bound', same]
    single := by simpa [Engine.setController] using reduces.single }

theorem modifyController (reduces : Reduces id own engine lone) (change : Controller → Controller)
    (commutes : ∀ controller, (change controller).untimed = change controller.untimed) :
    Reduces id own (engine.modifyController id change) (lone.modifyController 0 change) :=
  { reduces with
    controller := by
      have same := congrArg (Option.map change) reduces.controller
      simp only [Option.map_map] at same
      simp only [Engine.modifyController, Array.getElem?_modify, ↓reduceIte]
      simp only [Option.map_map]
      rw [show Controller.untimed ∘ change = change ∘ Controller.untimed from funext commutes]
      exact same
    single := by simpa [Engine.modifyController] using reduces.single }

theorem submitTask (reduces : Reduces id own engine lone) (scheduler : SchedulerId) :
    Reduces id own (engine.submitTask scheduler id) (lone.submitTask scheduler 0) :=
  { reduces with
    waiting := fun its => by
      by_cases installed : scheduler < engine.schedulers.size
      · have installed' : scheduler < lone.schedulers.size := reduces.schedulers ▸ installed
        rw [waiting_submitTask installed, waiting_submitTask installed']
        split
        · rw [reduces.waiting, List.count_append, List.count_singleton_self,
            List.replicate_succ']
        · exact reduces.waiting its
      · have missing' : ¬ scheduler < lone.schedulers.size := reduces.schedulers ▸ installed
        rw [waiting_submitTask_missing installed, waiting_submitTask_missing missing']
        exact reduces.waiting its
    schedulers := by simpa [Engine.submitTask] using reduces.schedulers }

theorem dropTask (reduces : Reduces id own engine lone) {scheduler : SchedulerId}
    {rest : List ControllerId} (first : engine.waiting scheduler = id :: rest) :
    Reduces id own (engine.dropTask scheduler) (lone.dropTask scheduler) :=
  { reduces with
    waiting := fun its => by
      rw [waiting_dropTask, waiting_dropTask]
      split
      · rw [reduces.waiting, first, List.tail_cons, List.count_cons_self, List.replicate_succ,
          List.tail_cons]
      · exact reduces.waiting its
    schedulers := by simpa [Engine.dropTask] using reduces.schedulers }

/-- Another handle, or none, takes the place of one that the controller owns. -/
theorem setHandle (reduces : Reduces id own engine lone) {place : Nat} {target : HandleId}
    (listed : own[place]? = some target) {changed : Option Handle}
    (its : ∀ handle ∈ changed, ∀ other, handle.controller? = some other → other = id) :
    Reduces id own (engine.setHandle target changed)
      (lone.setHandle place (changed.map Handle.renumbered)) :=
  have member := List.mem_of_getElem? listed
  have made := reduces.made target member
  { reduces with
    handles := fun {place' target'} listed' => by
      have inside : place < lone.handles.size := by
        rw [reduces.size]
        exact (List.getElem?_eq_some_iff.mp listed).1
      -- The controller owns each handle once, so a place stands for one handle.
      have same : place' = place ↔ target' = target := by
        constructor
        · rintro rfl
          exact Option.some.inj (listed'.symm.trans listed)
        · rintro rfl
          have inside' := (List.getElem?_eq_some_iff.mp listed').1
          exact (List.getElem?_inj inside' reduces.distinct).mp (listed'.trans listed.symm)
      rw [handle?_setHandle_made inside, handle?_setHandle_made made]
      by_cases here : target' = target
      · rw [if_pos (same.mpr here), if_pos here]
      · rw [if_neg (mt same.mp here), if_neg here]
        exact reduces.handles listed'
    size := by simpa [Engine.setHandle] using reduces.size
    made := fun target member => by
      simpa [Engine.setHandle] using reduces.made target member
    owned := fun {target' handle other} found refers => by
      rw [handle?_setHandle_made made] at found
      split at found
      · subst target'
        exact ⟨fun _ => member, fun _ => its handle found other refers⟩
      · exact reduces.owned found refers }

theorem addHandle (reduces : Reduces id own engine lone) {handle : Handle}
    (its : ∀ other, handle.controller? = some other → other = id) :
    Reduces id (own ++ [engine.handles.size]) (engine.addHandle handle).2
      (lone.addHandle handle.renumbered).2 :=
  { reduces with
    handles := fun {place target} listed => by
      rw [handle?_addHandle, handle?_addHandle, reduces.size]
      rw [List.getElem?_append] at listed
      split at listed
      · rename_i old
        have earlier := reduces.made target (List.mem_of_getElem? listed)
        rw [if_neg (Nat.ne_of_lt old), if_neg (Nat.ne_of_lt earlier)]
        exact reduces.handles listed
      · rename_i old
        obtain ⟨last, rfl⟩ := List.getElem?_eq_some_iff.mp listed
        have here : place = own.length :=
          Nat.le_antisymm (Nat.le_of_sub_eq_zero (Nat.lt_one_iff.mp last)) (Nat.le_of_not_lt old)
        subst here
        simp
    size := by simp [Engine.addHandle, reduces.size]
    made := fun target member => by
      rw [Engine.addHandle, Array.size_push]
      rcases List.mem_append.mp member with earlier | new
      · exact Nat.lt_succ_of_lt (reduces.made target earlier)
      · cases List.mem_singleton.mp new
        exact Nat.lt_succ_self _
    distinct := by
      have fresh : engine.handles.size ∉ own := fun member =>
        Nat.lt_irrefl _ (reduces.made _ member)
      simpa [List.nodup_append, fresh] using
        ⟨reduces.distinct, fun target member => ne_of_mem_of_not_mem member fresh⟩
    owned := fun {target handle' other} found refers => by
      rw [handle?_addHandle] at found
      split at found
      · cases found
        subst target
        simp [its other refers]
      · rename_i old
        rw [reduces.owned found refers]
        simp [old] }

theorem hold (reduces : Reduces id own engine lone) :
    Reduces id own (engine.hold id) (lone.hold 0) :=
  { reduces with held := by simp [Engine.hold, reduces.held] }

theorem unhold (reduces : Reduces id own engine lone) :
    Reduces id own (engine.unhold id) (lone.unhold 0) :=
  { reduces with held := by simp [Engine.unhold, reduces.held] }

theorem release (reduces : Reduces id own engine lone) (key : DefinitionId) :
    Reduces id own (engine.release key).2 (lone.release key).2 :=
  { reduces with
    registry := fun key' its => by
      simp only [Engine.release, List.mem_filter, reduces.registry, and_assoc] }

theorem install (reduces : Reduces id own engine lone) (kind : SchedulerKind) (drained : Bool) :
    Reduces id own (engine.install kind drained) (lone.install kind drained) :=
  { reduces with
    waiting := fun its => by
      rw [waiting_install, waiting_install]
      exact reduces.waiting its
    schedulers := by simp [Engine.install, reduces.schedulers]
    current := reduces.schedulers
    drainable := by simp only [Engine.install, reduces.schedulers] }

theorem reinstall (reduces : Reduces id own engine lone) (scheduler : SchedulerId)
    (drained : Bool) :
    Reduces id own (engine.reinstall scheduler drained) (lone.reinstall scheduler drained) :=
  { reduces with
    current := rfl
    drainable := rfl }

/-! ## Operations on the controller -/

theorem compile (reduces : Reduces id own engine lone) (agrees : setup.Agrees setup') :
    (lone.compile setup' 0).1 = (engine.compile setup id).1 ∧
      Reduces id own (engine.compile setup id).2 (lone.compile setup' 0).2 := by
  unfold Engine.compile
  cases present : engine.controllers[id]? with
  | none =>
    rw [reduces.missing present]
    exact ⟨rfl, reduces⟩
  | some controller =>
    obtain ⟨controller', present', same⟩ := reduces.found present
    have settles : controller'.settled? = controller.settled? :=
      Controller.agree_of_untimed _ (fun _ => rfl) same
    have generates : controller'.generate setup'.compiler = controller.generate setup.compiler := by
      rw [agrees.compiler]
      exact Controller.agree_of_untimed (·.generate setup.compiler) (fun _ => rfl) same
    simp only [present', settles, generates]
    cases settled : controller.settled? with
    | some answer => exact ⟨rfl, reduces⟩
    | none =>
      have kept (micros micros' : Nat) (code : Except CompileError CompiledCode) :
          (controller'.keep micros' code).untimed = (controller.keep micros code).untimed := by
        rw [Controller.untimed_keep, same, Controller.untimed_keep]
      cases controller.generate setup.compiler with
      | error error => exact ⟨rfl, (reduces.setController present (kept _ _ _)).noted _ _ _ _⟩
      | ok code => exact ⟨rfl, (reduces.setController present (kept _ _ _)).noted _ _ _ _⟩

theorem recordCall (reduces : Reduces id own engine lone) (agrees : setup.Agrees setup') :
    Reduces id own (engine.recordCall setup id) (lone.recordCall setup' 0) := by
  unfold Engine.recordCall
  cases present : engine.controllers[id]? with
  | none =>
    rw [reduces.missing present]
    exact reduces
  | some controller =>
    obtain ⟨controller', present', same⟩ := reduces.found present
    simp only [present', agrees.policy]
    cases setup.policy.enabled with
    | false => exact reduces
    | true =>
      have counts := Controller.countCall?_of_untimed same
      simp only [Bool.not_true, Bool.false_eq_true, ↓reduceIte]
      cases count : controller.countCall? with
      | none =>
        rw [count] at counts
        simp only [Option.map_eq_none_iff.mp counts]
        exact reduces
      | some counted =>
        rw [count] at counts
        obtain ⟨counted', count', alike⟩ := Option.map_eq_some_iff.mp counts
        have due : counted'.isDue setup.policy = counted.isDue setup.policy :=
          Controller.agree_of_untimed (·.isDue setup.policy) (fun _ => rfl) alike
        have scheduler : counted'.scheduler = counted.scheduler :=
          Controller.agree_of_untimed _ (fun _ => rfl) alike
        have marked : counted'.markScheduled.untimed = counted.markScheduled.untimed :=
          congrArg Controller.markScheduled alike
        simp only [count', due, scheduler]
        cases counted.isDue setup.policy with
        | false => exact reduces.setController present alike
        | true =>
          exact ((reduces.setController present marked).noted _ _ _ _).submitTask counted.scheduler

theorem runTask (reduces : Reduces id own engine lone) (agrees : setup.Agrees setup') :
    Reduces id own (engine.runTask setup id) (lone.runTask setup' 0) := by
  unfold Engine.runTask
  cases present : engine.controllers[id]? with
  | none =>
    rw [reduces.missing present]
    exact reduces
  | some controller =>
    obtain ⟨controller', present', -⟩ := reduces.found present
    simp only [present', reduces.isLive]
    cases engine.isLive id with
    | false => exact reduces
    | true =>
      obtain ⟨answer, compiled⟩ := reduces.compile agrees
      simp only [↓reduceIte]
      generalize engine.compile setup id = first at answer compiled
      generalize lone.compile setup' 0 = second at answer compiled
      obtain ⟨result, next⟩ := first
      obtain ⟨result', next'⟩ := second
      obtain rfl : result' = result := answer
      cases result' with
      | ok _ => exact compiled
      | error error => exact compiled.noted _ _ _ _

/-- Running the tasks at the head of a queue: the reduct runs those of the controller. -/
theorem runTasks (reduces : Reduces id own engine lone) (agrees : setup.Agrees setup')
    {scheduler : SchedulerId} {tasks rest : List ControllerId}
    (first : engine.waiting scheduler = tasks ++ rest) :
    Reduces id own (runTasks setup scheduler tasks engine)
      (Engine.runTasks setup' scheduler (List.replicate (tasks.count id) 0) lone) := by
  -- Compiling submits nothing, so the tasks read at the start stay at the head of the queue.
  induction tasks generalizing engine lone with
  | nil => exact reduces
  | cons task tasks inductionHypothesis =>
    have after : ((engine.dropTask scheduler).runTask setup task).waiting scheduler =
        tasks ++ rest := by
      rw [waiting_runTask, waiting_dropTask, if_pos rfl, first]
      rfl
    by_cases its : task = id
    · subst its
      rw [List.count_cons_self, List.replicate_succ]
      exact inductionHypothesis ((reduces.dropTask first).runTask agrees) after
    · rw [List.count_cons_of_ne its]
      have dropped : Aside id own engine (engine.dropTask scheduler) := by
        apply Aside.dropTask
        rw [first]
        simpa using its
      exact inductionHypothesis
        ((reduces.aside dropped).aside (aside_runTask setup _ own its)) after

theorem controllerFor (reduces : Reduces id own engine lone) (setup' : Setup)
    {definition : Definition} (its : (engine.controllerFor setup definition).1 = id) :
    (lone.controllerFor setup' definition).1 = 0 ∧
      Reduces id own (engine.controllerFor setup definition).2
        (lone.controllerFor setup' definition).2 := by
  unfold Engine.controllerFor at its ⊢
  cases tracked : engine.tracked? definition.id with
  | some tracker =>
    rw [tracked] at its
    obtain rfl : tracker = id := its
    have member := (reduces.registry definition.id 0).mpr ⟨rfl, registered_of_tracked tracked⟩
    cases tracked' : lone.tracked? definition.id with
    | some tracker' =>
      obtain ⟨rfl, -⟩ := (reduces.registry _ _).mp (registered_of_tracked tracked')
      exact ⟨rfl, reduces⟩
    | none => simpa using List.lookup_eq_none_iff.mp tracked' _ member
  | none =>
    rw [tracked] at its
    obtain rfl : engine.controllers.size = id := its
    have untracked : lone.tracked? definition.id = none := by
      cases tracked' : lone.tracked? definition.id with
      | none => rfl
      | some tracker' =>
        obtain ⟨-, member⟩ := (reduces.registry _ _).mp (registered_of_tracked tracked')
        simpa using List.lookup_eq_none_iff.mp tracked _ member
    -- The number of the new controller was free, so the reduct has no controller yet.
    have absent : lone.controllers[0]? = none :=
      reduces.missing (Array.getElem?_eq_none (Nat.le_refl _))
    have empty : lone.controllers.size = 0 := by
      simpa using absent
    simp only [untracked]
    refine ⟨empty, ?_⟩
    exact { reduces with
      controller := by
        simp only [log, record]
        rw [Array.getElem?_push, if_pos empty.symm, Array.getElem?_push, if_pos rfl,
          reduces.current]
      single := by simp [log, record, empty]
      registry := fun key its => by
        simp only [log, record, empty, List.mem_cons, Prod.mk.injEq, reduces.registry]
        tauto }

end Reduces

/-- Binds that end alike: with the same error, or each with one handle more. -/
inductive BindsAlike (id : ControllerId) (own : List HandleId) :
    Except BindError HandleId × Engine → Except BindError HandleId × Engine → Prop where
  | refused (error : BindError) {engine lone : Engine} (reduces : Reduces id own engine lone) :
      BindsAlike id own (.error error, engine) (.error error, lone)
  | bound {target : HandleId} {engine lone : Engine}
      (reduces : Reduces id (own ++ [target]) engine lone) :
      BindsAlike id own (.ok target, engine) (.ok own.length, lone)

namespace Reduces

theorem bound (reduces : Reduces id own engine lone) (handle : Handle)
    (its : ∀ other, handle.controller? = some other → other = id) :
    BindsAlike id own (.ok (engine.addHandle handle).1, (engine.addHandle handle).2)
      (.ok (lone.addHandle handle.renumbered).1, (lone.addHandle handle.renumbered).2) := by
  have added := reduces.addHandle its
  have place : (lone.addHandle handle.renumbered).1 = own.length := reduces.size
  rw [place]
  exact .bound added

theorem bindCompiled (reduces : Reduces id own engine lone) (agrees : setup.Agrees setup')
    {controller controller' : Controller} (same : controller'.untimed = controller.untimed)
    (closure : Option Binding) :
    BindsAlike id own (engine.bindCompiled setup id controller closure)
      (lone.bindCompiled setup' 0 controller' closure) := by
  obtain ⟨answer, compiled⟩ := reduces.compile agrees
  have definition : controller'.definition = controller.definition :=
    Controller.agree_of_untimed _ (fun _ => rfl) same
  have selection : controller'.selection = controller.selection :=
    Controller.agree_of_untimed _ (fun _ => rfl) same
  unfold Engine.bindCompiled
  generalize engine.compile setup id = first at answer compiled
  generalize lone.compile setup' 0 = second at answer compiled
  obtain ⟨result, next⟩ := first
  obtain ⟨result', next'⟩ := second
  obtain rfl : result' = result := answer
  cases result' with
  | error error => exact .refused _ compiled
  | ok _ =>
    have entries : (next'.controllers[0]?).bind (·.entryFor? closure) =
        (next.controllers[id]?).bind (·.entryFor? closure) :=
      compiled.asks _ fun _ => rfl
    simp only [entries, definition, selection]
    cases (next.controllers[id]?).bind (·.entryFor? closure) with
    | none => exact .refused _ compiled
    | some entered =>
      cases entered with
      | error mismatch => exact .refused _ compiled
      | ok entry =>
        exact compiled.bound ⟨controller.definition, .compiled entry⟩ (by simp [Handle.controller?])

theorem bindController (reduces : Reduces id own engine lone) (agrees : setup.Agrees setup')
    {controller controller' : Controller} (same : controller'.untimed = controller.untimed)
    (closure : Option Binding) :
    BindsAlike id own (engine.bindController setup id controller closure)
      (lone.bindController setup' 0 controller' closure) := by
  have definition : controller'.definition = controller.definition :=
    Controller.agree_of_untimed _ (fun _ => rfl) same
  have selection : controller'.selection = controller.selection :=
    Controller.agree_of_untimed _ (fun _ => rfl) same
  have entry : controller'.entryFor? closure = controller.entryFor? closure :=
    Controller.agree_of_untimed (·.entryFor? closure) (fun _ => rfl) same
  unfold Engine.bindController
  simp only [definition, selection, entry, agrees.interprets]
  cases controller.definition.checkClosure closure with
  | error error => exact .refused _ reduces
  | ok _ =>
    cases setup.interprets with
    | false => exact reduces.bindCompiled agrees same closure
    | true =>
      simp only [Bool.not_true, Bool.false_eq_true, ↓reduceIte]
      split
      · exact reduces.bound ⟨controller.definition, .compiled _⟩ (by simp [Handle.controller?])
      · exact reduces.bound ⟨controller.definition, .interpreted id closure .unresolved⟩
          fun other refers => (Option.some.inj refers).symm

theorem bind (reduces : Reduces id own engine lone) (agrees : setup.Agrees setup')
    {definition : Definition} (its : (engine.controllerFor setup definition).1 = id)
    (closure : Option Binding) :
    BindsAlike id own (engine.bind setup definition closure)
      (lone.bind setup' definition closure) := by
  obtain ⟨its', tracked⟩ := reduces.controllerFor setup' its
  unfold Engine.bind
  generalize engine.controllerFor setup definition = first at its tracked
  generalize lone.controllerFor setup' definition = second at its' tracked
  obtain ⟨tracker, tracking⟩ := first
  obtain ⟨tracker', tracking'⟩ := second
  obtain rfl : tracker = id := its
  obtain rfl : tracker' = 0 := its'
  cases present : tracking.controllers[tracker]? with
  | none =>
    simp only [present, tracked.missing present]
    exact .refused _ tracked
  | some controller =>
    obtain ⟨controller', present', same⟩ := tracked.found present
    simp only [present, present']
    exact tracked.bindController agrees same closure

/-! ## Calls -/

theorem interpret (reduces : Reduces id own engine lone) (agrees : setup.Agrees setup')
    (target place : HandleId) (definition : Definition) (closure : Option Binding)
    (args : List Value) :
    Reduces id own (engine.interpret setup target id definition closure args).2
      (lone.interpret setup' place 0 definition closure args).2 :=
  ((reduces.recordCall agrees).modifyController Controller.countInterpreted
    fun _ => rfl).noted _ _ _ _

theorem invoke (reduces : Reduces id own engine lone) (agrees : setup.Agrees setup')
    {place : Nat} {target : HandleId} (listed : own[place]? = some target) {handle : Handle}
    (holder : engine.handle? target = some handle) (args : List Value) :
    Reduces id own (engine.invoke setup target handle args).2
      (lone.invoke setup' place handle.renumbered args).2 := by
  obtain ⟨definition, dispatch⟩ := handle
  by_cases fits : args.length = definition.signature.arity
  · cases dispatch with
    | compiled entry =>
      simp only [Engine.invoke, Handle.renumbered, ne_eq, fits, not_true_eq_false, ↓reduceIte]
      exact reduces.noted _ _ _ _
    | interpreted its closure link =>
      obtain rfl := (reduces.owned holder rfl).mpr (List.mem_of_getElem? listed)
      simp only [Engine.invoke, Handle.renumbered, ne_eq, fits, not_true_eq_false, ↓reduceIte]
      cases link with
      | switched entry => exact reduces.noted _ _ _ _
      | pinned => exact reduces.interpret agrees target place definition closure args
      | unresolved =>
        have entries : (lone.controllers[0]?).bind (·.entryFor? closure) =
            (engine.controllers[its]?).bind (·.entryFor? closure) :=
          reduces.asks _ fun _ => rfl
        have owns (link : Link) (handle : Handle)
            (its' : handle ∈ some ⟨definition, .interpreted its closure link⟩)
            (other : ControllerId) (refers : handle.controller? = some other) : other = its := by
          cases its'
          exact (Option.some.inj refers).symm
        simp only [resolveAndServe, entries]
        cases (engine.controllers[its]?).bind (·.entryFor? closure) with
        | none => exact reduces.interpret agrees target place definition closure args
        | some entered =>
          cases entered with
          | ok entry =>
            have promoted : Reduces its own (engine.modifyController its Controller.countPromoted)
                (lone.modifyController 0 Controller.countPromoted) :=
              reduces.modifyController _ fun _ => rfl
            exact ((promoted.noted _ _ _ _).setHandle listed (owns (.switched entry))).noted _ _ _ _
          | error mismatch => exact (reduces.noted _ _ _ _).setHandle listed (owns .pinned)
  · cases dispatch <;>
      simpa only [Engine.invoke, Handle.renumbered, ne_eq, fits, not_false_eq_true, ↓reduceIte]
        using reduces

end Reduces

end Engine

end HotPath

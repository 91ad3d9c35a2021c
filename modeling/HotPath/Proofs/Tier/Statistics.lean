import HotPath.Proofs.Tier.Independence
import HotPath.Proofs.Tier.Totals
import HotPath.Tier.Stats
import Mathlib.Algebra.BigOperators.Group.Finset.Basic
import Mathlib.Algebra.Order.BigOperators.Group.List
import Mathlib.Algebra.Order.Ring.Nat

/-!
What the statistics of an engine are about: the functions looked up and not released since, each
with the controller that its first lookup made, and sums over these controllers alone.
-/

namespace HotPath.Engine

/-- The functions looked up and not released since, after one more command. -/
def Command.noted (known : Finset DefinitionId) : Command → Finset DefinitionId
  | .track definition | .bind definition _ | .compileNow definition => insert definition.id known
  | .release key => known.erase key
  | _ => known

theorem Command.noted_lookup {command : Command} {definition : Definition}
    (looksUp : command.definition? = some definition) (known : Finset DefinitionId) :
    command.noted known = insert definition.id known := by
  cases command with
  | track | bind | compileNow =>
    cases looksUp
    rfl
  | _ => cases looksUp

theorem Command.noted_plain {command : Command} (plain : command.definition? = none)
    (keeps : ∀ key, command ≠ .release key) (known : Finset DefinitionId) :
    command.noted known = known := by
  cases command with
  | track | bind | compileNow => cases plain
  | release key => exact absurd rfl (keeps key)
  | _ => rfl

def lookedUp (turns : List Turn) : Finset DefinitionId :=
  turns.foldl (fun known turn => turn.command.noted known) ∅

def countOf (engine : Engine) (field : Counters.Field) (key : DefinitionId) : Nat :=
  match (engine.tracked? key).bind fun id => engine.controllers[id]? with
  | some controller => controller.counters.get field
  | none => 0

def Unlisted (engine : Engine) (id : ControllerId) : Prop :=
  ∀ entry ∈ engine.registry, entry.2 ≠ id

/-- A command that works through a handle, a hold or a task with no tracked controller
behind it. -/
inductive Command.Detached (engine : Engine) : Command → Prop where
  | invoke {target : HandleId} {handle : Handle} (holder : engine.handle? target = some handle)
      (behind : ∀ id, handle.controller? = some id → engine.Unlisted id) (args : List Value) :
      Detached engine (.invoke target args)
  | call {target : HandleId} {handle : Handle} (holder : engine.handle? target = some handle)
      (behind : ∀ id, handle.controller? = some id → engine.Unlisted id) (args : List Value) :
      Detached engine (.call target args)
  | dropHandle (target : HandleId) : Detached engine (.dropHandle target)
  | hold (id : ControllerId) : Detached engine (.hold id)
  | unhold (id : ControllerId) : Detached engine (.unhold id)
  | bindHeld {id : ControllerId} (unlisted : engine.Unlisted id) (closure : Option Binding) :
      Detached engine (.bindHeld id closure)
  | compileHeld {id : ControllerId} (unlisted : engine.Unlisted id) :
      Detached engine (.compileHeld id)
  | countHeld {id : ControllerId} (unlisted : engine.Unlisted id) :
      Detached engine (.countHeld id)
  | runNext {scheduler : SchedulerId} {id : ControllerId} {rest : List ControllerId}
      (first : engine.waiting scheduler = id :: rest) (unlisted : engine.Unlisted id) :
      Detached engine (.runNext scheduler)

variable {setup : Setup} {engine next : Engine}

/-! ## The registry -/

section

variable (setup : Setup) (engine : Engine)

theorem registry_compile (id : ControllerId) :
    (engine.compile setup id).2.registry = engine.registry := by
  obtain ⟨controllers, journal, same⟩ := compile_frame setup engine id
  rw [same]

theorem registry_recordCall (id : ControllerId) :
    (engine.recordCall setup id).registry = engine.registry := by
  obtain ⟨controllers, schedulers, journal, same⟩ := recordCall_frame setup engine id
  rw [same]

theorem registry_runTask (id : ControllerId) :
    (engine.runTask setup id).registry = engine.registry := by
  obtain ⟨controllers, journal, same⟩ := runTask_frame setup engine id
  rw [same]

theorem registry_runTasks (scheduler : SchedulerId) (tasks : List ControllerId) :
    (runTasks setup scheduler tasks engine).registry = engine.registry := by
  induction tasks generalizing engine with
  | nil => rfl
  | cons task rest inductionHypothesis =>
    rw [runTasks, inductionHypothesis, registry_runTask]
    rfl

theorem registry_runPending : (engine.runPending setup).2.registry = engine.registry := by
  unfold runPending
  cases engine.drainable with
  | none => rfl
  | some scheduler => exact registry_runTasks setup engine scheduler _

theorem registry_runNext (scheduler : SchedulerId) :
    (engine.runNext setup scheduler).2.registry = engine.registry := by
  unfold runNext
  cases engine.waiting scheduler with
  | nil => rfl
  | cons task rest => exact registry_runTask _ _ task

theorem registry_useScheduler (kind : SchedulerKind) (drained : Bool) :
    (engine.useScheduler setup kind drained).registry = engine.registry := by
  unfold useScheduler
  split <;> rfl

theorem registry_bindController (id : ControllerId) (controller : Controller)
    (closure : Option Binding) :
    (engine.bindController setup id controller closure).2.registry = engine.registry := by
  unfold bindController
  cases controller.definition.checkClosure closure with
  | error error => rfl
  | ok _ =>
    cases setup.interprets with
    | true => rfl
    | false =>
      have compiled := registry_compile setup engine id
      simp only [Bool.not_false, ↓reduceIte, bindCompiled]
      generalize engine.compile setup id = answer at compiled
      obtain ⟨result, ready⟩ := answer
      cases result with
      | error error => exact compiled
      | ok _ =>
        simp only
        split <;> exact compiled

/-- A bind that ends in any way has done no more to the registry than look the function up. -/
theorem registry_bind (definition : Definition) (closure : Option Binding) :
    (engine.bind setup definition closure).2.registry =
      (engine.controllerFor setup definition).2.registry := by
  unfold bind
  generalize engine.controllerFor setup definition = answer
  obtain ⟨id, tracking⟩ := answer
  cases found : tracking.controllers[id]? with
  | none => simp [found]
  | some controller =>
    simp only [found]
    exact registry_bindController setup tracking id controller closure

theorem registry_invoke (target : HandleId) (handle : Handle) (args : List Value) :
    (engine.invoke setup target handle args).2.registry = engine.registry := by
  have served := serving_invoke setup engine target handle args
  generalize engine.invoke setup target handle args = answer at served
  cases served with
  | rejected | entered | switched | pinned => rfl
  | interpreted => exact registry_recordCall setup engine _

end

theorem registry_perform (setup : Setup) (engine : Engine) {command : Command}
    (plain : command.definition? = none) (keeps : ∀ key, command ≠ .release key) :
    (engine.perform setup command).2.registry = engine.registry := by
  cases command with
  | track | bind | compileNow => cases plain
  | release key => exact absurd rfl (keeps key)
  | invoke target args | call target args =>
    simp only [perform]
    cases engine.handle? target with
    | none => rfl
    | some handle => exact registry_invoke setup engine target handle args
  | runPending => exact registry_runPending setup engine
  | useScheduler kind drained => exact registry_useScheduler setup engine kind drained
  | reinstall scheduler drained =>
    simp only [perform]
    split <;> rfl
  | dropHandle | unhold | newCell | writeCell | newBox | writeBox => rfl
  | hold id =>
    simp only [perform]
    split <;> rfl
  | bindHeld id closure =>
    simp only [perform]
    split
    · exact registry_bindController setup engine id _ closure
    · rfl
  | compileHeld id =>
    simp only [perform]
    split
    · exact registry_compile setup engine id
    · rfl
  | countHeld id =>
    simp only [perform]
    split
    · exact registry_recordCall setup engine id
    · rfl
  | runNext scheduler => exact registry_runNext setup engine scheduler

theorem registry_lookup (setup : Setup) (engine : Engine) {command : Command}
    {definition : Definition} (looksUp : command.definition? = some definition) :
    (engine.perform setup command).2.registry =
      (engine.controllerFor setup definition).2.registry := by
  cases command with
  | track =>
    cases looksUp
    rfl
  | bind =>
    cases looksUp
    exact registry_bind setup engine definition _
  | compileNow =>
    cases looksUp
    exact registry_compile setup _ _
  | _ => cases looksUp

/-! ## The functions that are tracked -/

theorem isSome_tracked?_iff {key : DefinitionId} :
    (engine.tracked? key).isSome = true ↔ key ∈ engine.registry.map Prod.fst := by
  constructor
  · intro tracked
    obtain ⟨id, found⟩ := Option.isSome_iff_exists.mp tracked
    exact List.mem_map.mpr ⟨_, registered_of_tracked found, rfl⟩
  · intro member
    obtain ⟨entry, listed, rfl⟩ := List.mem_map.mp member
    by_contra untracked
    have absent := List.lookup_eq_none_iff.mp (Option.not_isSome_iff_eq_none.mp untracked)
    simpa using absent entry listed

/-- The registry holds each of some functions once, and no other. -/
structure Tracks (functions : Finset DefinitionId) (engine : Engine) : Prop where
  keyed : engine.Keyed
  all : (engine.registry.map Prod.fst).toFinset = functions

section

variable {functions : Finset DefinitionId}

theorem Tracks.isSome_iff (tracks : Tracks functions engine) (key : DefinitionId) :
    (engine.tracked? key).isSome = true ↔ key ∈ functions := by
  rw [isSome_tracked?_iff, ← tracks.all, List.mem_toFinset]

theorem Tracks.card (tracks : Tracks functions engine) :
    engine.registry.length = functions.card := by
  rw [← tracks.all, List.toFinset_card_of_nodup tracks.keyed, List.length_map]

theorem Tracks.controllerFor (tracks : Tracks functions engine) (setup : Setup)
    (definition : Definition) :
    ((engine.controllerFor setup definition).2.registry.map Prod.fst).toFinset =
      insert definition.id functions := by
  unfold Engine.controllerFor
  cases tracked : engine.tracked? definition.id with
  | some id =>
    have known := (tracks.isSome_iff definition.id).mp (by rw [tracked]; rfl)
    rw [Finset.insert_eq_of_mem known]
    exact tracks.all
  | none => rw [List.map_cons, List.toFinset_cons, ← tracks.all]; rfl

theorem Tracks.release (tracks : Tracks functions engine) (key : DefinitionId) :
    ((engine.release key).2.registry.map Prod.fst).toFinset = functions.erase key := by
  change ((engine.registry.filter (·.1 != key)).map Prod.fst).toFinset = functions.erase key
  ext other
  simp only [← tracks.all, List.mem_toFinset, List.mem_map, List.mem_filter, Finset.mem_erase,
    bne_iff_ne]
  constructor
  · rintro ⟨entry, ⟨member, apart⟩, rfl⟩
    exact ⟨apart, entry, member, rfl⟩
  · rintro ⟨apart, entry, member, rfl⟩
    exact ⟨entry, ⟨member, apart⟩, rfl⟩

theorem Tracks.take (tracks : Tracks functions engine) (setup : Setup) (turn : Turn) :
    Tracks (turn.command.noted functions) (engine.take setup turn).2 := by
  refine ⟨tracks.keyed.take setup turn, ?_⟩
  obtain ⟨compiler, command⟩ := turn
  cases looksUp : command.definition? with
  | some definition =>
    rw [Engine.take, registry_lookup _ engine looksUp, Command.noted_lookup looksUp]
    exact tracks.controllerFor _ definition
  | none =>
    by_cases releases : ∃ key, command = .release key
    · obtain ⟨key, rfl⟩ := releases
      exact tracks.release key
    · have keeps (key : DefinitionId) : command ≠ .release key := fun same => releases ⟨key, same⟩
      rw [Engine.take, registry_perform _ engine looksUp keeps, Command.noted_plain looksUp keeps]
      exact tracks.all

theorem Tracks.afterTurns (tracks : Tracks functions engine) (setup : Setup)
    (turns : List Turn) :
    Tracks (turns.foldl (fun known turn => turn.command.noted known) functions)
      (engine.afterTurns setup turns) := by
  induction turns generalizing engine functions with
  | nil => exact tracks
  | cons turn rest inductionHypothesis => exact inductionHypothesis (tracks.take setup turn)

theorem Begins.tracks {begun : Engine} (begins : Begins begun) : Tracks ∅ begun := by
  refine ⟨begins.keyed, ?_⟩
  induction begins with
  | installed kind drained => rfl
  | logged _ _ _ all => exact all

end

/-! ## The controllers behind them -/

theorem tracked?_lookup (setup : Setup) (engine : Engine) {turn : Turn} {definition : Definition}
    (looksUp : turn.command.definition? = some definition) :
    (engine.take setup turn).2.tracked? definition.id =
      some (engine.controllerFor (turn.setup setup) definition).1 := by
  simp only [tracked?, take, registry_lookup _ engine looksUp]
  unfold controllerFor
  cases tracked : engine.tracked? definition.id with
  | some id => exact tracked
  | none => exact List.lookup_cons_self

theorem controllerFor_tracked (setup : Setup) {definition : Definition} {id : ControllerId}
    (tracked : engine.tracked? definition.id = some id) :
    (engine.controllerFor setup definition).1 = id := by
  simp only [controllerFor, tracked]

section

variable {key : DefinitionId} {id : ControllerId}

theorem registered_take (member : (key, id) ∈ engine.registry) {turn : Turn}
    (keeps : turn.command ≠ .release key) : (key, id) ∈ (engine.take setup turn).2.registry := by
  obtain ⟨compiler, command⟩ := turn
  cases looksUp : command.definition? with
  | some definition =>
    rw [take, registry_lookup _ engine looksUp]
    unfold controllerFor
    cases engine.tracked? definition.id with
    | some its => exact member
    | none => exact List.mem_cons_of_mem _ member
  | none =>
    by_cases releases : ∃ other, command = .release other
    · obtain ⟨other, rfl⟩ := releases
      have apart : key ≠ other := by
        rintro rfl
        exact keeps rfl
      exact List.mem_filter.mpr ⟨member, by simpa using apart⟩
    · rw [take, registry_perform _ engine looksUp fun other same => releases ⟨other, same⟩]
      exact member

/-- A function that is not released keeps its controller. -/
theorem Keyed.tracked?_afterTurns (keyed : engine.Keyed) (tracked : engine.tracked? key = some id)
    (setup : Setup) {turns : List Turn}
    (keeps : ∀ turn ∈ turns, turn.command ≠ .release key) :
    (engine.afterTurns setup turns).tracked? key = some id := by
  induction turns generalizing engine with
  | nil => exact tracked
  | cons turn rest inductionHypothesis =>
    obtain ⟨first, later⟩ := List.forall_mem_cons.mp keeps
    have taken := keyed.take setup turn
    exact inductionHypothesis taken
      (taken.tracked? (registered_take (registered_of_tracked tracked) first)) later

/-- A released controller tracks nothing: no other function had it. -/
theorem Registered.unlisted_release (registered : engine.Registered)
    (tracked : engine.tracked? key = some id) : (engine.release key).2.Unlisted id := by
  rintro ⟨other, _⟩ member rfl
  obtain ⟨listed, apart⟩ := List.mem_filter.mp member
  obtain ⟨controller, found, its⟩ := registered listed
  obtain ⟨same, present, named⟩ := registered (registered_of_tracked tracked)
  cases found.symm.trans present
  exact absurd (its.symm.trans named) (by simpa using apart)

/-- A controller that tracks nothing will never track anything again. -/
theorem Unlisted.afterTurns (unlisted : engine.Unlisted id)
    (existing : id < engine.controllers.size) (turns : List Turn) :
    (engine.afterTurns setup turns).Unlisted id := by
  let past (engine : Engine) : Prop := id < engine.controllers.size ∧ engine.Unlisted id
  suffices kept : past (engine.afterTurns setup turns) from kept.2
  refine afterTurns_keeps past ?_ ⟨existing, unlisted⟩ turns
  rintro compiler before after move ⟨existing, unlisted⟩
  refine ⟨Nat.lt_of_lt_of_le existing move.size_controllers, fun entry member => ?_⟩
  rcases move.registry_origin member with earlier | ⟨definition, rfl, -⟩
  · exact unlisted entry earlier
  · exact Nat.ne_of_gt existing

end

/-! ## The numbers -/

/-- What is one for the marked and zero for the others adds up to their number. -/
private theorem sum_marks {α : Type} {count : α → Nat} {marked : α → Bool} {all : List α}
    (marks : ∀ one ∈ all, count one = if marked one then 1 else 0) :
    (all.map count).sum = all.countP marked := by
  induction all with
  | nil => rfl
  | cons one rest inductionHypothesis =>
    obtain ⟨first, later⟩ := List.forall_mem_cons.mp marks
    rw [List.map_cons, List.sum_cons, List.countP_cons, inductionHypothesis later, first,
      Nat.add_comm]

theorem Tracks.sum {functions : Finset DefinitionId} (tracks : Tracks functions engine)
    (registered : engine.Registered) (field : Counters.Field) :
    (engine.trackedControllers.map (·.counters.get field)).sum =
      ∑ key ∈ functions, engine.countOf field key := by
  have along (entries : List (DefinitionId × ControllerId)) (within : entries ⊆ engine.registry) :
      ((entries.filterMap fun entry => engine.controllers[entry.2]?).map
        (·.counters.get field)).sum =
          (entries.map fun entry => engine.countOf field entry.1).sum := by
    induction entries with
    | nil => rfl
    | cons entry rest inductionHypothesis =>
      obtain ⟨first, later⟩ := List.cons_subset.mp within
      obtain ⟨controller, found, -⟩ := registered first
      have count : engine.countOf field entry.1 = controller.counters.get field := by
        simp [countOf, tracks.keyed.tracked? first, found]
      simp only [List.filterMap_cons, found]
      rw [List.map_cons, List.sum_cons, inductionHypothesis later, List.map_cons, List.sum_cons,
        count]
  rw [trackedControllers, along _ (List.Subset.refl _), ← tracks.all,
    List.sum_toFinset _ tracks.keyed, List.map_map]
  rfl

theorem Tracks.totals {functions : Finset DefinitionId} (tracks : Tracks functions engine)
    (registered : engine.Registered)
    (fits : ∀ field, ∑ key ∈ functions, engine.countOf field key < UInt64.size) :
    engine.stats.totals =
      some (Counters.ofCounts fun field => ∑ key ∈ functions, engine.countOf field key) := by
  have sums (field : Counters.Field) :
      ((engine.trackedControllers.map (·.counters)).map (·.get field)).sum =
        ∑ key ∈ functions, engine.countOf field key := by
    rw [List.map_map]
    exact tracks.sum registered field
  have total := Counters.total?_of_fits fun field => (sums field).trans_lt (fits field)
  simp only [sums] at total
  exact total

theorem Registered.length (registered : engine.Registered) :
    engine.trackedControllers.length = engine.registry.length := by
  have present (entry : DefinitionId × ControllerId) (member : entry ∈ engine.registry) :
      (engine.controllers[entry.2]?).isSome = true := by
    obtain ⟨controller, found, -⟩ := registered member
    rw [found]
    rfl
  rw [trackedControllers, List.length_filterMap_eq_countP, List.countP_eq_length.mpr present]

theorem Orderly.coherent_tracked {policy : Policy} (orderly : Orderly policy engine)
    {controller : Controller} (member : controller ∈ engine.trackedControllers) :
    controller.Coherent policy := by
  obtain ⟨entry, -, found⟩ := List.mem_filterMap.mp member
  exact orderly.coherent found

/-- The promotions of the tracked functions tell the same as their counters. -/
theorem Orderly.sum_promotions {policy : Policy} (orderly : Orderly policy engine) :
    (engine.trackedControllers.map (·.counters.completed)).sum = engine.stats.compiled ∧
      (engine.trackedControllers.map (·.counters.failed)).sum = engine.stats.failed ∧
      engine.stats.compiled + engine.stats.failed ≤ engine.stats.tracked ∧
      (engine.trackedControllers.map (·.counters.scheduled)).sum ≤ engine.stats.tracked := by
  refine ⟨sum_marks fun controller member => ?_, sum_marks fun controller member => ?_, ?_, ?_⟩
  · simpa using (orderly.coherent_tracked member).completed
  · simpa using (orderly.coherent_tracked member).failed
  · -- A function that failed is among those that are not compiled.
    have apart : engine.trackedControllers.countP (·.promotion == .failed) ≤
        engine.trackedControllers.countP (fun one => ¬ (one.promotion == .compiled)) := by
      apply List.countP_mono_left
      intro controller _ failed
      simp_all
    have parts := List.length_eq_countP_add_countP (l := engine.trackedControllers)
      (fun one => one.promotion == .compiled)
    simp only [stats]
    omega
  · have bounded := List.sum_le_card_nsmul
      (engine.trackedControllers.map (·.counters.scheduled)) 1 (by
        intro count member
        obtain ⟨controller, tracked, rfl⟩ := List.mem_map.mp member
        exact (orderly.coherent_tracked tracked).once)
    simpa [stats] using bounded

theorem stats_congr (registry : next.registry = engine.registry)
    (controllers : ∀ entry ∈ engine.registry,
      next.controllers[entry.2]? = engine.controllers[entry.2]?) :
    next.stats = engine.stats := by
  have same : next.trackedControllers = engine.trackedControllers := by
    rw [trackedControllers, registry]
    exact List.filterMap_congr controllers
  simp only [stats, same]

/-- What is done where no tracked controller is behind it changes no number. -/
theorem Command.Detached.stats_take {turn : Turn} (detached : turn.command.Detached engine)
    (setup : Setup) : (engine.take setup turn).2.stats = engine.stats := by
  obtain ⟨compiler, command⟩ := turn
  have plain : command.definition? = none := by cases detached <;> rfl
  have keeps (key : DefinitionId) : command ≠ .release key := by
    rintro rfl
    cases detached
  refine stats_congr (registry_perform _ engine plain keeps) fun entry listed => ?_
  cases detached with
  | @invoke target handle holder behind args | @call target handle holder behind args =>
    have foreign : target ∉ ([] : List HandleId) := List.not_mem_nil
    have others := fun its => behind entry.2 its entry listed rfl
    simp only [take, perform, holder]
    exact (aside_invoke _ engine foreign holder others args).controller
  | dropHandle | unhold => rfl
  | hold id =>
    simp only [take, perform]
    split <;> rfl
  | bindHeld unlisted closure =>
    have made : ∀ target ∈ ([] : List HandleId), target < engine.handles.size := by simp
    have apart := (unlisted entry listed).symm
    simp only [take, perform]
    split
    · exact (aside_bindController _ engine made apart _ closure).controller
    · rfl
  | compileHeld unlisted =>
    simp only [take, perform]
    split
    · exact (aside_compile _ engine [] (unlisted entry listed).symm).controller
    · rfl
  | countHeld unlisted =>
    simp only [take, perform]
    split
    · exact (aside_recordCall _ engine [] (unlisted entry listed).symm).controller
    · rfl
  | runNext first unlisted =>
    simp only [take, perform, Engine.runNext, first]
    exact (aside_runTask _ (engine.dropTask _) [] (unlisted entry listed).symm).controller

/-! ## Runs -/

theorem Begins.registered_afterTurns {begun : Engine} (begins : Begins begun)
    (turns : List Turn) : (begun.afterTurns setup turns).Registered :=
  afterTurns_keeps Registered (fun _ _ _ move before => before.move move) begins.registered turns

/-- In every state of every run the statistics are those of the functions looked up and not
released since, each with the controller of its first lookup. -/
theorem stats_exact {begun : Engine} (begins : Begins begun) (turns : List Turn) :
    let engine := begun.afterTurns setup turns
    let functions := lookedUp turns
    engine.registry.length = functions.card ∧ engine.stats.tracked = functions.card ∧
    (∀ key ∈ functions, ∃ id controller, engine.tracked? key = some id ∧
      engine.controllers[id]? = some controller ∧ controller.definition.id = key) ∧
    (∀ compiler key, (engine.take setup ⟨compiler, .release key⟩).1 =
      .released (decide (key ∈ functions))) ∧
    (∀ {first second : Turn} {between : List Turn} {definition again : Definition},
      first.command.definition? = some definition → second.command.definition? = some again →
      again.id = definition.id →
      (∀ turn ∈ between, turn.command ≠ .release definition.id) →
      (((engine.take setup first).2.afterTurns setup between).controllerFor
        (second.setup setup) again).1 =
          (engine.controllerFor (first.setup setup) definition).1) ∧
    engine.stats.compiled + engine.stats.failed ≤ engine.stats.tracked ∧
    ((∀ field, ∑ key ∈ functions, engine.countOf field key < UInt64.size) →
      ∃ totals, engine.stats.totals = some totals ∧
        (∀ field, totals.get field = ∑ key ∈ functions, engine.countOf field key) ∧
        engine.stats.compiled = totals.completed ∧ engine.stats.failed = totals.failed ∧
        totals.scheduled ≤ engine.stats.tracked) ∧
    (∀ turn, turn.command.Detached engine → (engine.take setup turn).2.stats = engine.stats) ∧
    ∀ {key : DefinitionId} {id : ControllerId}, engine.tracked? key = some id →
      ∀ compiler rest, ((engine.take setup ⟨compiler, .release key⟩).2.afterTurns setup
        rest).Unlisted id := by
  intro engine functions
  have tracks : Tracks functions engine := begins.tracks.afterTurns setup turns
  have registered : engine.Registered := begins.registered_afterTurns turns
  have orderly : Orderly setup.policy engine := (begins.sound.afterTurns turns).orderly
  obtain ⟨completed, failed, bounded, scheduled⟩ := orderly.sum_promotions
  refine ⟨tracks.card, registered.length.trans tracks.card, ?_, ?_, ?_, bounded, ?_,
    fun turn detached => detached.stats_take setup, ?_⟩
  · intro key member
    obtain ⟨id, tracked⟩ := Option.isSome_iff_exists.mp ((tracks.isSome_iff key).mpr member)
    obtain ⟨controller, found, its⟩ := registered (registered_of_tracked tracked)
    exact ⟨id, controller, tracked, found, its⟩
  · intro compiler key
    have answer : (engine.tracked? key).isSome = decide (key ∈ functions) :=
      Bool.eq_iff_iff.mpr ((tracks.isSome_iff key).trans decide_eq_true_iff.symm)
    exact congrArg Answer.released answer
  · intro first second between definition again firstLooks secondLooks same keeps
    have kept := (tracks.keyed.take setup first).tracked?_afterTurns
      (tracked?_lookup setup engine firstLooks) setup keeps
    exact controllerFor_tracked _ (same ▸ kept)
  · intro fits
    -- No sum overflows, so the totals are the exact sums, and two of them count states.
    refine ⟨_, tracks.totals registered fits, Counters.get_ofCounts _, ?_, ?_, ?_⟩
    · exact completed.symm.trans (tracks.sum registered .completed)
    · exact failed.symm.trans (tracks.sum registered .failed)
    · exact (tracks.sum registered .scheduled).symm.trans_le scheduled
  · intro key id tracked compiler rest
    have existing : id < engine.controllers.size := by
      obtain ⟨controller, found, -⟩ := registered (registered_of_tracked tracked)
      exact (Array.getElem?_eq_some_iff.mp found).1
    exact (registered.unlisted_release tracked).afterTurns existing rest

theorem stats_exact_tally :
    let turns : List Turn := [
      ⟨.reference none, .newCell (.int 40)⟩,
      ⟨.reference none, .bind .tally (some [0])⟩,
      ⟨.reference none, .invoke 0 [.int 2]⟩, ⟨.reference none, .runNext 0⟩]
    let engine := plain.afterTurns (eager (.reference none)) turns
    Begins plain ∧ lookedUp turns = {0} ∧ engine.registry.length = 1 ∧
      ∃ totals, engine.stats.totals = some totals ∧ totals.scheduled ≤ engine.stats.tracked ∧
        engine.stats.compiled = totals.completed ∧
        totals.completed = engine.countOf .completed 0 ∧ engine.countOf .completed 0 = 1 := by
  intro turns engine
  have begins : Begins plain := .installed .shared false
  have functions : lookedUp turns = {0} := by decide
  obtain ⟨tracked, -, -, -, -, -, totals, -, -⟩ :=
    @stats_exact (eager (.reference none)) plain begins turns
  rw [functions] at tracked totals
  obtain ⟨totals, present, sums, compiled, -, scheduled⟩ := totals (by
    intro field
    rw [Finset.sum_singleton]
    cases field <;> decide +kernel)
  refine ⟨begins, functions, tracked, totals, present, scheduled, compiled, ?_,
    by decide +kernel⟩
  exact (sums .completed).trans (Finset.sum_singleton ..)

end HotPath.Engine

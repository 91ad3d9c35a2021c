import HotPath.Proofs.Tier.Reduction

/-!
Functions do not influence each other's tiering. A run reduced to one controller keeps what is done
with it, the drains and the changes of scheduler; the controller and its handles fare in it as they
do in the whole run.
-/

namespace HotPath.Engine

/-! ## Reduced runs -/

def acquired (setup : Setup) (id : ControllerId) (engine : Engine) (turn : Turn) : List HandleId :=
  ((engine.bindings setup turn).filter (·.2 == id)).map (·.1)

/-- Whether a turn is about a controller, which owns some handles, or about no controller in
particular, like drains, schedulers and the memory of the host. -/
def concerns (setup : Setup) (id : ControllerId) (own : List HandleId) (engine : Engine)
    (turn : Turn) : Bool :=
  match turn.command with
  | .track definition | .bind definition _ | .compileNow definition =>
    (engine.controllerFor (turn.setup setup) definition).1 == id
  | .release key => engine.tracked? key == some id
  | .invoke target _ | .call target _ | .dropHandle target => own.contains target
  | .hold its | .unhold its | .bindHeld its _ | .compileHeld its | .countHeld its => its == id
  | .runNext scheduler => (engine.waiting scheduler).head? == some id
  | .runPending | .useScheduler .. | .reinstall .. => true
  | .newCell _ | .writeCell .. | .newBox _ | .writeBox .. => true

/-- A command about a controller, as it is given to an engine in which the controller has the
number zero and its handles go by their places. -/
def Command.renumbered (own : List HandleId) : Command → Command
  | .invoke target args => .invoke (own.idxOf target) args
  | .call target args => .call (own.idxOf target) args
  | .dropHandle target => .dropHandle (own.idxOf target)
  | .hold _ => .hold 0
  | .unhold _ => .unhold 0
  | .bindHeld _ closure => .bindHeld 0 closure
  | .compileHeld _ => .compileHeld 0
  | .countHeld _ => .countHeld 0
  | command => command

/-- A run without the turns about other controllers. -/
def reduced (setup : Setup) (id : ControllerId) : Engine → List HandleId → List Turn → List Turn
  | _, _, [] => []
  | engine, own, turn :: rest =>
    let kept := if engine.concerns setup id own turn then
      [{ turn with command := turn.command.renumbered own }] else []
    kept ++ reduced setup id (engine.take setup turn).2 (own ++ engine.acquired setup id turn) rest

variable {id : ControllerId} {own : List HandleId} {engine lone : Engine} {setup setup' : Setup}

theorem reduced_append (setup : Setup) (id : ControllerId) (engine : Engine)
    (own : List HandleId) (first second : List Turn) :
    engine.reduced setup id own (first ++ second) =
      engine.reduced setup id own first ++
        (engine.afterTurns setup first).reduced setup id
          (own ++ engine.history setup (acquired setup id) first) second := by
  induction first generalizing engine own with
  | nil => simp [reduced, history, afterTurns]
  | cons turn rest inductionHypothesis =>
    rw [List.cons_append, reduced, inductionHypothesis, reduced, history, List.append_assoc,
      List.append_assoc]
    rfl

/-! ## Turns about other controllers -/

theorem acquired_of_other {turn : Turn}
    (apart : ∀ binder ∈ engine.binder? (turn.setup setup) turn.command, binder.1 ≠ id) :
    engine.acquired setup id turn = [] := by
  unfold acquired bindings
  split
  · rename_i binds _
    simpa using apart _ binds
  · rfl

/-- A turn about other controllers passes a controller by, and makes no handle for it. -/
theorem Reduces.aside_take (reduces : Reduces id own engine lone) (keyed : engine.Keyed)
    {turn : Turn} (apart : engine.concerns setup id own turn = false) :
    Aside id own engine (engine.take setup turn).2 ∧ engine.acquired setup id turn = [] := by
  -- A command that does not concern the function names another controller, or a foreign handle.
  have foreign {target : HandleId} (listed : own.contains target = false) : target ∉ own := by
    simpa using listed
  obtain ⟨compiler, command⟩ := turn
  cases command with
  | track definition =>
    have other := ne_of_beq_false apart
    exact ⟨aside_controllerFor _ engine own other, rfl⟩
  | bind definition closure =>
    have other := ne_of_beq_false apart
    refine ⟨aside_bind _ engine reduces.made other closure, acquired_of_other ?_⟩
    rintro _ ⟨⟩
    exact other
  | compileNow definition =>
    have other := ne_of_beq_false apart
    exact ⟨(aside_controllerFor _ engine own other).trans (aside_compile _ _ own other), rfl⟩
  | release key => exact ⟨keyed.aside_release own (ne_of_beq_false apart), rfl⟩
  | invoke target args | call target args =>
    refine ⟨?_, rfl⟩
    simp only [take, perform]
    cases holder : engine.handle? target with
    | none => exact .refl id own engine
    | some handle =>
      have others : handle.controller? ≠ some id :=
        fun refers => foreign apart ((reduces.owned holder refers).mp rfl)
      exact aside_invoke _ engine (foreign apart) holder others args
  | dropHandle target => exact ⟨.dropHandle (foreign apart), rfl⟩
  | hold its =>
    refine ⟨?_, rfl⟩
    simp only [take, perform]
    split
    · exact .hold (ne_of_beq_false apart)
    · exact .refl id own engine
  | unhold its => exact ⟨.unhold (ne_of_beq_false apart), rfl⟩
  | bindHeld its closure =>
    have other := ne_of_beq_false apart
    refine ⟨?_, acquired_of_other ?_⟩
    · simp only [take, perform]
      split
      · exact aside_bindController _ engine reduces.made other _ closure
      · exact .refl id own engine
    · intro binder member
      obtain ⟨_, -, rfl⟩ := Option.map_eq_some_iff.mp member
      exact other
  | compileHeld its =>
    refine ⟨?_, rfl⟩
    simp only [take, perform]
    split
    · exact aside_compile _ engine own (ne_of_beq_false apart)
    · exact .refl id own engine
  | countHeld its =>
    refine ⟨?_, rfl⟩
    simp only [take, perform]
    split
    · exact aside_recordCall _ engine own (ne_of_beq_false apart)
    · exact .refl id own engine
  | runNext scheduler =>
    have first : (engine.waiting scheduler).head? ≠ some id := ne_of_beq_false apart
    refine ⟨?_, rfl⟩
    simp only [take, perform, runNext]
    cases tasks : engine.waiting scheduler with
    | nil => exact .refl id own engine
    | cons task rest =>
      have other : task ≠ id := by simpa [tasks] using first
      exact (Aside.dropTask first).trans (aside_runTask _ _ own other)
  | runPending | useScheduler | reinstall | newCell | writeCell | newBox | writeBox => cases apart

/-! ## Turns about the controller -/

namespace Reduces

theorem runNext (reduces : Reduces id own engine lone) (agrees : setup.Agrees setup')
    {scheduler : SchedulerId} (first : (engine.waiting scheduler).head? = some id) :
    Reduces id own (engine.runNext setup scheduler).2 (lone.runNext setup' scheduler).2 := by
  obtain ⟨rest, tasks⟩ := List.head?_eq_some_iff.mp first
  have tasks' : lone.waiting scheduler = 0 :: List.replicate (rest.count id) 0 := by
    rw [reduces.waiting, tasks, List.count_cons_self, List.replicate_succ]
  simp only [Engine.runNext, tasks, tasks']
  exact (reduces.dropTask tasks).runTask ⟨agrees.interprets, agrees.compiler, agrees.policy⟩

theorem runPending (reduces : Reduces id own engine lone) (agrees : setup.Agrees setup') :
    Reduces id own (engine.runPending setup).2 (lone.runPending setup').2 := by
  unfold Engine.runPending
  rw [reduces.drainable]
  cases engine.drainable with
  | none => exact reduces
  | some scheduler =>
    simp only [drain, reduces.waiting scheduler]
    exact reduces.runTasks agrees (List.append_nil _).symm

theorem useScheduler (reduces : Reduces id own engine lone) (kind : SchedulerKind)
    (drained : Bool) :
    Reduces id own (engine.useScheduler setup kind drained)
      (lone.useScheduler setup' kind drained) := by
  unfold Engine.useScheduler
  split
  · exact (reduces.noted _ _ _ _).install kind drained
  · exact reduces.install kind drained

theorem contains_held (reduces : Reduces id own engine lone) :
    lone.held.contains 0 = engine.held.contains id := by
  rw [Bool.eq_iff_iff, List.contains_iff_mem, List.contains_iff_mem, ← List.count_pos_iff,
    reduces.held, List.count_pos_iff]

/-- A bind by the controller adds the handle it makes, if any, to those it owns. -/
theorem take_bind (reduces : Reduces id own engine lone) {turn : Turn}
    (agrees : (turn.setup setup).Agrees (turn.setup setup')) {definition : Definition}
    {closure : Option Binding} (binds : turn.command = .bind definition closure)
    (its : (engine.controllerFor (turn.setup setup) definition).1 = id) :
    Reduces id (own ++ engine.acquired setup id turn) (engine.take setup turn).2
        (lone.take setup' turn).2 ∧
      lone.acquired setup' 0 turn =
        List.range' own.length (engine.acquired setup id turn).length := by
  have alike := reduces.bind agrees its closure
  have its' := (reduces.controllerFor (turn.setup setup') its).1
  unfold acquired bindings Engine.take
  rw [binds]
  simp only [perform, binder?]
  generalize engine.bind (turn.setup setup) definition closure = bound at alike
  generalize lone.bind (turn.setup setup') definition closure = bound' at alike
  cases alike with
  | refused error reduces => simpa using reduces
  | bound reduces => simpa [its, its'] using reduces

theorem take_bindHeld (reduces : Reduces id own engine lone) {compiler : Compiler}
    {closure : Option Binding}
    (agrees : ({ setup with compiler } : Setup).Agrees { setup' with compiler }) :
    let turn : Turn := ⟨compiler, .bindHeld id closure⟩
    let turn' : Turn := ⟨compiler, .bindHeld 0 closure⟩
    Reduces id (own ++ engine.acquired setup id turn) (engine.take setup turn).2
        (lone.take setup' turn').2 ∧
      lone.acquired setup' 0 turn' =
        List.range' own.length (engine.acquired setup id turn).length := by
  intro turn turn'
  simp only [acquired, bindings, Engine.take, perform, binder?, heldController?,
    reduces.contains_held, turn, turn']
  cases engine.held.contains id with
  | false => simpa using reduces
  | true =>
    cases present : engine.controllers[id]? with
    | none => simpa [reduces.missing present] using reduces
    | some controller =>
      obtain ⟨controller', present', same⟩ := reduces.found present
      have alike := reduces.bindController agrees same closure
      simp only [↓reduceIte, present', Option.map_some, Turn.setup]
      generalize engine.bindController _ id controller closure = bound at alike
      generalize lone.bindController _ 0 controller' closure = bound' at alike
      cases alike with
      | refused error reduces => simpa using reduces
      | bound reduces => simpa using reduces

/-- A turn about the controller does the same to the reduct. -/
theorem take (reduces : Reduces id own engine lone) (agrees : setup.Agrees setup')
    {turn : Turn} (about : engine.concerns setup id own turn = true) :
    let turn' : Turn := { turn with command := turn.command.renumbered own }
    Reduces id (own ++ engine.acquired setup id turn) (engine.take setup turn).2
        (lone.take setup' turn').2 ∧
      lone.acquired setup' 0 turn' =
        List.range' own.length (engine.acquired setup id turn).length := by
  obtain ⟨compiler, command⟩ := turn
  have agrees : (Turn.setup ⟨compiler, command⟩ setup).Agrees
      (Turn.setup ⟨compiler, command⟩ setup') := ⟨agrees.interprets, rfl, agrees.policy⟩
  have listed {target : HandleId} (owns : own.contains target = true) :
      own[own.idxOf target]? = some target :=
    List.getElem?_idxOf (List.contains_iff_mem.mp owns)
  -- Only a bind makes a handle.
  have unbound {turn : Turn} {next next' : Engine} (none : engine.acquired setup id turn = [])
      (reduces : Reduces id own next next') :
      Reduces id (own ++ engine.acquired setup id turn) next next' := by
    rwa [none, List.append_nil]
  cases command with
  | bind definition closure => exact reduces.take_bind agrees rfl (eq_of_beq about)
  | track definition => exact ⟨unbound rfl (reduces.controllerFor _ (eq_of_beq about)).2, rfl⟩
  | compileNow definition =>
    obtain rfl := eq_of_beq about
    obtain ⟨its, tracked⟩ := reduces.controllerFor { setup' with compiler } rfl
    have compiled := (tracked.compile agrees).2
    rw [← its] at compiled
    exact ⟨unbound rfl compiled, rfl⟩
  | release key => exact ⟨unbound rfl (reduces.release key), rfl⟩
  | invoke target args | call target args =>
    refine ⟨unbound rfl ?_, rfl⟩
    simp only [Engine.take, perform, Command.renumbered, reduces.handles (listed about)]
    cases holder : engine.handle? target with
    | none => exact reduces
    | some handle => exact reduces.invoke agrees (listed about) holder args
  | dropHandle target => exact ⟨unbound rfl (reduces.setHandle (listed about) (by simp)), rfl⟩
  | hold its =>
    obtain rfl := eq_of_beq about
    refine ⟨unbound rfl ?_, rfl⟩
    simp only [Engine.take, perform, Command.renumbered, reduces.isLive]
    split
    · exact reduces.hold
    · exact reduces
  | unhold its =>
    obtain rfl := eq_of_beq about
    exact ⟨unbound rfl reduces.unhold, rfl⟩
  | bindHeld its closure =>
    obtain rfl := eq_of_beq about
    exact reduces.take_bindHeld agrees
  | compileHeld its =>
    obtain rfl := eq_of_beq about
    refine ⟨unbound rfl ?_, rfl⟩
    simp only [Engine.take, perform, Command.renumbered, reduces.contains_held]
    split
    · exact (reduces.compile agrees).2
    · exact reduces
  | countHeld its =>
    obtain rfl := eq_of_beq about
    refine ⟨unbound rfl ?_, rfl⟩
    simp only [Engine.take, perform, Command.renumbered, reduces.contains_held]
    split
    · exact reduces.recordCall agrees
    · exact reduces
  | runNext scheduler => exact ⟨unbound rfl (reduces.runNext agrees (eq_of_beq about)), rfl⟩
  | runPending => exact ⟨unbound rfl (reduces.runPending agrees), rfl⟩
  | useScheduler kind drained => exact ⟨unbound rfl (reduces.useScheduler kind drained), rfl⟩
  | reinstall scheduler drained =>
    refine ⟨unbound rfl ?_, rfl⟩
    simp only [Engine.take, perform, Command.renumbered, reduces.schedulers]
    split
    · exact reduces.reinstall scheduler drained
    · exact reduces
  | newCell | writeCell | newBox | writeBox => exact ⟨unbound rfl (reduces.noted _ _ _ _), rfl⟩

end Reduces

/-! ## Runs -/

theorem Keyed.take (keyed : engine.Keyed) (setup : Setup) (turn : Turn) :
    (engine.take setup turn).2.Keyed :=
  (take_moves setup engine turn).keeps Keyed (fun move before => before.move move) keyed

/-- A reduced run leads from the reduct of an engine to the reduct of the engine that the
whole run leads to, and makes the handles of the controller in their order. -/
theorem Reduces.afterTurns (reduces : Reduces id own engine lone) (keyed : engine.Keyed)
    (agrees : setup.Agrees setup') (turns : List Turn) :
    let kept := engine.reduced setup id own turns
    let made := engine.history setup (acquired setup id) turns
    Reduces id (own ++ made) (engine.afterTurns setup turns) (lone.afterTurns setup' kept) ∧
      lone.history setup' (acquired setup' 0) kept = List.range' own.length made.length := by
  -- The handles made so far are general: a later call is kept only if its handle is among them.
  induction turns generalizing engine lone own with
  | nil => simp [reduced, history, Engine.afterTurns, reduces]
  | cons turn rest inductionHypothesis =>
    cases about : engine.concerns setup id own turn with
    | true =>
      obtain ⟨taken, made⟩ := reduces.take agrees about
      obtain ⟨later, places⟩ := inductionHypothesis taken (keyed.take setup turn)
      simp only [reduced, about, ↓reduceIte, history, List.cons_append, List.nil_append]
      refine ⟨?_, ?_⟩
      · rw [← List.append_assoc]
        exact later
      · rw [made, places, List.length_append, List.length_append]
        simp [List.range'_append_1]
    | false =>
      obtain ⟨passed, none⟩ := reduces.aside_take keyed about
      obtain ⟨later, places⟩ := inductionHypothesis (reduces.aside passed) (keyed.take setup turn)
      simp only [reduced, about, Bool.false_eq_true, ↓reduceIte, history, none,
        List.append_nil, List.nil_append]
      exact ⟨later, places⟩

theorem Begins.reduces {begun : Engine} (begins : Begins begun) (id : ControllerId) :
    Reduces id [] begun begun := by
  induction begins with
  | installed kind drained =>
    have empty (scheduler : SchedulerId) : (({} : Engine).install kind drained).waiting scheduler =
        [] := waiting_install kind drained scheduler
    exact {
      controller := rfl
      single := Nat.zero_le 1
      registry := fun key its => by simp [install]
      handles := by simp
      size := rfl
      made := by simp
      distinct := List.nodup_nil
      owned := fun found => by simp [handle?, install] at found
      held := rfl
      waiting := fun scheduler => by rw [empty, List.count_nil, List.replicate_zero]
      schedulers := rfl
      current := rfl
      drainable := rfl }
  | logged _ _ _ reduces => exact reduces.noted _ _ _ _

/-- How a controller fares, apart from times, with the states of its handles; a dropped one has
none. -/
structure Standing where
  controller : Option Controller
  handles : List (Option HandleState)

def standing (engine : Engine) (id : ControllerId) (own : List HandleId) : Standing where
  controller := (engine.controllers[id]?).map Controller.untimed
  handles := own.map fun target => (engine.handle? target).map engine.handleState

def handlesMade (setup : Setup) (begun : Engine) (id : ControllerId) (turns : List Turn) :
    List HandleId :=
  begun.history setup (acquired setup id) turns

/-- How a controller and the handles made for it fare after a run. -/
def fares (setup : Setup) (begun : Engine) (id : ControllerId) (turns : List Turn) : Standing :=
  (begun.afterTurns setup turns).standing id (begun.handlesMade setup id turns)

theorem Reduces.handleState (reduces : Reduces id own engine lone) {target : HandleId}
    (member : target ∈ own) {handle : Handle} (holder : engine.handle? target = some handle) :
    lone.handleState handle.renumbered = engine.handleState handle := by
  obtain ⟨definition, dispatch⟩ := handle
  cases dispatch with
  | compiled entry => rfl
  | interpreted its closure link =>
    obtain rfl := (reduces.owned holder rfl).mpr member
    cases link with
    | switched | pinned => rfl
    | unresolved =>
      have promotions := congrArg (Option.map Controller.promotion) reduces.controller
      simp only [Option.map_map] at promotions
      have same : (lone.controllers[0]?).map Controller.promotion =
          (engine.controllers[its]?).map Controller.promotion := promotions
      simp only [Engine.handleState, Handle.renumbered, same]

theorem Reduces.standing (reduces : Reduces id own engine lone) :
    lone.standing 0 (List.range' 0 own.length) = engine.standing id own := by
  have states : (List.range' 0 own.length).map (fun place =>
        (lone.handle? place).map lone.handleState) =
      own.map fun target => (engine.handle? target).map engine.handleState := by
    apply List.ext_getElem
    · simp
    · intro place _ inside
      have inside : place < own.length := by simpa using inside
      rw [List.getElem_map, List.getElem_map, List.getElem_range', Nat.one_mul, Nat.zero_add,
        reduces.handles (List.getElem?_eq_getElem inside), Option.map_map]
      cases holder : engine.handle? own[place] with
      | none => rfl
      | some handle => exact congrArg some (reduces.handleState (List.getElem_mem inside) holder)
  rw [Engine.standing, Engine.standing, reduces.controller, states]

/-- A controller and its handles fare in a run as they do in the run reduced to the turns about
it, and a turn that is left out changes nothing of theirs. -/
theorem functions_independent {begun : Engine} (begins : Begins begun)
    (agrees : setup.Agrees setup') (id : ControllerId) (turns : List Turn) :
    let own := begun.handlesMade setup id turns
    let engine := begun.afterTurns setup turns
    let kept := begun.reduced setup id [] turns
    (begun.fares setup' 0 kept = begun.fares setup id turns ∧
      (begun.afterTurns setup' kept).controllers.size ≤ 1) ∧
    ∀ turn,
      (engine.concerns setup id own turn = true →
        begun.reduced setup id [] (turns ++ [turn]) =
          kept ++ [{ turn with command := turn.command.renumbered own }]) ∧
      (engine.concerns setup id own turn = false →
        begun.reduced setup id [] (turns ++ [turn]) = kept ∧
          Aside id own engine (begun.afterTurns setup (turns ++ [turn]))) := by
  intro own engine kept
  obtain ⟨reduces, places⟩ := (begins.reduces id).afterTurns begins.keyed agrees turns
  rw [List.nil_append] at reduces
  have extended (turn : Turn) : begun.reduced setup id [] (turns ++ [turn]) =
      kept ++ engine.reduced setup id own [turn] :=
    reduced_append setup id begun [] turns [turn]
  refine ⟨⟨?_, reduces.single⟩, fun turn => ⟨fun about => ?_, fun apart => ⟨?_, ?_⟩⟩⟩
  · rw [fares, handlesMade, places]
    exact reduces.standing
  · rw [extended, reduced, if_pos about, reduced, List.append_nil]
  · rw [extended, reduced, apart]
    exact List.append_nil kept
  · have keyed : engine.Keyed :=
      turns_keep Keyed (fun turn _ _ before => before.take setup turn) begins.keyed
    rw [afterTurns_append]
    exact (reduces.aside_take keyed apart).1

theorem functions_independent_tally :
    let begun := ({} : Engine).install .deferred true
    let setup := eager (.reference none)
    let other : Definition :=
      { id := 1, draft := { Definition.tally.draft with name := "other" }, sound := by decide }
    let crashing := (Compiler.reference none).sabotaged fun name =>
      if name = "tally" then some .crash else none
    let turns : List Turn := [
      ⟨.reference none, .newCell (.int 40)⟩,
      ⟨.reference none, .bind .tally (some [0])⟩,
      ⟨.reference none, .bind other (some [0])⟩,
      ⟨.reference none, .invoke 0 [.int 2]⟩, ⟨.reference none, .invoke 1 [.int 3]⟩,
      ⟨crashing, .runPending⟩, ⟨.reference none, .invoke 1 [.int 1]⟩]
    let release : Turn := ⟨.reference none, .release 0⟩
    (((begun.afterTurns setup turns).controllers[0]?).map (·.promotion) = some .failed ∧
      (begun.fares setup 1 turns).handles = [some .warm] ∧
      (begun.reduced setup 1 [] turns).length = 5) ∧
    begun.fares setup 0 (begun.reduced setup 1 [] turns) = begun.fares setup 1 turns ∧
    (begun.afterTurns setup (turns ++ [release])).controllers[1]? =
      (begun.afterTurns setup turns).controllers[1]? := by
  intro begun setup other crashing turns release
  have begins : Begins begun := .installed .deferred true
  have agrees : setup.Agrees setup := ⟨rfl, rfl, rfl⟩
  obtain ⟨⟨fares, -⟩, turns⟩ := functions_independent begins agrees 1 turns
  obtain ⟨-, apart⟩ := turns ⟨.reference none, .release 0⟩
  obtain ⟨-, aside⟩ := apart (by decide +kernel)
  exact ⟨⟨by decide +kernel, by decide +kernel, by decide +kernel⟩, fares, aside.controller⟩

end HotPath.Engine

import HotPath.Proofs.Tier.Draining

/-!
The states that a handle shows its host. They only advance, from cold over pending to warm, with one
exception: a pending handle turns cold when compiling its function fails or when the code does not
fit it, and then stays cold.
-/

namespace HotPath

/-- A handle that calls compiled code is warm, and no other. -/
theorem Engine.handleState_warm_iff {engine : Engine} {handle : Handle} :
    engine.handleState handle = .warm ↔
      handle.isCompiled = true ∨ handle.hasSwitched = true := by
  obtain ⟨definition, dispatch⟩ := handle
  cases dispatch with
  | compiled entry => simp [handleState, Handle.isCompiled]
  | interpreted id closure link =>
    cases link with
    | switched entry => simp [handleState, Handle.hasSwitched]
    | pinned => simp [handleState, Handle.isCompiled, Handle.hasSwitched]
    | unresolved =>
      simp only [handleState, Handle.isCompiled, Handle.hasSwitched]
      split <;> simp

namespace Engine

/-- A handle that stays on the interpreter for good: compiling its function failed, or
the code that it met does not fit its signature. -/
inductive Retired (engine : Engine) : Handle → Prop where
  | failed {definition : Definition} {id : ControllerId} {closure : Option Binding}
      {controller : Controller} (found : engine.controllers[id]? = some controller)
      (failed : controller.promotion = .failed) :
      Retired engine ⟨definition, .interpreted id closure .unresolved⟩
  | pinned {definition : Definition} {id : ControllerId} {closure : Option Binding}
      {controller : Controller} {mismatch : Mismatch}
      (found : engine.controllers[id]? = some controller)
      (misfits : controller.entryFor? closure = some (.error mismatch)) :
      Retired engine ⟨definition, .interpreted id closure .pinned⟩

/-- How a handle may have gone on: its state has not gone back, but for a pending handle
that was retired; and a retired one is still retired. -/
structure Onward (engine : Engine) (handle : Handle) (next : Engine) (later : Handle) : Prop where
  bound : later.isCompiled = handle.isCompiled
  state : (engine.handleState handle).rank ≤ (next.handleState later).rank ∨
    engine.handleState handle = .hotPending ∧ next.handleState later = .cold ∧ next.Retired later
  retired : engine.Retired handle → next.Retired later

section

variable {setup : Setup} {named : Definition → Prop} {asked : ControllerId → Prop}
  {engine next : Engine} {handle later : Handle}

theorem Retired.cold (retired : engine.Retired handle) : engine.handleState handle = .cold := by
  cases retired with
  | failed found failed => simp [handleState, found, failed]
  | pinned => rfl

theorem onward_self (engine : Engine) (handle : Handle) : engine.Onward handle engine handle :=
  ⟨rfl, .inl (Nat.le_refl _), id⟩

theorem Onward.trans {last : Engine} {final : Handle} (first : engine.Onward handle next later)
    (second : next.Onward later last final) : engine.Onward handle last final where
  bound := second.bound.trans first.bound
  retired before := second.retired (first.retired before)
  state := by
    rcases first.state with advanced | ⟨pending, -, retired⟩
    · rcases second.state with advanced' | ⟨pending', cold, retired⟩
      · exact .inl (Nat.le_trans advanced advanced')
      · cases before : engine.handleState handle with
        | cold => exact .inl (Nat.zero_le _)
        | hotPending => exact .inr ⟨rfl, cold, retired⟩
        | warm =>
          rw [before, pending'] at advanced
          exact absurd advanced (by decide)
    · have retired := second.retired retired
      exact .inr ⟨pending, retired.cold, retired⟩

/-- A handle that has not met any code is pending while its function is scheduled or
compiled, and cold otherwise. -/
theorem handleState_unresolved {definition : Definition} {id : ControllerId}
    {closure : Option Binding} {controller : Controller}
    (found : engine.controllers[id]? = some controller) :
    engine.handleState ⟨definition, .interpreted id closure .unresolved⟩ =
      if controller.promotion = .scheduled ∨ controller.promotion = .compiled then .hotPending
      else .cold := by
  simp only [handleState, found, Option.map_some]
  cases controller.promotion <;> simp

theorem Orderly.compiled_of_entry {policy : Policy} (orderly : Orderly policy engine)
    {id : ControllerId} {controller : Controller}
    (found : engine.controllers[id]? = some controller) {closure : Option Binding}
    {entered : Except Mismatch CompiledEntry}
    (entry : controller.entryFor? closure = some entered) : controller.promotion = .compiled := by
  obtain ⟨code, published⟩ := Controller.published_of_entry entry
  exact (orderly.coherent found).published.mp (by simp [published])

/-- A handle that has not met any code follows the promotion of its function. -/
theorem onward_unresolved {definition : Definition} {id : ControllerId}
    {closure : Option Binding} {controller changed : Controller}
    (found : engine.controllers[id]? = some controller)
    (present : next.controllers[id]? = some changed)
    (advances : controller.promotion.Advances changed.promotion) :
    engine.Onward ⟨definition, .interpreted id closure .unresolved⟩ next
      ⟨definition, .interpreted id closure .unresolved⟩ := by
  have before : engine.handleState ⟨definition, .interpreted id closure .unresolved⟩ = _ :=
    handleState_unresolved found
  have after : next.handleState ⟨definition, .interpreted id closure .unresolved⟩ = _ :=
    handleState_unresolved present
  generalize was : controller.promotion = earlier at advances before
  generalize now : changed.promotion = promotion at advances after
  refine ⟨rfl, ?_, fun retired => ?_⟩
  · rw [before, after]
    cases advances with
    | stays => exact .inl (Nat.le_refl _)
    | schedules => exact .inl (Nat.zero_le _)
    | compiles pending => exact .inl (by rcases pending with rfl | rfl <;> decide)
    | fails pending =>
      rcases pending with rfl | rfl
      · exact .inl (Nat.le_refl _)
      · exact .inr ⟨rfl, rfl, .failed present now⟩
  · cases retired with
    | failed found' failed =>
      cases found.symm.trans found'
      cases was.symm.trans failed
      cases advances with
      | stays => exact .failed present now
      | compiles pending | fails pending => simp at pending

/-- A handle that meets published code was pending, and is warm or retired from then on. -/
theorem onward_settled {policy : Policy} (orderly : Orderly policy engine)
    {definition : Definition} {id : ControllerId} {closure : Option Binding} {link : Link}
    {controller changed : Controller} (found : engine.controllers[id]? = some controller)
    (present : next.controllers[id]? = some changed)
    (settles : controller.Settles closure link) (met : link ≠ .unresolved)
    (settles' : changed.Settles closure link) :
    engine.Onward ⟨definition, .interpreted id closure .unresolved⟩ next
      ⟨definition, .interpreted id closure link⟩ := by
  have before : engine.handleState ⟨definition, .interpreted id closure .unresolved⟩ = _ :=
    handleState_unresolved found
  have compiled : controller.promotion = .compiled := by
    cases link with
    | unresolved => exact absurd rfl met
    | switched entry => exact orderly.compiled_of_entry found settles
    | pinned =>
      obtain ⟨mismatch, misfits⟩ := settles
      exact orderly.compiled_of_entry found misfits
  have pending : engine.handleState ⟨definition, .interpreted id closure .unresolved⟩ =
      .hotPending := by simp [before, compiled]
  refine ⟨rfl, ?_, fun retired => ?_⟩
  · cases link with
    | unresolved => exact absurd rfl met
    | switched entry =>
      rw [pending]
      exact .inl (by simp [handleState, HandleState.rank])
    | pinned =>
      obtain ⟨mismatch, misfits⟩ := settles'
      exact .inr ⟨pending, rfl, .pinned present misfits⟩
  · cases retired.cold.symm.trans pending

theorem Move.onward (move : Move setup named asked engine next)
    (orderly : Orderly setup.policy engine) (linked : engine.Linked) {target : HandleId}
    (old : target < engine.handles.size) (holder : next.handle? target = some later) :
    ∃ handle, engine.handle? target = some handle ∧ engine.Onward handle next later := by
  rcases move.old_handle old holder with same |
    ⟨definition, id, closure, link, controller, was, rfl, found, settles⟩
  · refine ⟨later, same, ?_⟩
    obtain ⟨definition, dispatch⟩ := later
    cases dispatch with
    | compiled entry => exact ⟨rfl, .inl (Nat.le_refl _), nofun⟩
    | interpreted id closure link =>
      obtain ⟨-, controller, found, -, -⟩ := linked same
      obtain ⟨changed, present, change⟩ := move.controller_change found
      cases link with
      | unresolved =>
        exact onward_unresolved found present ((orderly.coherent found).advances change)
      | switched entry => exact ⟨rfl, .inl (Nat.le_refl _), nofun⟩
      | pinned =>
        refine ⟨rfl, .inl (Nat.le_refl _), fun retired => ?_⟩
        cases retired with
        | pinned found' misfits =>
          cases found.symm.trans found'
          exact .pinned present (change.entryFor? misfits)
  · refine ⟨_, was, ?_⟩
    obtain ⟨changed, present, change⟩ := move.controller_change found
    by_cases met : link = .unresolved
    · subst met
      exact onward_unresolved found present ((orderly.coherent found).advances change)
    · exact onward_settled orderly found present settles met (change.settles settles)

/-- Whatever handle a place holds now has gone on from the one it held. -/
def Follows (engine : Engine) (target : HandleId) (handle : Handle) (next : Engine) : Prop :=
  target < next.handles.size ∧
    ∀ later, next.handle? target = some later → engine.Onward handle next later

theorem Follows.move {began : Engine} {target : HandleId}
    (follows : began.Follows target handle engine) (orderly : Orderly setup.policy engine)
    (linked : engine.Linked) (move : Move setup named asked engine next) :
    began.Follows target handle next := by
  refine ⟨Nat.lt_of_lt_of_le follows.1 move.size_handles, fun later holder => ?_⟩
  obtain ⟨between, held, onward⟩ := move.onward orderly linked follows.1 holder
  exact (follows.2 between held).trans onward

theorem Follows.take {began : Engine} {target : HandleId}
    (follows : began.Follows target handle engine) (sound : Sound setup.policy engine)
    (turn : Turn) : began.Follows target handle (engine.take setup turn).2 := by
  have moves := take_moves setup engine turn
  have orderly : Orderly (turn.setup setup).policy engine := sound.orderly
  refine (moves.keeps (fun next => Orderly (turn.setup setup).policy next ∧ next.Linked ∧
    began.Follows target handle next) ?_ ⟨orderly, sound.linked, follows⟩).2.2
  rintro before after move ⟨orderly, linked, earlier⟩
  exact ⟨orderly.move move, linked.move move, earlier.move orderly linked move⟩

theorem Sound.follows (sound : Sound setup.policy engine) {target : HandleId}
    (holder : engine.handle? target = some handle) (rest : List Turn) :
    engine.Follows target handle (engine.afterTurns setup rest) := by
  have initially : engine.Follows target handle engine := by
    refine ⟨lt_size_of_handle holder, fun later holder' => ?_⟩
    cases holder.symm.trans holder'
    exact onward_self engine handle
  refine (turns_keep (fun next => Sound setup.policy next ∧ engine.Follows target handle next)
    ?_ ⟨sound, initially⟩).2
  rintro turn - next ⟨sound, follows⟩
  exact ⟨sound.take turn, follows.take sound turn⟩

/-! ## Runs of compiled code -/

/-- Compiled code has served a call of a handle. -/
def HasEntered (engine : Engine) (target : HandleId) : Prop :=
  ∃ shape adapted, Event.entered target shape adapted ∈ engine.services

/-- The handles that have switched are those, of the ones bound to the interpreter, whose
calls compiled code has served. -/
structure Dispatched (engine : Engine) : Prop where
  made : ∀ {target : HandleId}, engine.HasEntered target → target < engine.handles.size
  switched : ∀ {target : HandleId} {handle : Handle}, engine.handle? target = some handle →
    handle.isCompiled = false → (handle.hasSwitched = true ↔ engine.HasEntered target)

theorem hasEntered_of_services (same : next.services = engine.services) (target : HandleId) :
    next.HasEntered target ↔ engine.HasEntered target := by
  rw [HasEntered, same, HasEntered]

theorem hasEntered_interpreted {caller : HandleId} {id : ControllerId}
    (services : next.services = engine.services ++ [.interpreted caller id]) (target : HandleId) :
    next.HasEntered target ↔ engine.HasEntered target := by
  simp [HasEntered, services]

theorem hasEntered_entered {caller : HandleId} {shape : Shape} {adapted : Bool}
    (services : next.services = engine.services ++ [.entered caller shape adapted])
    (target : HandleId) :
    next.HasEntered target ↔ engine.HasEntered target ∨ target = caller := by
  constructor
  · rintro ⟨shape', adapted', member⟩
    rw [services] at member
    rcases List.mem_append.mp member with earlier | last
    · exact .inl ⟨shape', adapted', earlier⟩
    · cases List.mem_singleton.mp last
      exact .inr rfl
  · rintro (⟨shape', adapted', earlier⟩ | rfl)
    · exact ⟨shape', adapted', services ▸ List.mem_append_left _ earlier⟩
    · exact ⟨shape, adapted, by simp [services]⟩

/-- A stretch that runs no compiled code, after which every handle is an old one or a new
one that has not switched. -/
theorem Dispatched.keep (dispatched : engine.Dispatched)
    (entered : ∀ target, next.HasEntered target ↔ engine.HasEntered target)
    (size : engine.handles.size ≤ next.handles.size)
    (handles : ∀ target handle, next.handle? target = some handle →
      engine.handle? target = some handle ∨
        ¬ engine.HasEntered target ∧ handle.hasSwitched = false) : next.Dispatched := by
  constructor
  · intro target ran
    exact Nat.lt_of_lt_of_le (dispatched.made ((entered target).mp ran)) size
  · intro target handle holder interpreted
    rw [entered]
    rcases handles target handle holder with old | ⟨unentered, unswitched⟩
    · exact dispatched.switched old interpreted
    · simp [unswitched, unentered]

theorem Dispatched.bound {id : ControllerId} {closure : Option Binding}
    {result : Except BindError HandleId × Engine} (dispatched : engine.Dispatched)
    (bound : Bound engine id closure result) : result.2.Dispatched := by
  have fresh : ¬ engine.HasEntered engine.handles.size :=
    fun ran => Nat.lt_irrefl _ (dispatched.made ran)
  have added {ready : Engine} (idle : engine.Idle ready) {handle : Handle}
      (unswitched : handle.hasSwitched = false) : (ready.addHandle handle).2.Dispatched := by
    have services : (ready.addHandle handle).2.services = engine.services := idle.services
    apply dispatched.keep (hasEntered_of_services services)
    · simp [addHandle, idle.size]
    · intro target later holder
      rw [handle?_addHandle] at holder
      split at holder
      · cases holder
        rename_i newest
        rw [newest, idle.size]
        exact .inr ⟨fresh, unswitched⟩
      · exact .inl (idle.handles holder)
  cases bound with
  | refused idle =>
    exact dispatched.keep (hasEntered_of_services idle.services) (Nat.le_of_eq idle.size.symm)
      fun target handle holder => .inl (idle.handles holder)
  | compiled idle | interpreted idle => exact added idle rfl

/-- A handle that calls its code has called it already, or was bound to it. -/
theorem Dispatched.enter (dispatched : engine.Dispatched) {target : HandleId} {handle : Handle}
    {entry : CompiledEntry} (holder : engine.handle? target = some handle)
    (calls : handle.entry? = some entry) (setup : Setup) (args : List Value) :
    (engine.enter setup target entry args).2.Dispatched := by
  have entered := hasEntered_entered (services_enter setup engine target entry args)
  constructor
  · intro other ran
    rcases (entered other).mp ran with earlier | rfl
    · exact dispatched.made earlier
    · exact lt_size_of_handle holder
  · intro other later holder' interpreted
    have same : engine.handle? other = some later := holder'
    rw [entered]
    by_cases its : other = target
    · subst its
      cases holder.symm.trans same
      obtain ⟨definition, dispatch⟩ := handle
      cases dispatch with
      | compiled entry => cases interpreted
      | interpreted id closure link => cases link <;> simp_all [Handle.entry?, Handle.hasSwitched]
    · simpa [its] using dispatched.switched same interpreted

theorem Dispatched.switch (dispatched : engine.Dispatched) {target : HandleId}
    {definition : Definition} {id : ControllerId} {closure : Option Binding}
    (holder : engine.handle? target = some ⟨definition, .interpreted id closure .unresolved⟩)
    (setup : Setup) (entry : CompiledEntry) (args : List Value) :
    ((engine.switchHandle setup target definition id closure entry).enter setup target entry
      args).2.Dispatched := by
  have settled := handle?_switchHandle setup holder definition id closure entry
  have services := services_enter setup
    (engine.switchHandle setup target definition id closure entry) target entry args
  rw [services_switchHandle] at services
  have entered := hasEntered_entered services
  have size : (engine.switchHandle setup target definition id closure entry).handles.size =
      engine.handles.size := Array.size_setIfInBounds ..
  constructor
  · intro other ran
    refine Nat.lt_of_lt_of_eq ?_ size.symm
    rcases (entered other).mp ran with earlier | rfl
    · exact dispatched.made earlier
    · exact lt_size_of_handle holder
  · intro other later holder' interpreted
    have after := settled other
    rw [show (engine.switchHandle setup target definition id closure entry).handle? other =
      some later from holder'] at after
    rw [entered]
    by_cases its : other = target
    · rw [if_pos its] at after
      cases after
      simp [Handle.hasSwitched, its]
    · rw [if_neg its] at after
      simpa [its] using dispatched.switched after.symm interpreted

theorem Dispatched.serve {target : HandleId} {args : List Value} {served : Invocation × Engine}
    (dispatched : engine.Dispatched) (holder : engine.handle? target = some handle)
    (serving : Serving setup engine target handle args served) : served.2.Dispatched := by
  obtain ⟨definition, dispatch⟩ := handle
  cases serving with
  | rejected => exact dispatched
  | entered fits calls => exact dispatched.enter holder calls setup args
  | @interpreted id closure =>
    have services := services_interpret setup engine target id definition closure args
    have handles : (engine.interpret setup target id definition closure args).2.handles =
        engine.handles := handles_recordCall setup engine id
    apply dispatched.keep (hasEntered_interpreted services)
    · exact Nat.le_of_eq (congrArg Array.size handles.symm)
    · intro other later holder'
      rw [handle?, handles] at holder'
      exact .inl holder'
  | @switched id closure controller entry fits unresolved =>
    cases unresolved
    exact dispatched.switch holder setup entry args
  | @pinned id closure controller mismatch fits unresolved =>
    cases unresolved
    have quiet := pinHandle_quiet setup engine target definition id closure mismatch
    have unentered : ¬ engine.HasEntered target := by
      rw [← dispatched.switched holder rfl]
      simp [Handle.hasSwitched]
    apply dispatched.keep (hasEntered_of_services quiet.2.1)
    · exact Nat.le_of_eq (Array.size_setIfInBounds ..).symm
    · intro other later holder'
      have still : (engine.log setup (.misfit definition.name mismatch)).handle? target =
          some ⟨definition, .interpreted id closure .unresolved⟩ := holder
      have pinned : (engine.pinHandle setup target definition id closure mismatch).handle? other =
          _ := handle?_setHandle still _ other
      rw [holder'] at pinned
      split at pinned
      · cases pinned
        subst other
        exact .inr ⟨unentered, rfl⟩
      · exact .inl pinned.symm

theorem Dispatched.take (dispatched : engine.Dispatched) (turn : Turn) :
    (engine.take setup turn).2.Dispatched := by
  generalize result : engine.take setup turn = taken
  have turned := result ▸ turned_take setup engine turn
  cases turned with
  | idle idle =>
    exact dispatched.keep (hasEntered_of_services idle.services) (Nat.le_of_eq idle.size.symm)
      fun target handle holder => .inl (idle.handles holder)
  | bound _ _ bound => exact dispatched.bound bound
  | @counted id =>
    have handles := handles_recordCall (turn.setup setup) engine id
    apply dispatched.keep (hasEntered_of_services (services_recordCall _ engine id))
    · exact Nat.le_of_eq (congrArg Array.size handles.symm)
    · intro target handle holder
      rw [handle?, handles] at holder
      exact .inl holder
  | served calls holder serving => exact dispatched.serve holder serving

theorem Begins.dispatched {begun : Engine} (begins : Begins begun) : begun.Dispatched := by
  have unentered (target : HandleId) : ¬ begun.HasEntered target := by
    simp [HasEntered, begins.blank.services]
  constructor
  · intro target ran
    exact absurd ran (unentered target)
  · intro target handle holder
    simp [handle?, begins.blank.handles] at holder

theorem Begins.dispatched_afterTurns {begun : Engine} (begins : Begins begun) (setup : Setup)
    (turns : List Turn) : (begun.afterTurns setup turns).Dispatched :=
  turns_keep Dispatched (fun turn _ _ before => before.take turn) begins.dispatched

/-- The states of a handle only advance, whatever the compiler does, but for a pending handle that
turns cold for good as it is retired. -/
theorem states_advance {begun engine : Engine} (begins : Begins begun) {turns : List Turn}
    (reached : begun.afterTurns setup turns = engine) {target : HandleId} {handle : Handle}
    (holder : engine.handle? target = some handle) :
    (engine.handleState handle = .warm ↔
      handle.isCompiled = true ∨ engine.HasEntered target) ∧
    (∀ id controller, engine.controllers[id]? = some controller →
      handle.Belongs id controller → controller.promotion = .failed → engine.Retired handle) ∧
    ∀ rest later, (engine.afterTurns setup rest).handle? target = some later →
      later.isCompiled = handle.isCompiled ∧
      ((engine.handleState handle).rank ≤
          ((engine.afterTurns setup rest).handleState later).rank ∨
        engine.handleState handle = .hotPending ∧
          (engine.afterTurns setup rest).handleState later = .cold ∧
          (engine.afterTurns setup rest).Retired later) ∧
      (engine.Retired handle → (engine.afterTurns setup rest).handleState later = .cold) := by
  subst reached
  have sound : Sound setup.policy (begun.afterTurns setup turns) :=
    begins.sound.afterTurns turns
  have dispatched := begins.dispatched_afterTurns setup turns
  refine ⟨?_, ?_, ?_⟩
  · rw [handleState_warm_iff]
    cases bound : handle.isCompiled with
    | true => simp
    | false => simp [dispatched.switched holder bound]
  · intro id controller found belongs failed
    -- A failed controller has no code, so nothing was ever resolved through it.
    have unentered {closure : Option Binding} {entered : Except Mismatch CompiledEntry}
        (entry : controller.entryFor? closure = some entered) : False := by
      cases failed.symm.trans (sound.orderly.compiled_of_entry found entry)
    cases belongs with
    | compiled fits => exact (unentered fits).elim
    | @interpreted closure link settles =>
      cases link with
      | unresolved => exact .failed found failed
      | switched entry => exact (unentered settles).elim
      | pinned =>
        obtain ⟨mismatch, misfits⟩ := settles
        exact (unentered misfits).elim
  · intro rest later holder'
    obtain ⟨bound, state, retired⟩ := (sound.follows holder rest).2 later holder'
    exact ⟨bound, state, fun before => (retired before).cold⟩

end

theorem states_advance_tally :
    ∃ (engine : Engine) (pending : Handle) (crash call : List Turn),
      engine.handle? 0 = some pending ∧ engine.handleState pending = .hotPending ∧
      (∃ cold, (engine.afterTurns (eager (.reference none)) crash).handle? 0 = some cold ∧
        (engine.afterTurns (eager (.reference none)) crash).handleState cold = .cold ∧
        (engine.afterTurns (eager (.reference none)) crash).Retired cold) ∧
      ∃ warm, (engine.afterTurns (eager (.reference none)) call).handle? 0 = some warm ∧
        (engine.afterTurns (eager (.reference none)) call).handleState warm = .warm ∧
        (engine.afterTurns (eager (.reference none)) call).HasEntered 0 := by
  have begins : Begins plain := .installed .shared false
  let crashing := (Compiler.reference none).sabotaged fun _ => some .crash
  let turns : List Turn := [
    ⟨.reference none, .newCell (.int 40)⟩,
    ⟨.reference none, .bind .tally (some [0])⟩,
    ⟨.reference none, .invoke 0 [.int 2]⟩]
  let crash : List Turn := [⟨crashing, .runNext 0⟩]
  let call : List Turn := [
    ⟨.reference none, .runNext 0⟩, ⟨.reference none, .invoke 0 [.int 1]⟩]
  let pending : Handle := ⟨.tally, .interpreted 0 (some [0]) .unresolved⟩
  obtain ⟨engine, reached⟩ :
    ∃ engine, plain.afterTurns (eager (.reference none)) turns = engine := ⟨_, rfl⟩
  have holder : engine.handle? 0 = some pending := reached ▸ rfl
  have waits : engine.handleState pending = .hotPending := by subst reached; decide +kernel
  have stays : (engine.afterTurns (eager (.reference none)) crash).handle? 0 = some pending :=
    reached ▸ rfl
  have fails : (engine.afterTurns (eager (.reference none)) crash).handleState pending = .cold := by
    subst reached; decide +kernel
  have switches : ((engine.afterTurns (eager (.reference none)) call).handle? 0).map
      Handle.hasSwitched = some true := by
    subst reached; decide +kernel
  obtain ⟨warm, holder', switched⟩ := Option.map_eq_some_iff.mp switches
  have reached' : plain.afterTurns (eager (.reference none)) (turns ++ call) =
      engine.afterTurns (eager (.reference none)) call := by rw [afterTurns_append, reached]
  obtain ⟨-, -, later⟩ := states_advance begins reached holder
  obtain ⟨served, -, -⟩ := states_advance begins reached' holder'
  have isWarm : (engine.afterTurns (eager (.reference none)) call).handleState warm = .warm :=
    handleState_warm_iff.mpr (.inr switched)
  refine ⟨engine, pending, crash, call, holder, waits, ⟨pending, stays, fails, ?_⟩,
    warm, holder', isWarm, ?_⟩
  · obtain ⟨-, advanced | ⟨-, -, retired⟩, -⟩ := later crash pending stays
    · rw [waits, fails] at advanced
      exact absurd advanced (by decide)
    · exact retired
  · rcases served.mp isWarm with bound | entered
    · obtain ⟨definition, dispatch⟩ := warm
      cases dispatch with
      | compiled entry => cases switched
      | interpreted => cases bound
    · exact entered

end Engine

end HotPath

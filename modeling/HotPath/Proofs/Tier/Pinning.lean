import HotPath.Proofs.Tier.Accounting
import HotPath.Proofs.Tier.HandleStates
import HotPath.Proofs.Tier.OneHandle

/-!
Code of a wrong shape pins the handle that meets it, and does no other harm. The handle crashes
once, at its first call after the code was published, and is interpreted from then on.
-/

namespace HotPath

/-- The controller with a call counted, unless tiering is off or the limit is reached, and
nothing handed over. -/
def Controller.counting (controller : Controller) (policy : Policy) : Controller :=
  { controller with
    executionCount :=
      if policy.enabled = true ∧ controller.executionCount < maxExecutionCount
      then controller.executionCount + 1 else controller.executionCount }

theorem Definition.hasClosure_of_bound {definition : Definition} {binding : Binding}
    (closes : definition.checkClosure (some binding) = .ok ()) :
    definition.hasClosure = true := by
  unfold checkClosure at closes
  unfold hasClosure
  cases captures : definition.captures with
  | nil => simp [captures] at closes
  | cons name rest => rfl

theorem Controller.Shaped.misfits {controller : Controller} (shaped : controller.Shaped)
    {binding : Binding} (capturing : controller.definition.hasClosure = true)
    (misshapen : ∀ make, controller.published = some (.factory make) →
      (make binding).shape ≠ controller.selection.shape)
    {entered : Except Mismatch CompiledEntry}
    (entry : controller.entryFor? (some binding) = some entered) :
    ∃ make, controller.published = some (.factory make) ∧
      entered = .error ⟨controller.definition.signature, (make binding).shape⟩ := by
  obtain ⟨code, published⟩ := published_of_entry entry
  cases code with
  | direct native => cases (shaped.direct published).1.symm.trans capturing
  | factory make =>
    have misshapes : controller.Misshapes binding (make binding).shape :=
      ⟨make, published, rfl, misshapen make published⟩
    exact ⟨make, published, Option.some.inj (entry.symm.trans misshapes.entryFor?)⟩

namespace Engine

variable {setup : Setup} {engine next : Engine} {target : HandleId} {definition : Definition}
  {id : ControllerId} {closure : Option Binding} {controller : Controller} {args : List Value}

/-! ## Which handles have met code -/

/-- The listed handles of a controller's function are those that have met its code. -/
structure Meetings (id : ControllerId) (listed : List HandleId) (engine : Engine) : Prop where
  made : ∀ target ∈ listed, target < engine.handles.size
  met : ∀ {target : HandleId} {handle : Handle}, engine.handle? target = some handle →
    handle.controller? = some id → (handle.hasMet = true ↔ target ∈ listed)

section

variable {listed shown : List HandleId}

/-- A stretch in which no handle meets code, though listed ones may be shown again. -/
theorem Meetings.keep (meetings : Meetings id listed engine)
    (known : ∀ target ∈ shown, target ∈ listed)
    (size : engine.handles.size ≤ next.handles.size)
    (handles : ∀ target handle, next.handle? target = some handle →
      engine.handle? target = some handle ∨
        engine.handles.size ≤ target ∧ handle.hasMet = false) :
    Meetings id (listed ++ shown) next := by
  have same (target : HandleId) : target ∈ listed ++ shown ↔ target ∈ listed := by
    rw [List.mem_append]
    exact or_iff_left_of_imp (known target)
  constructor
  · intro target member
    exact Nat.lt_of_lt_of_le (meetings.made target ((same target).mp member)) size
  · intro target handle holder its
    rw [same]
    rcases handles target handle holder with old | ⟨fresh, unmet⟩
    · exact meetings.met old its
    · rw [unmet]
      refine iff_of_false Bool.false_ne_true fun member => ?_
      exact absurd (meetings.made target member) (Nat.not_lt_of_le fresh)

/-- A handle meets the code of its controller, and is shown if that is the one watched. -/
theorem Meetings.meet (meetings : Meetings id listed engine) {handle : Handle}
    (holder : engine.handle? target = some handle) (changed : Handle)
    (its : changed.controller? = handle.controller?) (met : changed.hasMet = true)
    (shows : ∀ other, other ∈ shown ↔ other = target ∧ handle.controller? = some id)
    (size : next.handles.size = engine.handles.size)
    (handles : ∀ other, next.handle? other =
      if other = target then some changed else engine.handle? other) :
    Meetings id (listed ++ shown) next := by
  constructor
  · intro other member
    rw [size]
    rcases List.mem_append.mp member with earlier | now
    · exact meetings.made other earlier
    · rw [((shows other).mp now).1]
      exact lt_size_of_handle holder
  · intro other later holder' its'
    rw [List.mem_append, shows]
    rw [handles] at holder'
    by_cases same : other = target
    · rw [if_pos same] at holder'
      cases holder'
      exact iff_of_true met (.inr ⟨same, its ▸ its'⟩)
    · rw [if_neg same] at holder'
      simpa [same] using meetings.met holder' its'

end

/-- Code is published exactly if a handle of the function can meet it. -/
theorem hasPublished_eq_isSome (engine : Engine) (id : ControllerId) (closure : Option Binding) :
    engine.hasPublished id = ((engine.controllers[id]?).bind (·.entryFor? closure)).isSome := by
  cases found : engine.controllers[id]? with
  | none => simp [hasPublished, found]
  | some controller =>
    rw [hasPublished_eq found, Option.bind_some, Controller.entryFor?, Option.isSome_map,
      Controller.hasCompiled]

theorem mem_warmCalls {turn : Turn} {handle : Handle}
    (calls : turn.command.call? = some (target, args))
    (holder : engine.handle? target = some handle) (other : HandleId) :
    other ∈ warmCalls id engine turn ↔ other = target ∧ engine.hasPublished id = true ∧
      handle.controller? = some id ∧ args.length = handle.definition.signature.arity := by
  rw [warmCalls, callsOf_eq calls holder]
  cases engine.hasPublished id with
  | false => simp
  | true =>
    simp only [↓reduceIte]
    split <;> simp [*]

theorem mem_warmCalls_of_entry {turn : Turn} {its : ControllerId} {link : Link}
    {entered : Except Mismatch CompiledEntry}
    (calls : turn.command.call? = some (target, args))
    (holder : engine.handle? target = some ⟨definition, .interpreted its closure link⟩)
    (fits : args.length = definition.signature.arity)
    (found : engine.controllers[its]? = some controller)
    (entry : controller.entryFor? closure = some entered) (other : HandleId) :
    other ∈ warmCalls id engine turn ↔ other = target ∧ some its = some id := by
  rw [mem_warmCalls calls holder]
  constructor
  · rintro ⟨same, -, refers, -⟩
    exact ⟨same, refers⟩
  · rintro ⟨same, refers⟩
    cases refers
    have published := Controller.hasCompiled_of_entryFor? entry
    exact ⟨same, (hasPublished_eq found).trans published, rfl, fits⟩

theorem warmCalls_uncalled {turn : Turn}
    (uncalled : ∀ target args, turn.command.call? = some (target, args) →
      engine.handle? target = none) : warmCalls id engine turn = [] := by
  unfold warmCalls callsOf
  split
  · split
    · rfl
    · rename_i calls
      rw [uncalled _ _ calls]
  · rfl

theorem Meetings.serve {listed : List HandleId} (meetings : Meetings id listed engine)
    {turn : Turn} {handle : Handle} {served : Invocation × Engine}
    (calls : turn.command.call? = some (target, args))
    (holder : engine.handle? target = some handle)
    (serving : Serving setup engine target handle args served) :
    Meetings id (listed ++ warmCalls id engine turn) served.2 := by
  have shows (place : HandleId) : place ∈ warmCalls id engine turn ↔ _ :=
    mem_warmCalls calls holder place
  obtain ⟨definition, dispatch⟩ := handle
  cases serving with
  | rejected other =>
    refine meetings.keep (fun place member => ?_) (Nat.le_refl _) fun _ _ holder => .inl holder
    exact absurd ((shows place).mp member).2.2.2 other
  | entered fits kept =>
    refine meetings.keep (fun place member => ?_) (Nat.le_refl _) fun _ _ holder => .inl holder
    obtain ⟨rfl, -, its, -⟩ := (shows place).mp member
    apply (meetings.met holder its).mp
    cases dispatch with
    | compiled entry => cases its
    | interpreted other closure link =>
      cases link with
      | switched entry => rfl
      | unresolved | pinned => cases kept
  | @interpreted other closure link fits dispatch' unmet =>
    obtain rfl : dispatch = _ := dispatch'
    have handles : (engine.interpret setup target other definition closure args).2.handles =
        engine.handles := handles_recordCall setup engine other
    refine meetings.keep (fun place member => ?_) (Nat.le_of_eq (congrArg _ handles.symm))
      fun place handle holder' => ?_
    · obtain ⟨rfl, published, its, -⟩ := (shows place).mp member
      cases its
      apply (meetings.met holder rfl).mp
      rcases unmet with rfl | ⟨rfl, unmet⟩
      · rfl
      · -- With code published, the handle would have met it now.
        rw [hasPublished_eq_isSome _ _ closure, unmet] at published
        cases published
    · rw [handle?, handles] at holder'
      exact .inl holder'
  | @switched other closure controller entry fits dispatch' found resolved =>
    obtain rfl : dispatch = _ := dispatch'
    exact meetings.meet holder ⟨definition, .interpreted other closure (.switched entry)⟩
      rfl rfl (mem_warmCalls_of_entry calls holder fits found resolved)
      (Array.size_setIfInBounds ..)
      (handle?_switchHandle setup holder definition other closure entry)
  | @pinned other closure controller mismatch fits dispatch' found resolved =>
    obtain rfl : dispatch = _ := dispatch'
    have logged : (engine.log setup (.misfit definition.name mismatch)).handle? target =
        some ⟨definition, .interpreted other closure .unresolved⟩ := holder
    exact meetings.meet holder ⟨definition, .interpreted other closure .pinned⟩
      rfl rfl (mem_warmCalls_of_entry calls holder fits found resolved)
      (Array.size_setIfInBounds ..) (handle?_setHandle logged _)

theorem Meetings.take {listed : List HandleId} (meetings : Meetings id listed engine)
    (turn : Turn) :
    Meetings id (listed ++ warmCalls id engine turn) (engine.take setup turn).2 := by
  generalize result : engine.take setup turn = taken
  have turned := result ▸ turned_take setup engine turn
  cases turned with
  | idle idle _ _ uncalled =>
    rw [warmCalls_uncalled uncalled]
    exact meetings.keep nofun (Nat.le_of_eq idle.size.symm)
      fun _ _ holder => .inl (idle.handles holder)
  | bound _ none bound =>
    have size := size_take setup engine turn
    rw [result] at size
    rw [warmCalls_uncalled fun target args calls => by simp [none] at calls]
    exact meetings.keep nofun size fun _ _ holder => bound.unmet holder
  | @counted its counts =>
    have handles := handles_recordCall (turn.setup setup) engine its
    rw [warmCalls_uncalled fun target args calls => by simp [counts, Command.call?] at calls]
    refine meetings.keep nofun (Nat.le_of_eq (congrArg _ handles.symm)) fun _ _ holder => ?_
    rw [handle?, handles] at holder
    exact .inl holder
  | served calls holder serving => exact meetings.serve calls holder serving

/-- Of the handles of a function, those called after publication, with as many arguments as
they take, have met its code, in every run and whatever the compiler does. -/
theorem Begins.meetings {begun : Engine} (begins : Begins begun) (setup : Setup)
    (id : ControllerId) (turns : List Turn) :
    Meetings id (begun.history setup (warmCalls id) turns) (begun.afterTurns setup turns) := by
  have initially : Meetings id [] begun :=
    ⟨nofun, fun holder => by simp [handle?, begins.blank.handles] at holder⟩
  exact history_keeps (Meetings id) (fun turn _ _ _ before => before.take turn) initially

/-! ## Pinned handles -/

/-- A counted call hands nothing over once the function was handed over or compiled. -/
theorem recordCall_settled (setup : Setup) (found : engine.controllers[id]? = some controller)
    (settled : controller.promotion ≠ .cold) :
    engine.recordCall setup id =
      engine.setController id (controller.counting setup.policy) := by
  have same : engine.setController id controller = engine := by
    rw [setController, set_same found]
  unfold recordCall Controller.counting
  simp only [found]
  cases setup.policy.enabled with
  | false => simp [same]
  | true =>
    by_cases below : controller.executionCount < maxExecutionCount
    · simp [Controller.countCall?, below, Controller.isDue, settled]
    · simp [Controller.countCall?, below, same]

theorem modify_setController (found : engine.controllers[id]? = some controller)
    (changed : Controller) (change : Controller → Controller) :
    (engine.setController id changed).modifyController id change =
      engine.setController id (change changed) := by
  obtain ⟨made, -⟩ := Array.getElem?_eq_some_iff.mp found
  have present : (engine.setController id changed).controllers[id]? = some changed :=
    Array.getElem?_setIfInBounds_self_of_lt made
  have modified := modify_controller present change
  rw [setController, Array.setIfInBounds_setIfInBounds] at modified
  exact congrArg (fun controllers => { engine with controllers }) modified

/-- An interpreted call of a function that was handed over or compiled changes only the
memory and two counts of the function. -/
theorem interpret_settled (setup : Setup) (found : engine.controllers[id]? = some controller)
    (settled : controller.promotion ≠ .cold) (target : HandleId) (definition : Definition)
    (closure : Option Binding) (args : List Value) :
    let reply := definition.interpret setup.rounds args closure engine.store
    engine.interpret setup target id definition closure args =
      (⟨reply.outcome, reply.slots⟩,
        { engine with
          controllers := engine.controllers.setIfInBounds id
            (controller.counting setup.policy).countInterpreted
          store := reply.store
          journal := engine.journal.push (.interpreted target id) }) := by
  simp only [interpret, recordCall_settled setup found settled, modify_setController found]
  rfl

/-- A pinned handle is cold, and the interpreter serves its calls: each ends as interpreting the
function ends and changes nothing but the memory and two counts of the function. -/
structure Pinned (setup : Setup) (engine : Engine) (target : HandleId) (definition : Definition)
    (id : ControllerId) (closure : Option Binding) : Prop where
  holder : engine.handle? target = some ⟨definition, .interpreted id closure .pinned⟩
  cold : engine.handleState ⟨definition, .interpreted id closure .pinned⟩ = .cold
  answer : ∀ {turn : Turn} {args : List Value}, turn.command.call? = some (target, args) →
    let reply := definition.interpret setup.rounds args closure engine.store
    (engine.take setup turn).1 = .invoked (turn.command.shown ⟨reply.outcome, reply.slots⟩) ∧
      ∀ cause, reply.outcome = .crash cause ↔
        cause = .frameOverflow ∧ args.length = definition.signature.arity ∧ definition.Oversized
  refused : ∀ {turn : Turn} {args : List Value}, turn.command.call? = some (target, args) →
    args.length ≠ definition.signature.arity → (engine.take setup turn).2 = engine
  served : ∀ {turn : Turn} {args : List Value}, turn.command.call? = some (target, args) →
    args.length = definition.signature.arity →
    ∃ controller, engine.controllers[id]? = some controller ∧ controller.promotion = .compiled ∧
      (engine.take setup turn).2 = { engine with
        controllers := engine.controllers.setIfInBounds id
          (controller.counting setup.policy).countInterpreted
        store := (definition.interpret setup.rounds args closure engine.store).store
        journal := engine.journal.push (.interpreted target id) }

theorem Command.shown_args {command : Command} (calls : command.call? = some (target, args))
    (outcome : Outcome Value) : command.shown ⟨outcome, args⟩ = ⟨outcome, args⟩ := by
  cases command <;> cases calls <;> rfl

theorem Sound.settles {policy : Policy} (sound : Sound policy engine) {link : Link}
    (holder : engine.handle? target = some ⟨definition, .interpreted id closure link⟩)
    (found : engine.controllers[id]? = some controller) : controller.Settles closure link := by
  obtain ⟨_, owner, present, belongs⟩ := sound.owner holder
  cases belongs with
  | interpreted settles =>
    cases found.symm.trans present
    exact settles

theorem Sound.pinned (sound : Sound setup.policy engine)
    (holder : engine.handle? target = some ⟨definition, .interpreted id closure .pinned⟩) :
    engine.Pinned setup target definition id closure := by
  obtain ⟨-, controller, present, -, -⟩ := sound.linked holder
  obtain ⟨mismatch, misfits⟩ := sound.settles holder present
  have compiled := sound.orderly.compiled_of_entry present misfits
  -- The whole state after a call, from which each field is read off.
  have taken {turn : Turn} {args : List Value}
      (calls : turn.command.call? = some (target, args)) :
      let reply := definition.interpret setup.rounds args closure engine.store
      (engine.take setup turn).1 = .invoked (turn.command.shown ⟨reply.outcome, reply.slots⟩) ∧
        (engine.take setup turn).2 =
          if args.length = definition.signature.arity then
            { engine with
              controllers := engine.controllers.setIfInBounds id
                (controller.counting setup.policy).countInterpreted
              store := reply.store
              journal := engine.journal.push (.interpreted target id) }
          else engine := by
    obtain ⟨served, serving, result⟩ := take_call setup calls holder
    rw [result]
    cases serving with
    | rejected other => simp [Definition.interpret, other]
    | entered _ calls => cases calls
    | interpreted fits dispatch =>
      cases dispatch
      have same := interpret_settled (turn.setup setup) present (by simp [compiled]) target
        definition closure args
      simp only [fits, ↓reduceIte]
      exact ⟨congrArg _ (congrArg _ (congrArg Prod.fst same)), congrArg Prod.snd same⟩
    | switched _ dispatch | pinned _ dispatch => cases dispatch
  exact {
    holder := holder
    cold := rfl
    answer := fun calls => ⟨(taken calls).1, definition.interpret_crash_iff _ _ _ _⟩
    refused := fun calls other => by rw [(taken calls).2, if_neg other]
    served := fun calls fits =>
      ⟨controller, present, compiled, by rw [(taken calls).2, if_pos fits]⟩ }

def Holds (engine : Engine) (target : HandleId) (handle : Handle) : Prop :=
  target < engine.handles.size ∧ ∀ later, engine.handle? target = some later → later = handle

theorem Holds.take
    (holds : engine.Holds target ⟨definition, .interpreted id closure .pinned⟩) (setup : Setup)
    (turn : Turn) :
    (engine.take setup turn).2.Holds target ⟨definition, .interpreted id closure .pinned⟩ := by
  refine (take_moves setup engine turn).keeps
    (Holds · target ⟨definition, .interpreted id closure .pinned⟩) ?_ holds
  rintro before after move ⟨made, only⟩
  refine ⟨Nat.lt_of_lt_of_le made move.size_handles, fun later holder => ?_⟩
  rcases move.old_handle made holder with same | ⟨_, _, _, _, _, was, -⟩
  · exact only later same
  · cases only _ was

/-- A pinned handle is pinned for the rest of a run, unless it is dropped. -/
theorem Sound.stays_pinned (sound : Sound setup.policy engine)
    (holder : engine.handle? target = some ⟨definition, .interpreted id closure .pinned⟩)
    (rest : List Turn) :
    (engine.afterTurns setup rest).handle? target = none ∨
      (engine.afterTurns setup rest).Pinned setup target definition id closure := by
  have initially : engine.Holds target ⟨definition, .interpreted id closure .pinned⟩ := by
    refine ⟨lt_size_of_handle holder, fun later holder' => ?_⟩
    cases holder.symm.trans holder'
    rfl
  have holds : (engine.afterTurns setup rest).Holds target
      ⟨definition, .interpreted id closure .pinned⟩ :=
    turns_keep (Holds · target _) (fun turn _ _ before => before.take setup turn) initially
  cases later : (engine.afterTurns setup rest).handle? target with
  | none => exact .inl rfl
  | some handle =>
    obtain rfl := holds.2 handle later
    exact .inr ((sound.afterTurns rest).pinned later)

/-! ## The crash -/

/-- A call meets misshapen code: it crashes with the mismatch and leaves its arguments as they
were, and of the engine it changes only the handle, which is pinned, and the log. -/
structure Balks (setup : Setup) (engine : Engine) (turn : Turn) (target : HandleId)
    (definition : Definition) (id : ControllerId) (closure : Option Binding) (args : List Value)
    (mismatch : Mismatch) : Prop where
  answer : (engine.take setup turn).1 = .invoked ⟨.crash (.misfit mismatch), args⟩
  next : (engine.take setup turn).2 = { engine with
    handles := engine.handles.setIfInBounds target
      (some ⟨definition, .interpreted id closure .pinned⟩)
    journal := engine.journal.push (.logged setup.thread (.misfit definition.name mismatch)) }

variable {turn : Turn} {mismatch : Mismatch}

/-- A crash on misshapen code makes no difference to anybody but its handle. -/
theorem Balks.differsAt
    (balks : Balks setup engine turn target definition id closure args mismatch)
    (holder : engine.handle? target = some ⟨definition, .interpreted id closure .unresolved⟩) :
    DiffersAt target engine (engine.take setup turn).2 := by
  rw [balks.next]
  have handles := handle?_setHandle holder (some ⟨definition, .interpreted id closure .pinned⟩)
  have pinned := (handles target).trans (if_pos rfl)
  exact {
    controllers := rfl
    registry := rfl
    held := rfl
    schedulers := rfl
    current := rfl
    drainable := rfl
    store := rfl
    size := Array.size_setIfInBounds ..
    others := fun place apart => (handles place).trans (if_neg apart)
    refers := by
      rw [holder]
      exact (congrArg (Option.map Handle.controller?) pinned).trans rfl }

theorem Balks.holder
    (balks : Balks setup engine turn target definition id closure args mismatch)
    (made : target < engine.handles.size) :
    (engine.take setup turn).2.handle? target =
      some ⟨definition, .interpreted id closure .pinned⟩ := by
  rw [balks.next]
  exact (handle?_setHandle_made made _ target).trans (if_pos rfl)

theorem take_unresolved (setup : Setup)
    (holder : engine.handle? target = some ⟨definition, .interpreted id closure .unresolved⟩)
    (calls : turn.command.call? = some (target, args))
    (fits : args.length = definition.signature.arity) :
    let served := engine.resolveAndServe (turn.setup setup) target id definition closure args
    engine.take setup turn = (.invoked (turn.command.shown served.1), served.2) := by
  obtain ⟨compiler, command⟩ := turn
  cases command with
  | invoke | call =>
    cases calls
    simp only [take, perform, holder, invoke, call, ne_eq, fits, not_true_eq_false, ↓reduceIte]
    rfl
  | _ => cases calls

theorem balks_of_unresolved
    (holder : engine.handle? target = some ⟨definition, .interpreted id closure .unresolved⟩)
    (found : engine.controllers[id]? = some controller)
    (misfits : controller.entryFor? closure = some (.error mismatch))
    (calls : turn.command.call? = some (target, args))
    (fits : args.length = definition.signature.arity) :
    Balks setup engine turn target definition id closure args mismatch := by
  have taken := take_unresolved setup holder calls fits
  simp only [resolveAndServe, found, Option.bind_some, misfits,
    Command.shown_args calls] at taken
  exact ⟨congrArg Prod.fst taken, congrArg Prod.snd taken⟩

/-- Whether a call crashed on misshapen code. -/
def Answer.isMisfit (answer : Answer) : Bool :=
  answer.crash? matches some (.misfit _)

theorem Answer.crash?_shown (command : Command) (invocation : Invocation) :
    (Answer.invoked (command.shown invocation)).crash? = (Answer.invoked invocation).crash? := by
  obtain ⟨outcome, slots⟩ := invocation
  cases command <;> cases outcome <;> rfl

theorem Answer.overflow_of_interpret {rounds : Nat} {store : Store} {cause : Crash}
    (crashed :
      let reply := definition.interpret rounds args closure store
      (Answer.invoked ⟨reply.outcome, reply.slots⟩).crash? = some cause) :
    cause = .frameOverflow ∧ definition.Oversized := by
  have crashes := definition.interpret_crash_iff rounds args closure store
  simp only at crashed
  cases outcome : (definition.interpret rounds args closure store).outcome with
  | crash cause' =>
    rw [outcome] at crashed
    cases crashed
    obtain ⟨overflow, -, oversized⟩ := (crashes cause).mp outcome
    exact ⟨overflow, oversized⟩
  | value | fault | exhausted =>
    rw [outcome] at crashed
    cases crashed

theorem Answer.isMisfit_eq_false {answer : Answer}
    (overflow : ∀ cause, answer.crash? = some cause →
      cause = .frameOverflow ∧ definition.Oversized) : answer.isMisfit = false := by
  rw [isMisfit]
  cases crashed : answer.crash? with
  | none => rfl
  | some cause =>
    obtain ⟨rfl, -⟩ := overflow cause crashed
    rfl

/-- A call of an unresolved handle whose code is misshapen meets it exactly if it is published and
the number of arguments is right. -/
theorem isMisfit_unresolved (setup : Setup)
    (holder : engine.handle? target = some ⟨definition, .interpreted id closure .unresolved⟩)
    (found : engine.controllers[id]? = some controller)
    (misfits : ∀ entered, controller.entryFor? closure = some entered →
      ∃ mismatch, entered = .error mismatch)
    (calls : turn.command.call? = some (target, args)) :
    ((engine.take setup turn).1.isMisfit = true ↔
      args.length = definition.signature.arity ∧ controller.hasCompiled = true) ∧
    ∀ cause, (engine.take setup turn).1.crash? = some cause →
      (engine.take setup turn).1.isMisfit = true ∨
        cause = .frameOverflow ∧ definition.Oversized := by
  by_cases fits : args.length = definition.signature.arity
  · have taken := take_unresolved setup holder calls fits
    simp only [resolveAndServe, found, Option.bind_some] at taken
    cases entry : controller.entryFor? closure with
    | none =>
      have unpublished := Controller.entryFor?_eq_none_iff.mp entry
      have reply := interpret_reply (turn.setup setup) engine target id definition closure args
      have overflow (cause : Crash) (crashed : (engine.take setup turn).1.crash? = some cause) :
          cause = .frameOverflow ∧ definition.Oversized := by
        rw [taken, Answer.crash?_shown, entry, reply.1] at crashed
        exact Answer.overflow_of_interpret crashed
      rw [Answer.isMisfit_eq_false overflow]
      exact ⟨by simp [unpublished], fun cause crashed => .inr (overflow cause crashed)⟩
    | some entered =>
      obtain ⟨mismatch, rfl⟩ := misfits entered entry
      have met : (engine.take setup turn).1.isMisfit = true := by
        rw [taken, Answer.isMisfit, Answer.crash?_shown, entry]
        rfl
      exact ⟨iff_of_true met ⟨fits, Controller.hasCompiled_of_entryFor? entry⟩,
        fun _ _ => .inl met⟩
  · obtain ⟨served, serving, result⟩ := take_call setup calls holder
    have uncrashed : (engine.take setup turn).1.crash? = none := by
      rw [result, Answer.crash?_shown]
      cases serving with
      | rejected => rfl
      | entered same | interpreted same | switched same | pinned same => exact absurd same fits
    rw [Answer.isMisfit, uncrashed]
    exact ⟨iff_of_false Bool.false_ne_true fun both => fits both.1, by simp⟩

/-! ## Other handles -/

/-- A handle whose own closure gets code that fits is served by that code. -/
theorem Sound.enters (sound : Sound setup.policy engine) {link : Link} {entry : CompiledEntry}
    (holder : engine.handle? target = some ⟨definition, .interpreted id closure link⟩)
    (found : engine.controllers[id]? = some controller)
    (resolved : controller.entryFor? closure = some (.ok entry))
    (calls : turn.command.call? = some (target, args))
    (fits : args.length = definition.signature.arity) :
    engine.Enters setup turn target entry := by
  have settles := sound.settles holder found
  obtain ⟨served, serving, result⟩ := take_call setup calls holder
  cases serving with
  | rejected other => exact absurd fits other
  | entered _ kept =>
    cases link with
    | unresolved | pinned => cases kept
    | switched other =>
      cases kept
      cases settles.symm.trans resolved
      exact enters_of_take calls rfl rfl holder rfl fits result
  | interpreted _ dispatch unmet =>
    cases dispatch
    rcases unmet with rfl | ⟨-, unmet⟩
    · obtain ⟨mismatch, misfits⟩ := settles
      cases misfits.symm.trans resolved
    · rw [found, Option.bind_some, resolved] at unmet
      cases unmet
  | switched _ dispatch found' resolved' =>
    cases dispatch
    cases found.symm.trans found'
    cases resolved.symm.trans resolved'
    exact enters_of_switch calls holder fits result
  | pinned _ dispatch found' misfits =>
    cases dispatch
    cases found.symm.trans found'
    cases resolved.symm.trans misfits

/-! ## Runs -/

/-- Code of a wrong shape crashes the first call that meets it, pins the handle of that call for
good, and does no other harm. -/
theorem misfits_pinned {begun : Engine} (begins : Begins begun) {turns : List Turn}
    (reached : begun.afterTurns setup turns = engine) {binding : Binding} {link : Link}
    (holder : engine.handle? target = some ⟨definition, .interpreted id (some binding) link⟩)
    (found : engine.controllers[id]? = some controller)
    (misshapen : ∀ make, controller.published = some (.factory make) →
      (make binding).shape ≠ controller.selection.shape) :
    let called := begun.history setup (warmCalls id) turns
    (∀ turn args, turn.command.call? = some (target, args) →
      ((engine.take setup turn).1.isMisfit = true ↔ args.length = definition.signature.arity ∧
        controller.hasCompiled = true ∧ target ∉ called) ∧
      (∀ cause, (engine.take setup turn).1.crash? = some cause →
        (engine.take setup turn).1.isMisfit = true ∨
          cause = .frameOverflow ∧ definition.Oversized) ∧
      ((engine.take setup turn).1.isMisfit = true → controller.promotion = .compiled ∧
        (∃ make, controller.published = some (.factory make) ∧
          Balks setup engine turn target definition id (some binding) args
            ⟨definition.signature, (make binding).shape⟩) ∧
        (∀ rest, (engine.afterTurns setup (turn :: rest)).handle? target = none ∨
          (engine.afterTurns setup (turn :: rest)).Pinned setup target definition id
            (some binding)) ∧
        ∀ rest, (∀ turn ∈ rest, ∀ args, turn.command.call? ≠ some (target, args)) →
          (engine.take setup turn).2.history setup (answered setup) rest =
              engine.history setup (answered setup) rest ∧
            DiffersAt target (engine.afterTurns setup rest)
              (engine.afterTurns setup (turn :: rest)))) ∧
    (target ∈ called → engine.Pinned setup target definition id (some binding)) ∧
    ∀ other its closure link entry,
      engine.handle? other = some ⟨its, .interpreted id closure link⟩ →
      controller.entryFor? closure = some (.ok entry) →
      ∀ turn args, turn.command.call? = some (other, args) →
        args.length = its.signature.arity → engine.Enters setup turn other entry := by
  intro called
  have sound : Sound setup.policy engine := reached ▸ begins.sound.afterTurns turns
  have meetings : Meetings id called engine := reached ▸ begins.meetings setup id turns
  obtain ⟨closes, owner, present, rfl, -⟩ := sound.linked holder
  cases found.symm.trans present
  have shaped : controller.Shaped := begins.shaped_afterTurns setup turns (reached ▸ found)
  have capturing := Definition.hasClosure_of_bound closes
  have met := meetings.met holder rfl
  have unswitched (entry : CompiledEntry) : link ≠ .switched entry := by
    rintro rfl
    obtain ⟨make, -, error⟩ := shaped.misfits capturing misshapen (sound.settles holder found)
    cases error
  -- The handle never switches; it is pinned if it was called since, and unresolved otherwise.
  refine ⟨fun turn args calls => ?_, fun member => ?_, ?_⟩
  · cases link with
    | switched entry => exact (unswitched entry rfl).elim
    | pinned =>
      have member : target ∈ called := met.mp rfl
      have overflow (cause : Crash) (crashed : (engine.take setup turn).1.crash? = some cause) :
          cause = .frameOverflow ∧ controller.definition.Oversized := by
        rw [((sound.pinned holder).answer calls).1, Answer.crash?_shown] at crashed
        exact Answer.overflow_of_interpret crashed
      rw [Answer.isMisfit_eq_false overflow]
      exact ⟨iff_of_false Bool.false_ne_true fun all => all.2.2 member,
        fun cause crashed => .inr (overflow cause crashed), nofun⟩
    | unresolved =>
      have fresh : target ∉ called := fun member => Bool.false_ne_true (met.mpr member)
      have misfits (entered : Except Mismatch CompiledEntry)
          (entry : controller.entryFor? (some binding) = some entered) :
          ∃ mismatch, entered = .error mismatch := by
        obtain ⟨make, -, error⟩ := shaped.misfits capturing misshapen entry
        exact ⟨_, error⟩
      obtain ⟨meets, overflow⟩ :=
        isMisfit_unresolved setup holder found misfits calls
      refine ⟨?_, overflow, fun crashed => ?_⟩
      · rw [meets]
        simp [fresh]
      · obtain ⟨fits, published⟩ := meets.mp crashed
        have met : controller.entryFor? (some binding) ≠ none := by
          simp [Controller.entryFor?_eq_none_iff, published]
        obtain ⟨entered, entry⟩ := Option.ne_none_iff_exists'.mp met
        obtain ⟨make, factory, rfl⟩ := shaped.misfits capturing misshapen entry
        have balks : Balks setup engine turn target _ id (some binding) args _ :=
          balks_of_unresolved holder found entry calls fits
        have differs := balks.differsAt holder
        refine ⟨sound.orderly.compiled_of_entry found entry, ⟨make, factory, balks⟩,
          fun rest => ?_, fun rest uncalled => ?_⟩
        · exact (sound.take turn).stays_pinned (balks.holder (lt_size_of_handle holder)) rest
        · exact differs.afterTurns uncalled
  · cases link with
    | switched entry => exact (unswitched entry rfl).elim
    | pinned => exact sound.pinned holder
    | unresolved => exact (Bool.false_ne_true (met.mpr member)).elim
  · intro other its closure link entry holder' resolved turn args calls fits
    exact sound.enters holder' found resolved calls fits

/-- A factory that gives code of the selected shape for one closure, and of another shape for
another. -/
theorem misfits_pinned_tally :
    let make : Binding → NativeFn := fun binding =>
      if binding = [0] then .canned (.func 1) else Definition.tally.native binding
    let mixed : Compiler := { Compiler.reference none with factory := fun _ _ => .produced make }
    let turns : List Turn := [
      ⟨mixed, .newCell (.int 40)⟩, ⟨mixed, .newCell (.int 50)⟩,
      ⟨mixed, .bind .tally (some [0])⟩, ⟨mixed, .bind .tally (some [1])⟩,
      ⟨mixed, .compileNow .tally⟩]
    let call : Turn := ⟨mixed, .invoke 0 [.int 2]⟩
    let mismatch : Mismatch := ⟨Definition.tally.signature, .func 1⟩
    ∃ engine definition, plain.afterTurns (eager mixed) turns = engine ∧
      Balks (eager mixed) engine call 0 definition 0 (some [0]) [.int 2] mismatch ∧
      mismatch.message =
        "Signature mismatch: native shape Func/1 cannot serve fn(ref amount) -> value" ∧
      (engine.afterTurns (eager mixed) [call]).Pinned (eager mixed) 0 definition 0
        (some [0]) ∧
      ∃ entry, engine.Enters (eager mixed) ⟨mixed, .invoke 1 [.int 5]⟩ 1 entry := by
  intro make mixed turns call mismatch
  have begins : Begins plain := .installed .shared false
  have uncalled : plain.history (eager mixed) (warmCalls 0) turns = [] := by decide +kernel
  -- What is evaluated is settled before the engine becomes a name, so that nothing below runs it.
  have facts :
      (∀ target ∈ [0, 1], ((plain.afterTurns (eager mixed) turns).handle? target).any (fun handle =>
        handle.definition.signature = Definition.tally.signature ∧ handle.controller? = some 0 ∧
          handle.closure? = some [target] ∧ handle.hasMet = false) = true) ∧
      ((plain.afterTurns (eager mixed) turns).controllers[0]?).any (fun controller =>
        controller.definition.signature = Definition.tally.signature ∧
          (controller.published.bind (·.entryPoint? (some [0]))).map NativeFn.shape =
            some (.func 1) ∧
          (controller.published.bind (·.entryPoint? (some [1]))).map NativeFn.shape =
            some (.uniform 1 true)) = true := by decide +kernel
  generalize reached : plain.afterTurns (eager mixed) turns = engine at facts
  obtain ⟨handles, controllers⟩ := facts
  have bound {target : HandleId} (made : target ∈ [0, 1]) :
      ∃ definition, definition.signature = Definition.tally.signature ∧
        engine.handle? target = some ⟨definition, .interpreted 0 (some [target]) .unresolved⟩ := by
    obtain ⟨handle, holder, facts⟩ := (Option.any_eq_true _ _).mp (handles target made)
    obtain ⟨signature, its, bound, unmet⟩ := of_decide_eq_true facts
    exact ⟨handle.definition, signature, holder.trans (congrArg some
      (handle.eq_unresolved its bound unmet))⟩
  obtain ⟨controller, found, facts⟩ := (Option.any_eq_true _ _).mp controllers
  obtain ⟨signature, misfits, fits⟩ := of_decide_eq_true facts
  obtain ⟨native, entry, shape⟩ := Option.map_eq_some_iff.mp misfits
  obtain ⟨code, published, misfits⟩ := Option.bind_eq_some_iff.mp entry
  obtain ⟨definition, declared, holder⟩ := bound List.mem_cons_self
  obtain ⟨other, declared', holder'⟩ := bound (List.mem_cons_of_mem 0 List.mem_cons_self)
  have selected : controller.selection.shape = .uniform 1 true := by
    rw [Controller.selection, signature]
    rfl
  have factory {make : Binding → NativeFn} (made : controller.published = some (.factory make)) :
      (make [0]).shape = .func 1 := by
    cases published.symm.trans made
    exact Option.some.inj misfits ▸ shape
  obtain ⟨crashes, -, enters⟩ := misfits_pinned begins reached holder found
    fun make made => by simp [factory made, selected]
  rw [uncalled] at crashes
  obtain ⟨first, -, crash⟩ := crashes call [.int 2] rfl
  have compiled : controller.hasCompiled = true := by
    rw [Controller.hasCompiled, published]
    rfl
  have crashed := first.mpr ⟨by rw [declared]; rfl, compiled, List.not_mem_nil⟩
  obtain ⟨-, ⟨make, made, balks⟩, stays, -⟩ := crash crashed
  rw [declared, factory made] at balks
  refine ⟨engine, definition, rfl, balks, by decide +kernel, ?_, ?_⟩
  · rcases stays [] with dropped | pinned
    · cases dropped.symm.trans (balks.holder (lt_size_of_handle holder))
    · exact pinned
  · obtain ⟨native', entry', shape'⟩ := Option.map_eq_some_iff.mp fits
    obtain ⟨code', published', fits⟩ := Option.bind_eq_some_iff.mp entry'
    obtain ⟨resolved, result, -⟩ := CompiledEntry.resolve_of_shape (shape'.trans selected.symm)
    refine ⟨resolved, enters 1 other _ _ resolved holder' ?_ _ [.int 5] rfl ?_⟩
    · simp only [Controller.entryFor?, published', Option.map_some, fits]
      exact congrArg some result
    · rw [declared']
      rfl

end Engine

end HotPath

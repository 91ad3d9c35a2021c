import HotPath.Proofs.Tier.Fitting
import HotPath.Proofs.Tier.Threshold
import Mathlib.Data.Finset.Card

/-!
Under a compiler whose code always has the shape that it was asked for, a call is served by the
interpreter until the code of its function is published, and by compiled code from then on; and the
counters of the function tell exactly how many calls and handles that were.
-/

namespace HotPath

/-- A compiler all of whose products have the shape that was asked for. It may refuse or
crash as it likes. -/
structure Compiler.WellShaped (compiler : Compiler) : Prop where
  direct : ∀ definition shape native, compiler.direct definition shape = .produced native →
    native.shape = shape
  factory : ∀ definition shape make, compiler.factory definition shape = .produced make →
    ∀ binding, (make binding).shape = shape

theorem Compiler.wellShaped_reference (nodeLimit : Option Nat) :
    (Compiler.reference nodeLimit).WellShaped where
  direct definition shape native produced := by
    simp only [Compiler.reference] at produced
    cases lowered : definition.lower nodeLimit shape with
    | error error => simp [lowered] at produced
    | ok procedure =>
      rw [lowered] at produced
      cases produced
      exact procedure.shape_entryPoint [] shape
  factory definition shape make produced binding := by
    simp only [Compiler.reference] at produced
    cases lowered : definition.lower nodeLimit shape with
    | error error => simp [lowered] at produced
    | ok procedure =>
      rw [lowered] at produced
      cases produced
      exact procedure.shape_entryPoint binding shape

namespace Controller

theorem hasCompiled_of_entryFor? {controller : Controller} {closure : Option Binding}
    {entered : Except Mismatch CompiledEntry}
    (entry : controller.entryFor? closure = some entered) : controller.hasCompiled = true := by
  obtain ⟨code, published⟩ := published_of_entry entry
  rw [hasCompiled, published]
  rfl

/-- All of a controller's published code has the selected shape. -/
structure Equipped (controller : Controller) : Prop where
  shaped : controller.Shaped
  factory : ∀ {make : Binding → NativeFn}, controller.published = some (.factory make) →
    ∀ binding, (make binding).shape = controller.selection.shape

variable {controller : Controller}

theorem Equipped.change {setup : Setup} {asked : Prop} {changed : Controller}
    (equipped : controller.Equipped) (wellShaped : setup.compiler.WellShaped)
    (change : controller.Change setup asked changed) : changed.Equipped := by
  refine ⟨equipped.shaped.change change, ?_⟩
  intro make published binding
  rw [selection, change.definition]
  rcases change.published_origin published with before | generated
  · exact equipped.factory before binding
  · rcases Definition.generated_ok generated with ⟨-, _, same, -⟩ | ⟨-, _, same, answer⟩
    · cases same
    · cases same
      exact wellShaped.factory _ _ _ answer binding

/-- Published code of the selected shape serves every closure that fits. -/
theorem Equipped.entry (equipped : controller.Equipped)
    (published : controller.hasCompiled = true) {closure : Option Binding}
    (closes : controller.definition.checkClosure closure = .ok ()) :
    ∃ entry, controller.entryFor? closure = some (.ok entry) := by
  have fitting {code : CompiledCode} {native : NativeFn}
      (published : controller.published = some code)
      (entryPoint : code.entryPoint? closure = some native)
      (shape : native.shape = controller.selection.shape) :
      ∃ entry, controller.entryFor? closure = some (.ok entry) := by
    obtain ⟨entry, resolved, -⟩ := CompiledEntry.resolve_of_shape shape
    refine ⟨entry, ?_⟩
    simp only [Controller.entryFor?, published, Option.map_some, entryPoint, resolved]
  obtain ⟨code, published⟩ := Option.isSome_iff_exists.mp published
  cases code with
  | direct native => exact fitting published rfl (equipped.shaped.direct published).2
  | factory make =>
    cases closure with
    | none =>
      have plain := Engine.hasClosure_of_checkClosure closes rfl
      cases plain.symm.trans (equipped.shaped.factory published)
    | some binding => exact fitting published rfl (equipped.factory published binding)

theorem entryFor?_eq_none_iff {closure : Option Binding} :
    controller.entryFor? closure = none ↔ controller.hasCompiled = false := by
  rw [entryFor?, hasCompiled]
  cases controller.published <;> simp

end Controller

namespace Engine

def hasPublished (engine : Engine) (id : ControllerId) : Bool :=
  (engine.controllers[id]?).any Controller.hasCompiled

/-- The interpreted handle of a controller's function that a turn calls with as many
arguments as it takes, if it calls one. -/
def callsOf (engine : Engine) (id : ControllerId) (turn : Turn) : List HandleId :=
  match turn.command.call? with
  | none => []
  | some (target, args) =>
    match engine.handle? target with
    | none => []
    | some handle =>
      if handle.controller? = some id ∧ args.length = handle.definition.signature.arity
      then [target] else []

def coldCalls (id : ControllerId) (engine : Engine) (turn : Turn) : List HandleId :=
  if engine.hasPublished id then [] else engine.callsOf id turn

def warmCalls (id : ControllerId) (engine : Engine) (turn : Turn) : List HandleId :=
  if engine.hasPublished id then engine.callsOf id turn else []

/-- An engine of a run in which all code has the shape that was asked for. -/
structure Reliable (policy : Policy) (engine : Engine) : Prop where
  sound : Sound policy engine
  equipped : ∀ {id : ControllerId} {controller : Controller},
    engine.controllers[id]? = some controller → controller.Equipped

section

variable {setup : Setup} {engine next : Engine}

theorem hasPublished_eq {id : ControllerId} {controller : Controller}
    (found : engine.controllers[id]? = some controller) :
    engine.hasPublished id = controller.hasCompiled := by
  rw [hasPublished, found]
  rfl

theorem Reliable.take (reliable : Reliable setup.policy engine) {turn : Turn}
    (wellShaped : turn.compiler.WellShaped) :
    Reliable setup.policy (engine.take setup turn).2 := by
  refine ⟨reliable.sound.take turn, fun found => ?_⟩
  exact (take_moves setup engine turn).controller_keeps Controller.Equipped
    (fun change equipped => equipped.change wellShaped change)
    (fun _ _ => ⟨⟨nofun, nofun⟩, nofun⟩) reliable.equipped found

theorem Begins.reliable {begun : Engine} (begins : Begins begun) : Reliable setup.policy begun := by
  refine ⟨begins.sound, fun found => ?_⟩
  simp [begins.blank.controllers] at found

/-- What an interpreted handle does with a call is settled by publication. -/
theorem Reliable.link (reliable : Reliable setup.policy engine) {target : HandleId}
    {definition : Definition} {id : ControllerId} {closure : Option Binding} {link : Link}
    (holder : engine.handle? target = some ⟨definition, .interpreted id closure link⟩) :
    ∃ controller, engine.controllers[id]? = some controller ∧
      controller.definition = definition ∧
      (controller.hasCompiled = false ∧ link = .unresolved ∧
          controller.entryFor? closure = none ∨
        controller.hasCompiled = true ∧ ∃ entry, controller.entryFor? closure = some (.ok entry) ∧
          (link = .unresolved ∨ link = .switched entry)) := by
  obtain ⟨closes, -⟩ := reliable.sound.linked holder
  obtain ⟨other, controller, found, belongs⟩ := reliable.sound.owner holder
  cases belongs with
  | interpreted settles =>
    refine ⟨controller, found, rfl, ?_⟩
    cases published : controller.hasCompiled with
    | false =>
      have unentered : controller.entryFor? closure = none :=
        Controller.entryFor?_eq_none_iff.mpr published
      cases link with
      | unresolved => exact .inl ⟨rfl, rfl, unentered⟩
      | switched entry => cases unentered.symm.trans settles
      | pinned =>
        obtain ⟨mismatch, misfits⟩ := settles
        cases unentered.symm.trans misfits
    | true =>
      obtain ⟨entry, entered⟩ := (reliable.equipped found).entry published closes
      refine .inr ⟨rfl, entry, entered, ?_⟩
      cases link with
      | unresolved => exact .inl rfl
      | switched other =>
        cases entered.symm.trans settles
        exact .inr rfl
      | pinned =>
        obtain ⟨mismatch, misfits⟩ := settles
        cases entered.symm.trans misfits

theorem callsOf_eq {turn : Turn} {target : HandleId} {args : List Value} {handle : Handle}
    (calls : turn.command.call? = some (target, args))
    (holder : engine.handle? target = some handle) (id : ControllerId) :
    engine.callsOf id turn =
      if handle.controller? = some id ∧ args.length = handle.definition.signature.arity
      then [target] else [] := by
  simp only [callsOf, calls, holder]

theorem callsOf_interpreted {turn : Turn} {target : HandleId} {args : List Value}
    {definition : Definition} {id : ControllerId} {closure : Option Binding} {link : Link}
    (calls : turn.command.call? = some (target, args))
    (holder : engine.handle? target = some ⟨definition, .interpreted id closure link⟩)
    (fits : args.length = definition.signature.arity) (other : ControllerId) :
    engine.callsOf other turn = if other = id then [target] else [] := by
  rw [callsOf_eq calls holder]
  simp [Handle.controller?, fits, eq_comm]

/-- Counting a call towards the threshold leaves the other books alone. -/
theorem recordCall_books (setup : Setup) {id : ControllerId} {controller : Controller}
    (found : engine.controllers[id]? = some controller) (other : ControllerId) :
    ((engine.recordCall setup id).callCounts other).interpreted =
        (engine.callCounts other).interpreted ∧
      ((engine.recordCall setup id).callCounts other).promoted =
        (engine.callCounts other).promoted := by
  rw [callCounts_recordCall setup found]
  split
  · subst other
    rw [Controller.callCounts_afterCall, callCounts_eq found]
    exact ⟨rfl, rfl⟩
  · exact ⟨rfl, rfl⟩

theorem interpret_books (setup : Setup) {id : ControllerId} {controller : Controller}
    (found : engine.controllers[id]? = some controller) (target : HandleId)
    (definition : Definition) (closure : Option Binding) (args : List Value)
    (other : ControllerId) :
    ((engine.interpret setup target id definition closure args).2.callCounts other).interpreted =
        (engine.callCounts other).interpreted + (if other = id then 1 else 0) ∧
      ((engine.interpret setup target id definition closure args).2.callCounts other).promoted =
        (engine.callCounts other).promoted := by
  rw [callCounts_interpret setup found]
  split
  · subst other
    rw [callCounts_eq found]
    exact ⟨rfl, rfl⟩
  · exact ⟨rfl, rfl⟩

theorem switchHandle_books (setup : Setup) {id : ControllerId} {controller : Controller}
    (found : engine.controllers[id]? = some controller) (target : HandleId)
    (definition : Definition) (closure : Option Binding) (entry : CompiledEntry)
    (other : ControllerId) :
    ((engine.switchHandle setup target definition id closure entry).callCounts other).interpreted =
        (engine.callCounts other).interpreted ∧
      ((engine.switchHandle setup target definition id closure entry).callCounts other).promoted =
        (engine.callCounts other).promoted + (if other = id then 1 else 0) := by
  rw [callCounts_switchHandle setup found]
  split
  · subst other
    rw [callCounts_eq found]
    exact ⟨rfl, rfl⟩
  · exact ⟨rfl, rfl⟩

/-- Handles after a turn are old ones, or a new one that has not switched. -/
def HandlesKept (engine next : Engine) : Prop :=
  ∀ target handle, next.handle? target = some handle → engine.handle? target = some handle ∨
    engine.handles.size ≤ target ∧ handle.hasSwitched = false

theorem handlesKept_of_same (same : ∀ target handle, next.handle? target = some handle →
    engine.handle? target = some handle) : engine.HandlesKept next :=
  fun target handle holder => .inl (same target handle holder)

theorem handlesKept_recordCall (setup : Setup) (engine : Engine) (id : ControllerId) :
    engine.HandlesKept (engine.recordCall setup id) := by
  refine handlesKept_of_same fun target handle holder => ?_
  rwa [handle?, handles_recordCall] at holder

theorem Bound.handlesKept {id : ControllerId} {closure : Option Binding}
    {result : Except BindError HandleId × Engine} (bound : Bound engine id closure result) :
    engine.HandlesKept result.2 := by
  intro target handle holder
  rcases bound.unmet holder with old | ⟨fresh, unmet⟩
  · exact .inl old
  · exact .inr ⟨fresh, Handle.hasSwitched_of_unmet unmet⟩

/-- What a turn adds to the books of calls: nothing, or a call before publication, or one after
it, by a handle that has switched or switches now. -/
inductive Booking (setup : Setup) (engine : Engine) (turn : Turn) : Prop where
  | uncalled (calls : ∀ id, engine.callsOf id turn = [])
      (interpreted : ∀ id, ((engine.take setup turn).2.callCounts id).interpreted =
        (engine.callCounts id).interpreted)
      (promoted : ∀ id, ((engine.take setup turn).2.callCounts id).promoted =
        (engine.callCounts id).promoted)
      (handles : engine.HandlesKept (engine.take setup turn).2)
  | interpreted {target : HandleId} {id : ControllerId}
      (calls : ∀ other, engine.callsOf other turn = if other = id then [target] else [])
      (unpublished : engine.hasPublished id = false)
      (interpreted : ∀ other, ((engine.take setup turn).2.callCounts other).interpreted =
        (engine.callCounts other).interpreted + if other = id then 1 else 0)
      (promoted : ∀ other, ((engine.take setup turn).2.callCounts other).promoted =
        (engine.callCounts other).promoted)
      (handles : engine.HandlesKept (engine.take setup turn).2)
  | entered {target : HandleId} {handle : Handle} {id : ControllerId}
      (calls : ∀ other, engine.callsOf other turn = if other = id then [target] else [])
      (published : engine.hasPublished id = true)
      (interpreted : ∀ other, ((engine.take setup turn).2.callCounts other).interpreted =
        (engine.callCounts other).interpreted)
      (promoted : ∀ other, ((engine.take setup turn).2.callCounts other).promoted =
        (engine.callCounts other).promoted)
      (handles : engine.HandlesKept (engine.take setup turn).2)
      (holder : engine.handle? target = some handle) (its : handle.controller? = some id)
      (switched : handle.hasSwitched = true)
  | switched {target : HandleId} {handle : Handle} {id : ControllerId}
      (calls : ∀ other, engine.callsOf other turn = if other = id then [target] else [])
      (published : engine.hasPublished id = true)
      (interpreted : ∀ other, ((engine.take setup turn).2.callCounts other).interpreted =
        (engine.callCounts other).interpreted)
      (promoted : ∀ other, ((engine.take setup turn).2.callCounts other).promoted =
        (engine.callCounts other).promoted + if other = id then 1 else 0)
      (holder : engine.handle? target = some handle) (its : handle.controller? = some id)
      (unswitched : handle.hasSwitched = false)
      (handles : ∀ other changed, (engine.take setup turn).2.handle? other = some changed →
        if other = target then changed.hasSwitched = true ∧ changed.controller? = some id
        else engine.handle? other = some changed)

/-- A call of a handle is booked by the tier that serves it. -/
theorem Reliable.booking_call (reliable : Reliable setup.policy engine) {turn : Turn}
    {target : HandleId} {args : List Value} {handle : Handle} {served : Invocation × Engine}
    (calls : turn.command.call? = some (target, args))
    (holder : engine.handle? target = some handle)
    (serving : Serving (turn.setup setup) engine target handle args served)
    (result : engine.take setup turn = (.invoked (turn.command.shown served.1), served.2)) :
    Booking setup engine turn := by
  obtain ⟨definition, dispatch⟩ := handle
  cases serving with
  | rejected other =>
    refine .uncalled (fun id => ?_) (fun _ => ?_) (fun _ => ?_) ?_ <;> try rw [result]
    · rw [callsOf_eq calls holder, if_neg (other ·.2)]
    · exact handlesKept_of_same fun _ _ holder => holder
  | @entered entry fits kept =>
    cases dispatch with
    | compiled entry =>
      refine .uncalled (fun id => ?_) (fun _ => ?_) (fun _ => ?_) ?_ <;> try rw [result]
      · rw [callsOf_eq calls holder, if_neg]
        rintro ⟨its, -⟩
        cases its
      · rfl
      · rfl
      · exact handlesKept_of_same fun _ _ holder => holder
    | interpreted id closure link =>
      cases link with
      | unresolved | pinned => cases kept
      | switched kept =>
        obtain ⟨controller, found, -, ⟨-, settled, -⟩ | ⟨published, -⟩⟩ := reliable.link holder
        · cases settled
        refine .entered (callsOf_interpreted calls holder fits) ?_ (fun _ => ?_) (fun _ => ?_) ?_
          holder rfl rfl <;> try rw [result]
        · rw [hasPublished_eq found, published]
        · rfl
        · rfl
        · exact handlesKept_of_same fun _ _ holder => holder
  | @interpreted id closure link fits dispatch' unmet =>
    obtain rfl : dispatch = _ := dispatch'
    obtain ⟨controller, found, -, ⟨unpublished, -⟩ | ⟨-, entry, entered, settled⟩⟩ :=
      reliable.link holder
    · have books := interpret_books (turn.setup setup) found target definition closure args
      refine .interpreted (callsOf_interpreted calls holder fits) ?_ (fun other => ?_)
        (fun other => ?_) ?_ <;> try rw [result]
      · rw [hasPublished_eq found, unpublished]
      · exact (books other).1
      · exact (books other).2
      · exact handlesKept_recordCall (turn.setup setup) engine id
    · -- Published code would have been met.
      rcases unmet with rfl | ⟨-, unmet⟩
      · simp at settled
      · rw [found, Option.bind_some, entered] at unmet
        cases unmet
  | @switched id closure controller entry fits dispatch' found resolved =>
    obtain rfl : dispatch = _ := dispatch'
    have published := Controller.hasCompiled_of_entryFor? resolved
    have books := switchHandle_books (turn.setup setup) found target definition closure entry
    have handles := handle?_switchHandle (turn.setup setup) holder definition id closure entry
    refine .switched (callsOf_interpreted calls holder fits) ?_ (fun other => ?_)
      (fun other => ?_) holder rfl rfl (fun other changed holder' => ?_) <;> try rw [result]
    · rw [hasPublished_eq found, published]
    · exact (books other).1
    · exact (books other).2
    · rw [result] at holder'
      have same := (handles other).symm.trans holder'
      split at same
      · cases same
        rw [if_pos ‹_›]
        exact ⟨rfl, rfl⟩
      · rw [if_neg ‹_›]
        exact same
  | @pinned id closure controller mismatch fits dispatch' found resolved =>
    -- Code of the asked shape never misfits.
    obtain rfl : dispatch = _ := dispatch'
    obtain ⟨controller', found', -, ⟨-, -, unentered⟩ | ⟨-, entry, entered, -⟩⟩ :=
      reliable.link holder
    · cases found.symm.trans found'
      cases unentered.symm.trans resolved
    · cases found.symm.trans found'
      cases entered.symm.trans resolved

theorem Reliable.booking (reliable : Reliable setup.policy engine) (turn : Turn) :
    Booking setup engine turn := by
  generalize result : engine.take setup turn = taken
  have turned := result ▸ turned_take setup engine turn
  cases turned with
  | idle idle unbound uncounted uncalled =>
    refine .uncalled (fun id => ?_) ?_ ?_ ?_ <;> try rw [result]
    · unfold callsOf
      split
      · rfl
      · rename_i calls
        rw [uncalled _ _ calls]
    · exact fun id => congrArg _ (idle.callCounts id)
    · exact fun id => congrArg _ (idle.callCounts id)
    · exact handlesKept_of_same fun _ _ holder => idle.handles holder
  | bound _ none bound =>
    refine .uncalled (fun id => ?_) ?_ ?_ ?_ <;> try rw [result]
    · rw [callsOf, none]
    · exact fun id => congrArg _ (bound.quiet.1 id)
    · exact fun id => congrArg _ (bound.quiet.1 id)
    · exact bound.handlesKept
  | @counted id counts held =>
    have live : engine.isLive id = true := isLive_iff.mpr (.inr (.inr held))
    have found := Array.getElem?_eq_getElem (reliable.sound.grounded id live)
    refine .uncalled (fun other => ?_) (fun other => ?_) (fun other => ?_) ?_ <;> try rw [result]
    · rw [callsOf, counts]
      rfl
    · exact (recordCall_books _ found other).1
    · exact (recordCall_books _ found other).2
    · exact handlesKept_recordCall (turn.setup setup) engine id
  | served calls holder serving => exact reliable.booking_call calls holder serving result

/-! ## Runs -/

structure ColdBooks (setup : Setup) (id : ControllerId) (cold : List HandleId)
    (engine : Engine) : Prop where
  reliable : Reliable setup.policy engine
  interpreted : (engine.callCounts id).interpreted = cold.length

theorem ColdBooks.take {id : ControllerId} {cold : List HandleId}
    (books : ColdBooks setup id cold engine) {turn : Turn}
    (wellShaped : turn.compiler.WellShaped) :
    ColdBooks setup id (cold ++ coldCalls id engine turn) (engine.take setup turn).2 := by
  refine ⟨books.reliable.take wellShaped, ?_⟩
  rw [List.length_append, coldCalls]
  cases books.reliable.booking turn with
  | uncalled calls interpreted =>
    rw [interpreted, books.interpreted, calls, ite_self]
    rfl
  | @interpreted target its calls unpublished interpreted =>
    rw [interpreted, books.interpreted, calls]
    by_cases same : id = its
    · subst same
      simp [unpublished]
    · simp [same]
  | @entered target handle its calls published interpreted
  | @switched target handle its calls published interpreted =>
    rw [interpreted, books.interpreted, calls]
    by_cases same : id = its
    · subst same
      simp [published]
    · simp [same]

structure WarmBooks (setup : Setup) (id : ControllerId) (warm : List HandleId)
    (engine : Engine) : Prop where
  reliable : Reliable setup.policy engine
  promoted : (engine.callCounts id).promoted = warm.toFinset.card
  inside : ∀ target ∈ warm, target < engine.handles.size
  switched : ∀ {target : HandleId} {handle : Handle}, engine.handle? target = some handle →
    handle.controller? = some id → (handle.hasSwitched = true ↔ target ∈ warm)

theorem size_take (setup : Setup) (engine : Engine) (turn : Turn) :
    engine.handles.size ≤ (engine.take setup turn).2.handles.size := by
  rcases take_bindings setup engine turn with ⟨_, -, -, size⟩ | ⟨-, size⟩
  · exact size ▸ Nat.le_succ _
  · exact Nat.le_of_eq size.symm

/-- Only which handles are in the books matters, not how often or in which order. -/
theorem WarmBooks.congr {id : ControllerId} {warm warm' : List HandleId}
    (books : WarmBooks setup id warm engine) (same : ∀ target, target ∈ warm ↔ target ∈ warm') :
    WarmBooks setup id warm' engine := by
  have both : warm.toFinset = warm'.toFinset := by
    ext target
    rw [List.mem_toFinset, List.mem_toFinset, same]
  refine ⟨books.reliable, both ▸ books.promoted, fun target member => ?_, fun holder its => ?_⟩
  · exact books.inside target ((same target).mpr member)
  · exact (books.switched holder its).trans (same _)

/-- A turn that no handle of the function switches in keeps the books. -/
theorem WarmBooks.keep {id : ControllerId} {warm : List HandleId}
    (books : WarmBooks setup id warm engine) {turn : Turn}
    (wellShaped : turn.compiler.WellShaped)
    (promoted : ((engine.take setup turn).2.callCounts id).promoted =
      (engine.callCounts id).promoted)
    (handles : ∀ target handle, (engine.take setup turn).2.handle? target = some handle →
      handle.controller? = some id → engine.handle? target = some handle ∨
        engine.handles.size ≤ target ∧ handle.hasSwitched = false) :
    WarmBooks setup id warm (engine.take setup turn).2 where
  reliable := books.reliable.take wellShaped
  promoted := promoted.trans books.promoted
  inside target member :=
    Nat.lt_of_lt_of_le (books.inside target member) (size_take setup engine turn)
  switched := by
    intro target handle holder its
    rcases handles target handle holder its with old | ⟨fresh, unswitched⟩
    · exact books.switched old its
    · constructor
      · intro switched
        cases unswitched.symm.trans switched
      · intro member
        exact absurd (books.inside target member) (Nat.not_lt_of_le fresh)

theorem WarmBooks.take {id : ControllerId} {warm : List HandleId}
    (books : WarmBooks setup id warm engine) {turn : Turn}
    (wellShaped : turn.compiler.WellShaped) :
    WarmBooks setup id (warm ++ warmCalls id engine turn) (engine.take setup turn).2 := by
  rw [warmCalls]
  cases books.reliable.booking turn with
  | uncalled calls interpreted promoted handles =>
    rw [calls, ite_self, List.append_nil]
    exact books.keep wellShaped (promoted id) fun target handle holder _ =>
      handles target handle holder
  | @interpreted target its calls unpublished interpreted promoted handles =>
    have none : (if engine.hasPublished id then engine.callsOf id turn else []) = [] := by
      rw [calls]
      by_cases same : id = its
      · subst same
        simp [unpublished]
      · simp [same]
    rw [none, List.append_nil]
    exact books.keep wellShaped (promoted id) fun target handle holder _ =>
      handles target handle holder
  | @entered target handle its calls published interpreted promoted handles holder belongs
      switched =>
    have kept := books.keep wellShaped (promoted id) fun target handle holder _ =>
      handles target handle holder
    rw [calls]
    by_cases same : id = its
    · subst same
      -- The handle has switched before, so it is in the books already.
      have member : target ∈ warm := (books.switched holder belongs).mp switched
      rw [if_pos published, if_pos rfl]
      refine kept.congr fun other => ?_
      rw [List.mem_append, List.mem_singleton]
      constructor
      · exact .inl
      · rintro (earlier | rfl)
        · exact earlier
        · exact member
    · simpa [same] using kept
  | @switched target handle its calls published interpreted promoted holder belongs unswitched
      handles =>
    rw [calls]
    by_cases same : id = its
    · subst same
      have fresh : target ∉ warm := by
        intro member
        have switched := (books.switched holder belongs).mpr member
        cases unswitched.symm.trans switched
      rw [if_pos published, if_pos rfl]
      refine ⟨books.reliable.take wellShaped, ?_, fun other member => ?_, ?_⟩
      · have grown : (warm ++ [target]).toFinset = insert target warm.toFinset := by
          ext other
          simp
        rw [promoted, if_pos rfl, books.promoted, grown,
          Finset.card_insert_of_notMem (List.mem_toFinset.not.mpr fresh)]
      · have old : other < engine.handles.size := by
          rcases List.mem_append.mp member with earlier | last
          · exact books.inside other earlier
          · rw [List.mem_singleton.mp last]
            exact lt_size_of_handle holder
        exact Nat.lt_of_lt_of_le old (size_take setup engine turn)
      · intro other changed holder' its'
        have after := handles other changed holder'
        split at after
        · subst other
          simp [after.1]
        · rw [books.switched after its', List.mem_append, List.mem_singleton]
          simp [‹other ≠ target›]
    · have old : ∀ other changed, (engine.take setup turn).2.handle? other = some changed →
          changed.controller? = some id → engine.handle? other = some changed ∨
            engine.handles.size ≤ other ∧ changed.hasSwitched = false := by
        intro other changed holder' its'
        have after := handles other changed holder'
        split at after
        · cases after.2.symm.trans its'
          exact absurd rfl same
        · exact .inl after
      have kept := books.keep wellShaped (by simp [promoted, same]) old
      simpa [same] using kept

theorem Begins.coldBooks {begun : Engine} (begins : Begins begun) (id : ControllerId)
    {turns : List Turn} (wellShaped : ∀ turn ∈ turns, turn.compiler.WellShaped) :
    ColdBooks setup id (begun.history setup (coldCalls id) turns)
      (begun.afterTurns setup turns) := by
  have initially : ColdBooks setup id [] begun := by
    refine ⟨begins.reliable, ?_⟩
    simp [callCounts, begins.blank.controllers]
  refine history_keeps (ColdBooks setup id) ?_ initially
  intro turn member cold engine books
  exact books.take (wellShaped turn member)

theorem Begins.warmBooks {begun : Engine} (begins : Begins begun) (id : ControllerId)
    {turns : List Turn} (wellShaped : ∀ turn ∈ turns, turn.compiler.WellShaped) :
    WarmBooks setup id (begun.history setup (warmCalls id) turns)
      (begun.afterTurns setup turns) := by
  have initially : WarmBooks setup id [] begun := by
    refine ⟨begins.reliable, ?_, nofun, fun holder => ?_⟩
    · simp [callCounts, begins.blank.controllers]
    · simp [handle?, begins.blank.handles] at holder
  refine history_keeps (WarmBooks setup id) ?_ initially
  intro turn member warm engine books
  exact books.take (wellShaped turn member)

/-- A handle of a controller's function serves a call by the interpreter before code is
published, and by that code after. -/
theorem Reliable.serves (reliable : Reliable setup.policy engine) {id : ControllerId}
    {controller : Controller} (found : engine.controllers[id]? = some controller)
    {target : HandleId} {handle : Handle} (holder : engine.handle? target = some handle)
    (belongs : handle.Belongs id controller) {turn : Turn} {args : List Value}
    (calls : turn.command.call? = some (target, args))
    (fits : args.length = handle.definition.signature.arity) :
    (controller.hasCompiled = false → engine.Interprets setup turn id) ∧
    (controller.hasCompiled = true → ∃ entry, engine.Enters setup turn target entry) := by
  obtain ⟨served, serving, result⟩ := take_call setup calls holder
  cases belongs with
  | compiled bound =>
    have published := Controller.hasCompiled_of_entryFor? bound
    refine ⟨fun unpublished => ?_, fun _ => ?_⟩
    · cases published.symm.trans unpublished
    · cases serving with
      | rejected other => exact absurd fits other
      | entered _ kept => exact ⟨_, enters_of_take calls rfl rfl holder kept fits result⟩
      | interpreted _ dispatch | switched _ dispatch | pinned _ dispatch => cases dispatch
  | @interpreted closure link settles =>
    -- The link of a handle with well-shaped code tells whether there is code.
    obtain ⟨same, found', -, unpublished | published⟩ := reliable.link holder
    · cases found.symm.trans found'
      obtain ⟨unpublished, rfl, unentered⟩ := unpublished
      refine ⟨fun _ => ?_, fun published => ?_⟩
      · cases serving with
        | rejected other => exact absurd fits other
        | entered _ kept => cases kept
        | interpreted _ dispatch =>
          cases dispatch
          exact interprets_of_take calls holder fits result
        | switched _ dispatch found'' resolved | pinned _ dispatch found'' resolved =>
          cases dispatch
          cases found.symm.trans found''
          cases unentered.symm.trans resolved
      · cases unpublished.symm.trans published
    · cases found.symm.trans found'
      obtain ⟨published, entry, entered, settled⟩ := published
      refine ⟨fun unpublished => ?_, fun _ => ?_⟩
      · cases published.symm.trans unpublished
      · cases serving with
        | rejected other => exact absurd fits other
        | entered _ kept => exact ⟨_, enters_of_take calls rfl rfl holder kept fits result⟩
        | interpreted _ dispatch unmet =>
          cases dispatch
          rcases unmet with rfl | ⟨-, unmet⟩
          · simp at settled
          · rw [found, Option.bind_some, entered] at unmet
            cases unmet
        | switched _ dispatch found'' resolved =>
          cases dispatch
          exact ⟨_, enters_of_switch calls holder fits result⟩
        | pinned _ dispatch found'' resolved =>
          cases dispatch
          cases found.symm.trans found''
          cases entered.symm.trans resolved

theorem Reliable.not_interprets (reliable : Reliable setup.policy engine) {id : ControllerId}
    {controller : Controller} (found : engine.controllers[id]? = some controller)
    (published : controller.hasCompiled = true) (turn : Turn) :
    ¬ engine.Interprets setup turn id := by
  rintro ⟨target, args, definition, closure, link, calls, holder, fits, served⟩
  obtain ⟨other, owner, present, belongs⟩ := reliable.sound.owner holder
  have its : other = id := by cases belongs; rfl
  rw [its] at present belongs
  cases found.symm.trans present
  obtain ⟨entry, _, _, -, -, -, -, entered⟩ :=
    (reliable.serves found holder belongs calls fits).2 published
  have both := entered.services.symm.trans served.services
  cases List.singleton_inj.mp (List.append_cancel_left both)

theorem Reliable.uncounted (reliable : Reliable setup.policy engine) {id : ControllerId}
    {controller : Controller} (found : engine.controllers[id]? = some controller)
    (published : controller.hasCompiled = true) {turn : Turn} {target : HandleId}
    {args : List Value} (calls : turn.command.call? = some (target, args)) :
    ((engine.take setup turn).2.callCounts id).counted = controller.executionCount ∧
      ((engine.take setup turn).2.callCounts id).interpreted =
        controller.counters.interpreted := by
  have before : engine.callCounts id = controller.callCounts := callCounts_eq found
  constructor
  · suffices (engine.callCounts id).counted = controller.executionCount ∧
        ((engine.take setup turn).2.callCounts id).counted = (engine.callCounts id).counted from
      this.2.trans this.1
    refine ⟨by rw [before]; rfl, ?_⟩
    cases reliable.sound.counting turn with
    | none counts counted => exact counted id
    | @one its counting present counts serves counted =>
      rw [counted]
      by_cases same : id = its
      · subst same
        rcases serves with host | interprets
        · cases (hostCounts_of_call calls id).symm.trans host
        · exact absurd interprets (reliable.not_interprets found published turn)
      · rw [if_neg same]
  · have same : (engine.callCounts id).interpreted = controller.counters.interpreted := by
      rw [before]
      rfl
    rw [← same]
    cases reliable.booking turn with
    | uncalled _ interpreted | entered _ _ interpreted | switched _ _ interpreted =>
      exact interpreted id
    | @interpreted _ its _ unpublished interpreted =>
      have other : id ≠ its := by
        rintro rfl
        rw [hasPublished_eq found, published] at unpublished
        cases unpublished
      rw [interpreted, if_neg other, Nat.add_zero]

/-- Under compilers whose code has the shape asked for, each call is served once, by the tier that
publication decides, and the counters account for it. -/
theorem calls_accounted {begun engine : Engine} (begins : Begins begun) {turns : List Turn}
    (wellShaped : ∀ turn ∈ turns, turn.compiler.WellShaped)
    (reached : begun.afterTurns setup turns = engine) {id : ControllerId}
    {controller : Controller} (found : engine.controllers[id]? = some controller) :
    controller.counters.interpreted = (begun.history setup (coldCalls id) turns).length ∧
    controller.counters.promoted = (begun.history setup (warmCalls id) turns).toFinset.card ∧
    (∀ target handle, (target, id) ∈ begun.history setup (bindings setup) turns →
      engine.handle? target = some handle →
      (handle.controller? = some id ∨
        handle.isCompiled = true ∧ controller.hasCompiled = true) ∧
      ∀ turn args, turn.command.call? = some (target, args) →
        args.length = handle.definition.signature.arity →
        (controller.hasCompiled = false → engine.Interprets setup turn id) ∧
        (controller.hasCompiled = true → ∃ entry, engine.Enters setup turn target entry)) ∧
    (controller.hasCompiled = true → ∀ turn target args,
      turn.command.call? = some (target, args) →
      ((engine.take setup turn).2.callCounts id).counted = controller.executionCount ∧
      ((engine.take setup turn).2.callCounts id).interpreted =
        controller.counters.interpreted) := by
  subst reached
  have cold : ColdBooks setup id _ _ := begins.coldBooks id wellShaped
  have warm : WarmBooks setup id _ _ := begins.warmBooks id wellShaped
  have counts := callCounts_eq found
  refine ⟨?_, ?_, ?_, fun published turn target args calls =>
    cold.reliable.uncounted found published calls⟩
  · rw [← cold.interpreted, counts]
    rfl
  · rw [← warm.promoted, counts]
    rfl
  · intro target handle member holder
    obtain ⟨owner, present, belongs⟩ :=
      ((begins.booked setup turns).owns member).2 handle holder
    cases found.symm.trans present
    refine ⟨?_, fun turn args calls fits =>
      cold.reliable.serves found holder belongs calls fits⟩
    cases belongs with
    | compiled bound => exact .inr ⟨rfl, Controller.hasCompiled_of_entryFor? bound⟩
    | interpreted => exact .inl rfl

end

theorem calls_accounted_tally :
    ∃ turns engine, (∀ turn ∈ turns, turn.compiler.WellShaped) ∧
      plain.afterTurns (eager (.reference none)) turns = engine ∧
      (engine.callCounts 0).interpreted = 1 ∧ (engine.callCounts 0).promoted = 1 ∧
      (plain.history (eager (.reference none)) (coldCalls 0) turns).length = 1 ∧
      (plain.history (eager (.reference none)) (warmCalls 0) turns).toFinset.card = 1 ∧
      ∃ entry, engine.Enters (eager (.reference none)) ⟨.reference none, .invoke 1 [.int 5]⟩ 1
        entry := by
  have begins : Begins plain := .installed .shared false
  let turns : List Turn := [
    ⟨.reference none, .newCell (.int 40)⟩,
    ⟨.reference none, .bind .tally (some [0])⟩,
    ⟨.reference none, .invoke 0 [.int 2]⟩,
    ⟨.reference none, .compileNow .tally⟩,
    ⟨.reference none, .bind .tally (some [0])⟩,
    ⟨.reference none, .invoke 0 [.int 3]⟩,
    ⟨.reference none, .call 0 [.int 4]⟩]
  have wellShaped : ∀ turn ∈ turns, turn.compiler.WellShaped := by
    intro turn member
    have same : turn.compiler = .reference none := by
      simp only [turns, List.mem_cons, List.not_mem_nil, or_false] at member
      rcases member with rfl | rfl | rfl | rfl | rfl | rfl | rfl <;> rfl
    rw [same]
    exact Compiler.wellShaped_reference none
  have bound : (1, 0) ∈ plain.history (eager (.reference none))
      (bindings (eager (.reference none))) turns := by decide +kernel
  -- What is evaluated is settled before the engine becomes a name, so that nothing below runs it.
  have facts : ((plain.afterTurns (eager (.reference none)) turns).callCounts 0).interpreted = 1 ∧
      ((plain.afterTurns (eager (.reference none)) turns).callCounts 0).promoted = 1 ∧
      (plain.afterTurns (eager (.reference none)) turns).hasPublished 0 = true ∧
      0 < (plain.afterTurns (eager (.reference none)) turns).controllers.size ∧
      ((plain.afterTurns (eager (.reference none)) turns).handle? 1).map
        (·.definition.signature.arity) = some 1 := by decide +kernel
  generalize reached : plain.afterTurns (eager (.reference none)) turns = engine at facts
  obtain ⟨interpreted, promoted, published, existing, arity⟩ := facts
  obtain ⟨controller, found⟩ : ∃ controller, engine.controllers[0]? = some controller :=
    ⟨_, Array.getElem?_eq_getElem existing⟩
  obtain ⟨handle, holder, takesOne⟩ := Option.map_eq_some_iff.mp arity
  obtain ⟨cold, warm, serves, -⟩ := calls_accounted begins wellShaped reached found
  rw [hasPublished_eq found] at published
  obtain ⟨-, served⟩ := serves 1 handle bound holder
  obtain ⟨-, entered⟩ := served ⟨.reference none, .invoke 1 [.int 5]⟩ [.int 5] rfl takesOne.symm
  have counts := callCounts_eq found
  refine ⟨turns, engine, wellShaped, reached, interpreted, promoted, ?_, ?_, entered published⟩
  · rw [← cold, ← interpreted, counts]
    rfl
  · rw [← warm, ← promoted, counts]
    rfl

end Engine

end HotPath

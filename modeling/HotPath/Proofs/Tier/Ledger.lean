import HotPath.Proofs.Tier.Coherence
import HotPath.Proofs.Tier.Serving

/-!
The books of a run. One of its histories tells for every handle the controller that it was bound to,
which never changes.
-/

namespace HotPath

/-- What a handle makes of published code once it meets it. -/
def Controller.Settles (controller : Controller) (closure : Option Binding) : Link → Prop
  | .unresolved => True
  | .switched entry => controller.entryFor? closure = some (.ok entry)
  | .pinned => ∃ mismatch, controller.entryFor? closure = some (.error mismatch)

/-- A handle of a controller's function: bound to the controller's code, or to the
controller itself. -/
inductive Handle.Belongs (id : ControllerId) (controller : Controller) : Handle → Prop where
  | compiled {closure : Option Binding} {entry : CompiledEntry}
      (fits : controller.entryFor? closure = some (.ok entry)) :
      Belongs id controller ⟨controller.definition, .compiled entry⟩
  | interpreted {closure : Option Binding} {link : Link}
      (settles : controller.Settles closure link) :
      Belongs id controller ⟨controller.definition, .interpreted id closure link⟩

/-- Published code keeps its entry points. -/
theorem Controller.Change.entryFor? {setup : Setup} {asked : Prop}
    {controller changed : Controller} (change : controller.Change setup asked changed)
    {closure : Option Binding} {entered : Except Mismatch CompiledEntry}
    (entry : controller.entryFor? closure = some entered) :
    changed.entryFor? closure = some entered := by
  obtain ⟨code, published⟩ := published_of_entry entry
  rw [← entry]
  simp only [Controller.entryFor?, Controller.selection, change.definition, published,
    change.published published]

theorem Controller.Change.settles {setup : Setup} {asked : Prop} {controller changed : Controller}
    (change : controller.Change setup asked changed) {closure : Option Binding} {link : Link}
    (settles : controller.Settles closure link) : changed.Settles closure link := by
  cases link with
  | unresolved => trivial
  | switched entry => exact change.entryFor? settles
  | pinned =>
    obtain ⟨mismatch, misfits⟩ := settles
    exact ⟨mismatch, change.entryFor? misfits⟩

theorem Handle.Belongs.change {setup : Setup} {asked : Prop} {controller changed : Controller}
    (change : controller.Change setup asked changed) {id : ControllerId} {handle : Handle}
    (belongs : handle.Belongs id controller) : handle.Belongs id changed := by
  cases belongs with
  | compiled fits =>
    rw [← change.definition]
    exact .compiled (change.entryFor? fits)
  | interpreted settles =>
    rw [← change.definition]
    exact .interpreted (change.settles settles)

namespace Engine

/-! ## Which controller a handle was bound to -/

def bindings (setup : Setup) (engine : Engine) (turn : Turn) : List (HandleId × ControllerId) :=
  match engine.binder? (turn.setup setup) turn.command, (engine.take setup turn).1 with
  | some (id, _), .bound (.ok target) => [(target, id)]
  | _, _ => []

/-- A place is taken by a handle of the controller's function, or was. -/
def Owns (engine : Engine) (id : ControllerId) (target : HandleId) : Prop :=
  target < engine.handles.size ∧ ∀ handle, engine.handle? target = some handle →
    ∃ controller, engine.controllers[id]? = some controller ∧ handle.Belongs id controller

section

variable {setup : Setup} {named : Definition → Prop} {asked : ControllerId → Prop}
  {engine next : Engine}

theorem Move.size_handles (move : Move setup named asked engine next) :
    engine.handles.size ≤ next.handles.size := by
  cases move with
  | boundCompiled | boundInterpreted => simp [addHandle]
  | switched | pinned | dropped => simp [setHandle, modifyController, dropHandle]
  | _ => exact Nat.le_refl _

/-- Where an old handle after a move comes from: it is the same, or it was unresolved
and has settled since. -/
theorem Move.old_handle (move : Move setup named asked engine next) {target : HandleId}
    {handle : Handle} (old : target < engine.handles.size)
    (found : next.handle? target = some handle) :
    engine.handle? target = some handle ∨
      ∃ definition id closure link controller,
        engine.handle? target = some ⟨definition, .interpreted id closure .unresolved⟩ ∧
        handle = ⟨definition, .interpreted id closure link⟩ ∧
        engine.controllers[id]? = some controller ∧ controller.Settles closure link := by
  cases move with
  | boundCompiled | boundInterpreted =>
    rw [handle?_addHandle, if_neg (Nat.ne_of_lt old)] at found
    exact .inl found
  | switched holder present fits =>
    change (engine.setHandle _ _).handle? _ = _ at found
    rw [handle?_setHandle holder] at found
    split at found
    · cases found
      subst target
      exact .inr ⟨_, _, _, _, _, holder, rfl, present, fits⟩
    · exact .inl found
  | pinned holder present misfits =>
    rw [handle?_setHandle holder] at found
    split at found
    · cases found
      subst target
      exact .inr ⟨_, _, _, _, _, holder, rfl, present, _, misfits⟩
    · exact .inl found
  | dropped other =>
    rw [handle?_dropHandle] at found
    split at found
    · cases found
    · exact .inl found
  | _ => exact .inl found

theorem Owns.move {id : ControllerId} {target : HandleId} (owns : engine.Owns id target)
    (move : Move setup named asked engine next) : next.Owns id target := by
  obtain ⟨old, its⟩ := owns
  refine ⟨Nat.lt_of_lt_of_le old move.size_handles, fun handle found => ?_⟩
  rcases move.old_handle old found with same |
    ⟨definition, other, closure, link, met, holder, rfl, present, settles⟩
  · obtain ⟨controller, present, belongs⟩ := its handle same
    obtain ⟨changed, later, change⟩ := move.controller_change present
    exact ⟨changed, later, belongs.change change⟩
  · obtain ⟨controller, its, belongs⟩ := its _ holder
    cases belongs
    cases its.symm.trans present
    obtain ⟨changed, later, change⟩ := move.controller_change present
    exact ⟨changed, later, Handle.Belongs.change change (.interpreted settles)⟩

theorem Owns.take {id : ControllerId} {target : HandleId} (owns : engine.Owns id target)
    (turn : Turn) : (engine.take setup turn).2.Owns id target := by
  have moves := take_moves setup engine turn
  exact moves.keeps (Owns · id target) (fun move before => before.move move) owns

theorem Bound.owns {id : ControllerId} {closure : Option Binding} {target : HandleId}
    (bound : Bound engine id closure (.ok target, next)) :
    target = engine.handles.size ∧ next.Owns id target := by
  have added {ready : Engine} {controller : Controller} {handle : Handle}
      (found : ready.controllers[id]? = some controller) (belongs : handle.Belongs id controller) :
      (ready.addHandle handle).2.Owns id ready.handles.size := by
    refine ⟨by simp [addHandle], fun other holder => ?_⟩
    rw [handle?_addHandle, if_pos rfl] at holder
    cases holder
    exact ⟨controller, found, belongs⟩
  cases bound with
  | compiled idle found fits => exact ⟨idle.size, added found (.compiled fits)⟩
  | interpreted idle found => exact ⟨idle.size, added found (.interpreted trivial)⟩

theorem Bound.size {id : ControllerId} {closure : Option Binding}
    {result : Except BindError HandleId × Engine} (bound : Bound engine id closure result) :
    result.2.handles.size = engine.handles.size + if result.1.isOk = true then 1 else 0 := by
  cases bound with
  | refused idle => simpa [Except.isOk, Except.toBool] using idle.size
  | compiled idle | interpreted idle =>
    simpa [Except.isOk, Except.toBool, addHandle] using idle.size

/-- A turn makes one handle, in the next place, or none. -/
theorem take_bindings (setup : Setup) (engine : Engine) (turn : Turn) :
    (∃ id, engine.bindings setup turn = [(engine.handles.size, id)] ∧
      (engine.take setup turn).2.Owns id engine.handles.size ∧
      (engine.take setup turn).2.handles.size = engine.handles.size + 1) ∨
    engine.bindings setup turn = [] ∧
      (engine.take setup turn).2.handles.size = engine.handles.size := by
  unfold bindings
  generalize result : engine.take setup turn = taken
  have turned := result ▸ turned_take setup engine turn
  cases turned with
  | idle idle unbound =>
    refine .inr ⟨?_, idle.size⟩
    split
    · exact absurd ‹_› (unbound _)
    · rfl
  | @bound id closure bindResult binds _ bound =>
    obtain ⟨answer, after⟩ := bindResult
    have size := bound.size
    rw [binds]
    cases answer with
    | error error => exact .inr ⟨rfl, size⟩
    | ok target =>
      obtain ⟨rfl, owns⟩ := bound.owns
      exact .inl ⟨id, rfl, owns, size⟩
  | counted counts =>
    rw [counts]
    exact .inr ⟨rfl, congrArg Array.size (handles_recordCall (turn.setup setup) engine _)⟩
  | @served target args handle served calls holder serving =>
    have size : served.2.handles.size = engine.handles.size := by
      cases serving with
      | rejected | entered => rfl
      | @interpreted id =>
        exact congrArg Array.size (handles_recordCall (turn.setup setup) engine id)
      | switched | pinned => exact Array.size_setIfInBounds ..
    refine .inr ⟨?_, size⟩
    split
    · rename_i answered
      cases answered
    · rfl

end

/-- The bindings of a run: every handle, once, with its controller. -/
structure Booked (books : List (HandleId × ControllerId)) (engine : Engine) : Prop where
  owns : ∀ {target : HandleId} {id : ControllerId}, (target, id) ∈ books → engine.Owns id target
  complete : ∀ {target : HandleId}, target < engine.handles.size → ∃ id, (target, id) ∈ books
  unique : ∀ {target : HandleId} {id other : ControllerId}, (target, id) ∈ books →
    (target, other) ∈ books → id = other

theorem Booked.take {books : List (HandleId × ControllerId)} {engine : Engine}
    (booked : Booked books engine) (setup : Setup) (turn : Turn) :
    Booked (books ++ engine.bindings setup turn) (engine.take setup turn).2 := by
  rcases take_bindings setup engine turn with ⟨made, shown, owned, size⟩ | ⟨none, size⟩
  · rw [shown]
    have cases' {target : HandleId} {id : ControllerId}
        (member : (target, id) ∈ books ++ [(engine.handles.size, made)]) :
        (target, id) ∈ books ∨ target = engine.handles.size ∧ id = made := by
      rcases List.mem_append.mp member with earlier | last
      · exact .inl earlier
      · exact .inr (Prod.mk.inj (List.mem_singleton.mp last))
    refine ⟨fun member => ?_, fun {target} inside => ?_, fun member member' => ?_⟩
    · rcases cases' member with earlier | ⟨rfl, rfl⟩
      · exact (booked.owns earlier).take turn
      · exact owned
    · rw [size] at inside
      rcases Nat.lt_succ_iff_lt_or_eq.mp inside with old | rfl
      · obtain ⟨id, member⟩ := booked.complete old
        exact ⟨id, List.mem_append_left _ member⟩
      · exact ⟨made, List.mem_append_right _ List.mem_cons_self⟩
    · rcases cases' member with earlier | ⟨rfl, rfl⟩
      · rcases cases' member' with earlier' | ⟨rfl, rfl⟩
        · exact booked.unique earlier earlier'
        · exact absurd (booked.owns earlier).1 (Nat.lt_irrefl _)
      · rcases cases' member' with earlier' | ⟨-, rfl⟩
        · exact absurd (booked.owns earlier').1 (Nat.lt_irrefl _)
        · rfl
  · rw [none, List.append_nil]
    refine ⟨fun member => (booked.owns member).take turn, fun inside => ?_, booked.unique⟩
    exact booked.complete (size ▸ inside)

/-- An engine without controllers and handles that has done nothing. -/
structure Blank (engine : Engine) : Prop where
  controllers : engine.controllers = #[]
  handles : engine.handles = #[]
  services : engine.services = []
  submitted : ∀ scheduler, engine.submitted scheduler = 0

theorem Begins.blank {begun : Engine} (begins : Begins begun) : begun.Blank := by
  induction begins with
  | installed kind drained => exact ⟨rfl, rfl, rfl, submitted_install kind drained⟩
  | logged _ thread entry earlier =>
    refine ⟨earlier.controllers, earlier.handles, ?_, earlier.submitted⟩
    rw [services_record, earlier.services]
    rfl

theorem Begins.booked {begun : Engine} (begins : Begins begun) (setup : Setup)
    (turns : List Turn) :
    Booked (begun.history setup (bindings setup) turns) (begun.afterTurns setup turns) := by
  have initially : Booked [] begun := by
    refine ⟨nofun, fun inside => ?_, nofun⟩
    simp [begins.blank.handles] at inside
  exact history_keeps Booked (fun turn _ _ _ booked => booked.take setup turn) initially

/-! ## What every engine of a run is like -/

/-- Controllers and queues are in order, whatever something refers to exists, and every
handle belongs to a controller. -/
structure Sound (policy : Policy) (engine : Engine) : Prop where
  orderly : Orderly policy engine
  grounded : engine.Grounded
  linked : engine.Linked
  booked : ∃ books, Booked books engine

theorem Sound.take {setup : Setup} {engine : Engine} (sound : Sound setup.policy engine)
    (turn : Turn) : Sound setup.policy (engine.take setup turn).2 := by
  have moves := take_moves setup engine turn
  have orderly : Orderly (turn.setup setup).policy engine := sound.orderly
  obtain ⟨books, booked⟩ := sound.booked
  exact ⟨moves.keeps (Orderly (turn.setup setup).policy) (fun move was => was.move move) orderly,
    moves.keeps Grounded (fun move was => was.move move) sound.grounded,
    moves.keeps Linked (fun move was => was.move move) sound.linked,
    _, booked.take setup turn⟩

theorem Sound.afterTurns {setup : Setup} {engine : Engine} (sound : Sound setup.policy engine)
    (turns : List Turn) : Sound setup.policy (engine.afterTurns setup turns) :=
  turns_keep (Sound setup.policy) (fun turn _ _ before => before.take turn) sound

theorem Begins.sound {setup : Setup} {begun : Engine} (begins : Begins begun) :
    Sound setup.policy begun :=
  ⟨begins.orderly, begins.grounded, begins.linked, [], begins.booked setup []⟩

theorem Sound.owner {policy : Policy} {engine : Engine} (sound : Sound policy engine)
    {target : HandleId} {handle : Handle} (holder : engine.handle? target = some handle) :
    ∃ id controller, engine.controllers[id]? = some controller ∧
      handle.Belongs id controller := by
  obtain ⟨books, booked⟩ := sound.booked
  obtain ⟨id, member⟩ := booked.complete (lt_size_of_handle holder)
  exact ⟨id, (booked.owns member).2 handle holder⟩

end Engine

end HotPath

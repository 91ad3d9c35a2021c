import HotPath.Proofs.Native.Selection
import HotPath.Proofs.Tier.CompileOnce
import HotPath.Proofs.Tier.Genuine
import HotPath.Proofs.Tier.Ledger

/-!
Compiled code serves calls only in the shape that the signature of the function selects, whatever a
compiler produces: direct code is checked before it is published, and what a factory makes before a
handle gets it.
-/

namespace HotPath

theorem Definition.generated_ok {definition : Definition} {compiler : Compiler}
    {code : CompiledCode} (generated : definition.generated compiler = .ok code) :
    (definition.hasClosure = false ∧ ∃ native, code = .direct native ∧
      native.shape = definition.signature.selectShape.shape ∧
      compiler.direct definition definition.signature.selectShape.shape = .produced native) ∨
    (definition.hasClosure = true ∧ ∃ make, code = .factory make ∧
      compiler.factory definition definition.signature.selectShape.shape = .produced make) := by
  unfold Definition.generated Controller.generate Controller.selection at generated
  cases capturing : definition.hasClosure with
  | true =>
    refine .inr ⟨rfl, ?_⟩
    cases answer : compiler.factory definition definition.signature.selectShape.shape with
    | refused error | crashed message => simp [capturing, answer, Generated.map] at generated
    | produced make =>
      simp only [capturing, answer, Generated.map, ↓reduceIte, Except.ok.injEq] at generated
      exact ⟨make, generated.symm, rfl⟩
  | false =>
    refine .inl ⟨rfl, ?_⟩
    cases answer : compiler.direct definition definition.signature.selectShape.shape with
    | refused error | crashed message => simp [capturing, answer, Generated.map] at generated
    | produced native =>
      by_cases same : native.shape = definition.signature.selectShape.shape
      · simp only [capturing, answer, Generated.map, Bool.false_eq_true, ↓reduceIte, same,
          Except.ok.injEq] at generated
        exact ⟨native, generated.symm, same, rfl⟩
      · simp [capturing, answer, Generated.map, same] at generated

namespace Controller

/-- A controller has published a factory, and what it makes for a closure has another
shape than the selected one. -/
def Misshapes (controller : Controller) (binding : Binding) (shape : Shape) : Prop :=
  ∃ make, controller.published = some (.factory make) ∧ (make binding).shape = shape ∧
    shape ≠ controller.selection.shape

/-- Published direct code has the selected shape, and belongs to a function without
captured variables; factories belong to the others. -/
structure Shaped (controller : Controller) : Prop where
  direct : ∀ {native : NativeFn}, controller.published = some (.direct native) →
    controller.definition.hasClosure = false ∧ native.shape = controller.selection.shape
  factory : ∀ {make : Binding → NativeFn}, controller.published = some (.factory make) →
    controller.definition.hasClosure = true

variable {controller : Controller} {closure : Option Binding}

theorem Shaped.change {setup : Setup} {asked : Prop} {changed : Controller}
    (shaped : controller.Shaped) (change : controller.Change setup asked changed) :
    changed.Shaped := by
  constructor
  · intro native published
    rw [change.definition, selection, change.definition]
    rcases change.published_origin published with before | generated
    · exact shaped.direct before
    · rcases Definition.generated_ok generated with ⟨plain, _, same, shape, -⟩ | ⟨-, _, same, -⟩
      · cases same
        exact ⟨plain, shape⟩
      · cases same
  · intro make published
    rw [change.definition]
    rcases change.published_origin published with before | generated
    · exact shaped.factory before
    · rcases Definition.generated_ok generated with ⟨-, _, same, -⟩ | ⟨capturing, -⟩
      · cases same
      · exact capturing

/-- Where an entry comes from: published code has an entry point of the selected shape
for the closure. -/
theorem entryFor?_ok {entry : CompiledEntry}
    (entered : controller.entryFor? closure = some (.ok entry)) :
    ∃ code native, controller.published = some code ∧ code.entryPoint? closure = some native ∧
      native.shape = controller.selection.shape ∧
      entry.Fits controller.definition.signature := by
  obtain ⟨code, published, resolved⟩ := Option.map_eq_some_iff.mp entered
  cases entryPoint : code.entryPoint? closure with
  | none => simp [entryPoint] at resolved
  | some native =>
    rw [entryPoint] at resolved
    obtain ⟨shape, fits⟩ := CompiledEntry.resolve_ok resolved
    exact ⟨code, native, published, entryPoint, shape, fits⟩

theorem Misshapes.entryFor? {binding : Binding} {shape : Shape}
    (misshapes : controller.Misshapes binding shape) :
    controller.entryFor? (some binding) =
      some (.error ⟨controller.definition.signature, shape⟩) := by
  obtain ⟨make, published, rfl, other⟩ := misshapes
  have unfit := CompiledEntry.resolve_of_other_shape other
  simp only [Controller.entryFor?, published, Option.map_some, CompiledCode.entryPoint?, unfit]

end Controller

theorem Handle.Belongs.entry {id : ControllerId} {controller : Controller} {handle : Handle}
    (belongs : handle.Belongs id controller) {entry : CompiledEntry}
    (calls : handle.entry? = some entry) :
    ∃ closure, controller.entryFor? closure = some (.ok entry) ∧
      (handle.isCompiled = false → handle.closure? = closure) := by
  cases belongs with
  | compiled fits =>
    cases calls
    exact ⟨_, fits, nofun⟩
  | @interpreted closure link settles =>
    cases link with
    | switched =>
      cases calls
      exact ⟨closure, settles, fun _ => rfl⟩
    | unresolved | pinned => cases calls

namespace Engine

section

variable {setup : Setup} {engine next : Engine}

/-! ## Binds that meet misshapen code -/

theorem bindCompiled_misshapen {id : ControllerId} {controller later : Controller}
    {binding : Binding} {shape : Shape} (found : engine.controllers[id]? = some controller)
    (present : (engine.bindCompiled setup id controller (some binding)).2.controllers[id]? =
      some later) (misshapes : later.Misshapes binding shape) :
    (engine.bindCompiled setup id controller (some binding)).1 =
      .error (.compile (.unexpectedShape controller.selection.shape shape)) := by
  obtain ⟨changed, compiled, settled⟩ := compile_settles setup found
  have unfit := misshapes.entryFor?
  obtain ⟨make, published, -⟩ := misshapes
  unfold bindCompiled at present ⊢
  generalize engine.compile setup id = answer at compiled settled present
  obtain ⟨result, after⟩ := answer
  cases result with
  | error error =>
    -- A failed attempt publishes nothing.
    cases compiled.symm.trans present
    rw [Controller.unpublished_of_failed settled] at published
    cases published
  | ok _ =>
    simp only [compiled, Option.bind_some] at present ⊢
    have same : changed = later := by
      split at present <;> exact Option.some.inj (compiled.symm.trans present)
    rw [same, unfit]

theorem bindController_misshapen {id : ControllerId} {controller later : Controller}
    {binding : Binding} {shape : Shape} (found : engine.controllers[id]? = some controller)
    (closes : controller.definition.checkClosure (some binding) = .ok ())
    (present : (engine.bindController setup id controller (some binding)).2.controllers[id]? =
      some later) (misshapes : later.Misshapes binding shape) :
    (setup.interprets = false →
      (engine.bindController setup id controller (some binding)).1 =
        .error (.compile (.unexpectedShape controller.selection.shape shape))) ∧
    (setup.interprets = true →
      engine.bindController setup id controller (some binding) =
        (.ok engine.handles.size, (engine.addHandle
          ⟨controller.definition, .interpreted id (some binding) .unresolved⟩).2)) := by
  constructor
  · intro compileOnly
    simp only [bindController, closes, compileOnly, Bool.not_false, ↓reduceIte] at present ⊢
    exact bindCompiled_misshapen found present misshapes
  · intro interprets
    simp only [bindController, closes, interprets, Bool.not_true, Bool.false_eq_true,
      ↓reduceIte] at present ⊢
    -- A bind of an engine with an interpreter compiles nothing.
    have same : controller = later := Option.some.inj (found.symm.trans present)
    rw [same, misshapes.entryFor?]
    cases later.selection.exact <;> rfl

/-- A turn that binds does so through a controller that is alive, in the engine that it finds but
for a controller made on the way. -/
theorem take_of_binder (grounded : engine.Grounded) {turn : Turn} {its : ControllerId}
    {closure : Option Binding}
    (binds : engine.binder? (turn.setup setup) turn.command = some (its, closure)) :
    ∃ tracking controller, engine.Idle tracking ∧ tracking.isLive its = true ∧
      tracking.controllers[its]? = some controller ∧
      engine.take setup turn =
        (tracking.bindController (turn.setup setup) its controller closure).map .bound id := by
  obtain ⟨compiler, command⟩ := turn
  cases command with
  | bind definition given =>
    obtain ⟨rfl, rfl⟩ := Prod.mk.inj (Option.some.inj binds)
    have existing := existing_controllerFor (Turn.setup ⟨compiler, .bind definition given⟩ setup)
      grounded definition
    refine ⟨_, _, idle_controllerFor _ engine definition, isLive_controllerFor _ engine definition,
      Array.getElem?_eq_getElem existing, ?_⟩
    simp only [take, perform, bind, Array.getElem?_eq_getElem existing]
  | bindHeld other given =>
    obtain ⟨controller, kept, same⟩ := Option.map_eq_some_iff.mp binds
    obtain ⟨rfl, rfl⟩ := Prod.mk.inj same
    obtain ⟨held, found⟩ := heldController?_eq_some.mp kept
    refine ⟨engine, controller, .refl engine, isLive_of_held held, found, ?_⟩
    simp only [take, perform, kept]
  | _ => cases binds

/-- A bind that meets misshapen code fails with the two shapes without an interpreter,
and makes an interpreted handle with one. -/
theorem take_binder_misshapen (grounded : engine.Grounded) {turn : Turn} {binding : Binding}
    {its : ControllerId} {later : Controller} {shape : Shape}
    (binds : engine.binder? (turn.setup setup) turn.command = some (its, some binding))
    (present : (engine.take setup turn).2.controllers[its]? = some later)
    (closes : later.definition.checkClosure (some binding) = .ok ())
    (misshapes : later.Misshapes binding shape) :
    (setup.interprets = false →
      (engine.take setup turn).1 =
        .bound (.error (.compile (.unexpectedShape later.selection.shape shape)))) ∧
    (setup.interprets = true →
      (engine.take setup turn).1 = .bound (.ok engine.handles.size) ∧
      (engine.take setup turn).2.handle? engine.handles.size =
        some ⟨later.definition, .interpreted its (some binding) .unresolved⟩) := by
  obtain ⟨tracking, controller, idle, live, found, taken⟩ := take_of_binder grounded binds
  rw [taken] at present ⊢
  have moves : Moves (turn.setup setup) (fun _ => True) (fun _ => True) tracking
      (tracking.bindController (turn.setup setup) its controller (some binding)).2 :=
    bindController_moves found live (some binding) fun _ _ => trivial
  obtain ⟨changed, after, unchanged⟩ := moves.definition found
  obtain rfl : later = changed := Option.some.inj (present.symm.trans after)
  have selected : later.selection = controller.selection := by
    rw [Controller.selection, unchanged, Controller.selection]
  rw [unchanged] at closes
  obtain ⟨fails, succeeds⟩ := bindController_misshapen found closes present misshapes
  constructor
  · intro compileOnly
    rw [selected]
    exact congrArg Answer.bound (fails compileOnly)
  · intro interprets
    rw [succeeds interprets, unchanged, ← idle.size]
    refine ⟨rfl, ?_⟩
    exact (handle?_addHandle _ _).trans (if_pos rfl)

/-! ## Runs -/

theorem Begins.shaped_afterTurns {begun : Engine} (begins : Begins begun) (setup : Setup)
    (turns : List Turn) {id : ControllerId} {controller : Controller}
    (found : (begun.afterTurns setup turns).controllers[id]? = some controller) :
    controller.Shaped := by
  refine afterTurns_keeps (fun engine => ∀ controller, engine.controllers[id]? = some controller →
    controller.Shaped) (fun compiler _ _ move earlier _ found => ?_) ?_ turns controller found
  · have moves : Moves { setup with compiler } (fun _ => True) (fun _ => True) _ _ := .single move
    exact moves.controller_keeps Controller.Shaped (fun change shaped => shaped.change change)
      (fun _ _ => ⟨nofun, nofun⟩) (earlier _) found
  · intro controller found
    simp [begins.blank.controllers] at found

theorem Booked.entry {books : List (HandleId × ControllerId)} (booked : Booked books engine)
    {target : HandleId} {handle : Handle} {entry : CompiledEntry}
    (holder : engine.handle? target = some handle) (calls : handle.entry? = some entry) :
    ∃ id controller closure, (target, id) ∈ books ∧ engine.controllers[id]? = some controller ∧
      handle.Belongs id controller ∧ controller.entryFor? closure = some (.ok entry) := by
  obtain ⟨id, member⟩ := booked.complete (lt_size_of_handle holder)
  obtain ⟨controller, found, belongs⟩ := (booked.owns member).2 handle holder
  obtain ⟨closure, entered, -⟩ := belongs.entry calls
  exact ⟨id, controller, closure, member, found, belongs, entered⟩

/-- Every run of compiled code so far had the shape that the function of its handle selects. -/
def Fitted (books : List (HandleId × ControllerId)) (engine : Engine) : Prop :=
  ∀ target shape adapted, Event.entered target shape adapted ∈ engine.services →
    ∃ id controller, (target, id) ∈ books ∧ engine.controllers[id]? = some controller ∧
      shape = controller.selection.shape ∧ adapted = !controller.selection.exact

theorem Fitted.take {books : List (HandleId × ControllerId)} (booked : Booked books engine)
    (fitted : Fitted books engine) (turn : Turn) :
    Fitted (books ++ engine.bindings setup turn) (engine.take setup turn).2 := by
  have still {target : HandleId} {shape : Shape} {adapted : Bool}
      (earlier : Event.entered target shape adapted ∈ engine.services) :
      ∃ id controller, (target, id) ∈ books ++ engine.bindings setup turn ∧
        (engine.take setup turn).2.controllers[id]? = some controller ∧
        shape = controller.selection.shape ∧ adapted = !controller.selection.exact := by
    obtain ⟨id, controller, member, found, shape, adapted⟩ := fitted _ _ _ earlier
    have moves := take_moves setup engine turn
    obtain ⟨changed, present, unchanged⟩ := moves.definition found
    have selected : changed.selection = controller.selection := by
      rw [Controller.selection, unchanged, Controller.selection]
    exact ⟨id, changed, List.mem_append_left _ member, present, selected ▸ shape,
      selected ▸ adapted⟩
  intro target shape adapted member
  -- Only a call of compiled code adds such an event, and its entry comes from the published code.
  cases take_serves setup engine turn with
  | nobody services =>
    rw [services] at member
    exact still member
  | interpreter interprets =>
    obtain ⟨_, _, _, _, _, -, -, -, served⟩ := interprets
    rw [served.services] at member
    rcases List.mem_append.mp member with earlier | last
    · exact still earlier
    · cases List.mem_singleton.mp last
  | code enters =>
    obtain ⟨args, handle, calls, holder, kept, -, served⟩ := enters
    rw [served.services] at member
    rcases List.mem_append.mp member with earlier | last
    · exact still earlier
    · cases List.mem_singleton.mp last
      obtain ⟨id, controller, closure, listed, found, belongs, entered⟩ :=
        (booked.take setup turn).entry holder kept
      obtain ⟨_, _, -, -, -, fits⟩ := Controller.entryFor?_ok entered
      exact ⟨id, controller, listed, found, fits.shape, fits.adapted⟩

theorem Begins.fitted {begun : Engine} (begins : Begins begun) (setup : Setup)
    (turns : List Turn) :
    Fitted (begun.history setup (bindings setup) turns) (begun.afterTurns setup turns) := by
  have initially : Booked [] begun ∧ Fitted [] begun := by
    refine ⟨begins.booked setup [], fun target shape adapted member => ?_⟩
    simp [begins.blank.services] at member
  refine (history_keeps (fun books engine => Booked books engine ∧ Fitted books engine) ?_
    initially).2
  intro turn _ books engine earlier
  exact ⟨earlier.1.take setup turn, earlier.2.take earlier.1 turn⟩

/-- Compiled code serves calls only in the shape that its function's signature selects, whatever
the compiler does. -/
theorem entries_fit {begun engine : Engine} (begins : Begins begun) {turns : List Turn}
    (reached : begun.afterTurns setup turns = engine) :
    (∀ target shape adapted, Event.entered target shape adapted ∈ engine.services →
      ∃ id controller, (target, id) ∈ begun.history setup (bindings setup) turns ∧
        engine.controllers[id]? = some controller ∧ shape = controller.selection.shape ∧
        adapted = !controller.selection.exact) ∧
    (∀ target handle entry, engine.handle? target = some handle → handle.entry? = some entry →
      ∃ id controller code closure native,
        (target, id) ∈ begun.history setup (bindings setup) turns ∧
        engine.controllers[id]? = some controller ∧ handle.definition = controller.definition ∧
        controller.published = some code ∧ code.entryPoint? closure = some native ∧
        native.shape = controller.selection.shape ∧
        CompiledEntry.resolve controller.definition.signature native = .ok entry ∧
        entry.shape = controller.selection.shape ∧
        entry.isAdapted = !controller.selection.exact) ∧
    (∀ turn target shape adapted,
      (engine.take setup turn).2.services = engine.services ++ [.entered target shape adapted] →
      ∃ entry, engine.Enters setup turn target entry ∧ entry.shape = shape ∧
        entry.isAdapted = adapted) ∧
    (∀ (id : ControllerId) (controller : Controller) (native : NativeFn),
      engine.controllers[id]? = some controller →
      controller.published = some (.direct native) →
      native.shape = controller.selection.shape) ∧
    ∀ (id : ControllerId) (controller : Controller) (binding : Binding) (shape : Shape),
      controller.Misshapes binding shape →
      (engine.controllers[id]? = some controller →
        ∀ target handle, engine.handle? target = some handle → handle.controller? = some id →
          handle.closure? = some binding → handle.entry? = none) ∧
      ∀ turn, engine.binder? (turn.setup setup) turn.command = some (id, some binding) →
        (engine.take setup turn).2.controllers[id]? = some controller →
        controller.definition.checkClosure (some binding) = .ok () →
        (setup.interprets = false →
          (engine.take setup turn).1 =
            .bound (.error (.compile (.unexpectedShape controller.selection.shape shape)))) ∧
        (setup.interprets = true →
          (engine.take setup turn).1 = .bound (.ok engine.handles.size) ∧
          (engine.take setup turn).2.handle? engine.handles.size =
            some ⟨controller.definition, .interpreted id (some binding) .unresolved⟩) := by
  subst reached
  have booked := begins.booked setup turns
  refine ⟨begins.fitted setup turns, ?_, ?_, ?_, ?_⟩
  · intro target handle entry holder calls
    obtain ⟨id, controller, closure, member, found, belongs, entered⟩ :=
      booked.entry holder calls
    obtain ⟨code, native, published, entryPoint, shape, fits⟩ := Controller.entryFor?_ok entered
    have resolved := entered
    simp only [Controller.entryFor?, published, Option.map_some, entryPoint,
      Option.some.injEq] at resolved
    refine ⟨id, controller, code, closure, native, member, found, ?_, published, entryPoint, shape,
      resolved, fits.shape, fits.adapted⟩
    cases belongs <;> rfl
  · intro turn target shape adapted added
    cases take_serves setup (begun.afterTurns setup turns) turn with
    | nobody services => simp [services] at added
    | interpreter interprets =>
      obtain ⟨_, _, _, _, _, -, -, -, served⟩ := interprets
      simp [served.services] at added
    | @code other entry enters =>
      have served := enters
      obtain ⟨_, _, -, -, -, -, served⟩ := served
      rw [served.services] at added
      cases List.singleton_inj.mp (List.append_cancel_left added)
      exact ⟨entry, enters, rfl, rfl⟩
  · intro id controller native found published
    exact ((begins.shaped_afterTurns setup turns found).direct published).2
  · intro id controller binding shape misshapes
    constructor
    · intro found target handle holder its bound
      -- An entry of the handle would come from the very code that does not fit.
      by_contra called
      obtain ⟨entry, calls⟩ := Option.ne_none_iff_exists'.mp called
      obtain ⟨other, owner, -, -, present, belongs, -⟩ := booked.entry holder calls
      obtain ⟨met, entered, same⟩ := belongs.entry calls
      cases belongs with
      | compiled => cases its
      | interpreted =>
        cases its
        cases found.symm.trans present
        have closes : met = some binding := (same rfl).symm.trans bound
        rw [closes, misshapes.entryFor?] at entered
        cases entered
    · intro turn binds present closes
      exact take_binder_misshapen (begins.grounded_afterTurns setup turns) binds present closes
        misshapes

end

theorem entries_fit_tally :
    ∃ canned engine, plain.afterTurns { eager canned with interprets := false }
        [⟨canned, .newCell (.int 40)⟩] = engine ∧
      (engine.take { eager canned with interprets := false }
        ⟨canned, .bind .tally (some [0])⟩).1 =
          .bound (.error (.compile (.unexpectedShape (.uniform 1 true) (.func 1)))) := by
  have begins : Begins plain := .installed .shared false
  let canned : Compiler := (Compiler.reference none).sabotaged fun _ => some (.canned (.func 1))
  let later : Controller := {
    definition := .tally, scheduler := 0, promotion := .compiled
    published := some (.factory fun _ => .canned (.func 1))
    counters := { completed := 1, micros := 1 } }
  have misshapes : later.Misshapes [0] (.func 1) := ⟨_, rfl, rfl, by decide⟩
  have reached : plain.afterTurns { eager canned with interprets := false }
      [⟨canned, .newCell (.int 40)⟩] = _ := rfl
  obtain ⟨-, -, -, -, misshapen⟩ := entries_fit begins reached
  obtain ⟨-, bind⟩ := misshapen 0 later [0] (.func 1) misshapes
  exact ⟨canned, _, rfl, (bind ⟨canned, .bind .tally (some [0])⟩ rfl rfl rfl).1 rfl⟩

end Engine

end HotPath

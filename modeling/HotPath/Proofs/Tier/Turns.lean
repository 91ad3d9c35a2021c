import HotPath.Proofs.Tier.Moves

/-!
Runs under a compiler that may change its mind between commands, and what every such run keeps. A
history of a run gathers what each turn shows in the engine that it finds.
-/

namespace HotPath.Engine

/-- A command, and how the compiler answers while it is carried out. -/
structure Turn where
  compiler : Compiler
  command : Command

def Turn.setup (turn : Turn) (setup : Setup) : Setup := { setup with compiler := turn.compiler }

def take (setup : Setup) (engine : Engine) (turn : Turn) : Answer × Engine :=
  engine.perform (turn.setup setup) turn.command

def afterTurns (setup : Setup) (engine : Engine) (turns : List Turn) : Engine :=
  turns.foldl (fun engine turn => (engine.take setup turn).2) engine

theorem afterTurns_append (setup : Setup) (engine : Engine) (first second : List Turn) :
    engine.afterTurns setup (first ++ second) =
      (engine.afterTurns setup first).afterTurns setup second := by
  simp [afterTurns]

/-- An engine at the beginning of its life: it has one scheduler, and at most log
records in its journal. -/
inductive Begins : Engine → Prop where
  | installed (kind : SchedulerKind) (drained : Bool) : Begins (({} : Engine).install kind drained)
  | logged {engine : Engine} (begins : Begins engine) (thread : Thread) (entry : LogRecord) :
      Begins (engine.record (.logged thread entry))

/-- A setup that hands every function over at its first call. -/
def eager (compiler : Compiler) : Setup where
  interprets := true
  compiler := compiler
  policy := { threshold := 1 }
  codegenMicros _ := 1
  rounds := 1
  thread := .host

theorem take_moves (setup : Setup) (engine : Engine) (turn : Turn) :
    Moves (turn.setup setup) (fun _ => True) (fun _ => True) engine (engine.take setup turn).2 :=
  perform_moves (fun _ _ => trivial) (fun _ _ => trivial)

/-- What each turn of a run keeps, the run keeps. -/
theorem turns_keep {setup : Setup} (holds : Engine → Prop) {turns : List Turn}
    (kept : ∀ turn ∈ turns, ∀ {engine : Engine}, holds engine → holds (engine.take setup turn).2)
    {engine : Engine} (initially : holds engine) : holds (engine.afterTurns setup turns) := by
  induction turns generalizing engine with
  | nil => exact initially
  | cons turn rest inductionHypothesis =>
    obtain ⟨first, later⟩ := List.forall_mem_cons.mp kept
    exact inductionHypothesis later (first initially)

/-- What each elementary change keeps, a run keeps. -/
theorem afterTurns_keeps {setup : Setup} (holds : Engine → Prop)
    (kept : ∀ compiler {engine next : Engine},
      Move { setup with compiler } (fun _ => True) (fun _ => True) engine next →
        holds engine → holds next)
    {engine : Engine} (initially : holds engine) (turns : List Turn) :
    holds (engine.afterTurns setup turns) :=
  turns_keep holds (fun turn _ engine before =>
    (take_moves setup engine turn).keeps holds (kept turn.compiler) before) initially

/-- What the turns of a run show, each in the engine that it finds. -/
def history {α : Type} (setup : Setup) (shows : Engine → Turn → List α) :
    Engine → List Turn → List α
  | _, [] => []
  | engine, turn :: rest =>
    shows engine turn ++ history setup shows (engine.take setup turn).2 rest

theorem history_append {α : Type} (setup : Setup) (shows : Engine → Turn → List α)
    (engine : Engine) (first second : List Turn) :
    engine.history setup shows (first ++ second) =
      engine.history setup shows first ++
        (engine.afterTurns setup first).history setup shows second := by
  induction first generalizing engine with
  | nil => rfl
  | cons turn rest inductionHypothesis =>
    rw [List.cons_append, history, inductionHypothesis, history, List.append_assoc]
    rfl

/-- What each turn keeps of the engine and of all that was shown before, a run keeps. -/
theorem history_keeps {α : Type} {setup : Setup} {shows : Engine → Turn → List α}
    (holds : List α → Engine → Prop) {turns : List Turn}
    (kept : ∀ turn ∈ turns, ∀ {shown : List α} {engine : Engine}, holds shown engine →
      holds (shown ++ shows engine turn) (engine.take setup turn).2)
    {shown : List α} {engine : Engine} (initially : holds shown engine) :
    holds (shown ++ engine.history setup shows turns) (engine.afterTurns setup turns) := by
  induction turns generalizing shown engine with
  | nil => simpa only [history, afterTurns, List.foldl_nil, List.append_nil] using initially
  | cons turn rest inductionHypothesis =>
    have first := kept turn List.mem_cons_self initially
    have later := inductionHypothesis (fun other member =>
      kept other (List.mem_cons_of_mem turn member)) first
    rw [history, ← List.append_assoc]
    exact later

/-- Whatever something refers to exists. -/
def Grounded (engine : Engine) : Prop :=
  ∀ id, engine.isLive id = true → id < engine.controllers.size

theorem Grounded.move {setup : Setup} {named : Definition → Prop} {asked : ControllerId → Prop}
    {engine next : Engine} (grounded : engine.Grounded)
    (move : Move setup named asked engine next) : next.Grounded := by
  intro id live
  rcases move.isLive_cases live with earlier | ⟨-, made⟩
  · exact Nat.lt_of_lt_of_le (grounded id earlier) move.size_controllers
  · exact made

theorem Begins.grounded {begun : Engine} (begins : Begins begun) : begun.Grounded := by
  induction begins with
  | installed kind drained =>
    intro id live
    simp [isLive, install] at live
  | logged _ _ _ grounded => exact grounded

/-- The registry leads from each function to a controller of that function. -/
def Registered (engine : Engine) : Prop :=
  ∀ ⦃entry : DefinitionId × ControllerId⦄, entry ∈ engine.registry →
    ∃ controller, engine.controllers[entry.2]? = some controller ∧
      controller.definition.id = entry.1

theorem Registered.move {setup : Setup} {named : Definition → Prop} {asked : ControllerId → Prop}
    {engine next : Engine} (registered : engine.Registered)
    (move : Move setup named asked engine next) : next.Registered := by
  intro entry member
  rcases move.registry_origin member with earlier | ⟨definition, rfl, made⟩
  · obtain ⟨controller, present, its⟩ := registered earlier
    obtain ⟨changed, later, change⟩ := move.controller_change present
    exact ⟨changed, later, change.definition ▸ its⟩
  · exact ⟨{ definition, scheduler := engine.current }, by simp [made], rfl⟩

theorem Begins.registered {begun : Engine} (begins : Begins begun) : begun.Registered := by
  induction begins with
  | installed kind drained =>
    intro entry member
    cases member
  | logged _ _ _ registered => exact registered

/-- A controller of the function stands behind a link, and has published code if the
link is settled. -/
def Backs (engine : Engine) (definition : Definition) (id : ControllerId) (link : Link) : Prop :=
  ∃ controller, engine.controllers[id]? = some controller ∧ controller.definition = definition ∧
    (link = .unresolved ∨ ∃ code, controller.published = some code)

/-- Every handle that may run the interpreter is backed by a controller, and has a
closure that fits. -/
def Linked (engine : Engine) : Prop :=
  ∀ ⦃target : HandleId⦄ ⦃definition : Definition⦄ ⦃id : ControllerId⦄ ⦃closure : Option Binding⦄
    ⦃link : Link⦄, engine.handle? target = some ⟨definition, .interpreted id closure link⟩ →
    definition.checkClosure closure = .ok () ∧ engine.Backs definition id link

section

variable {setup : Setup} {named : Definition → Prop} {asked : ControllerId → Prop}
  {engine next : Engine}

theorem Move.backs (move : Move setup named asked engine next) {definition : Definition}
    {id : ControllerId} {link : Link} (backs : engine.Backs definition id link) :
    next.Backs definition id link := by
  obtain ⟨controller, present, its, settled⟩ := backs
  obtain ⟨changed, later, change⟩ := move.controller_change present
  refine ⟨changed, later, change.definition.trans its, ?_⟩
  rcases settled with unresolved | ⟨code, published⟩
  · exact .inl unresolved
  · exact .inr ⟨code, change.published published⟩

theorem Linked.settle (linked : engine.Linked) {target : HandleId} {definition : Definition}
    {id : ControllerId} {closure : Option Binding} {controller : Controller}
    {entered : Except Mismatch CompiledEntry}
    (holder : engine.handle? target = some ⟨definition, .interpreted id closure .unresolved⟩)
    (found : engine.controllers[id]? = some controller)
    (entry : controller.entryFor? closure = some entered) (link : Link) :
    definition.checkClosure closure = .ok () ∧ engine.Backs definition id link := by
  obtain ⟨closes, its, present, same, -⟩ := linked holder
  cases found.symm.trans present
  exact ⟨closes, controller, found, same, .inr (Controller.published_of_entry entry)⟩

theorem Linked.move (linked : engine.Linked) (move : Move setup named asked engine next) :
    next.Linked := by
  intro target definition id closure link found
  have origin := move.handle_origin found
  suffices before : definition.checkClosure closure = .ok () ∧ engine.Backs definition id link from
    ⟨before.1, move.backs before.2⟩
  cases origin with
  | kept holder => exact linked holder
  | interpreted _ present _ closes => exact ⟨closes, _, present, rfl, .inl rfl⟩
  | switched holder present fits => exact linked.settle holder present fits _
  | pinned holder present misfits => exact linked.settle holder present misfits _

end

theorem Begins.linked {begun : Engine} (begins : Begins begun) : begun.Linked := by
  induction begins with
  | installed kind drained =>
    intro target definition id closure link found
    simp [handle?, install] at found
  | logged _ _ _ linked => exact linked

end HotPath.Engine

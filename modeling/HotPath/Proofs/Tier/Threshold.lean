import HotPath.Proofs.Tier.CompileOnce
import HotPath.Proofs.Tier.Ledger

/-!
When a function is handed over for background compilation: during the counted call whose number is
the threshold, unless its compilation was asked for before, and never else.
-/

namespace HotPath

def Event.isInterpreted (id : ControllerId) : Event → Bool
  | .interpreted _ its => its == id
  | _ => false

namespace Controller

/-- A function that was handed over had enough calls. -/
def Late (policy : Policy) (controller : Controller) : Prop :=
  controller.counters.scheduled ≠ 0 → max 1 policy.threshold ≤ controller.executionCount

theorem Late.change {setup : Setup} {asked : Prop} {controller changed : Controller}
    (late : controller.Late setup.policy) (change : controller.Change setup asked changed) :
    changed.Late setup.policy := by
  cases change with
  | kept | interpreted | promoted => exact late
  | compiled =>
    cases controller.generate setup.compiler with
    | ok code => exact late
    | error error => exact late
  | counted _ count =>
    obtain rfl := countCall?_eq_some count
    intro submitted
    exact Nat.le_succ_of_le (late submitted)
  | scheduled _ count due =>
    obtain rfl := countCall?_eq_some count
    intro _
    simp only [isDue, Bool.and_eq_true, decide_eq_true_eq] at due
    exact Nat.max_le.mpr ⟨Nat.succ_le_succ (Nat.zero_le _), due.1⟩

theorem handsOver_iff {policy : Policy} {controller : Controller} :
    controller.handsOver policy = true ↔ policy.enabled = true ∧
      controller.executionCount < maxExecutionCount ∧
      policy.threshold ≤ controller.executionCount + 1 ∧ controller.promotion = .cold := by
  by_cases below : controller.executionCount < maxExecutionCount
  · simp [handsOver, countCall?, below, isDue]
  · simp [handsOver, countCall?, below]

/-- Handing over, in numbers: the call that is counted now has the threshold as its number. -/
theorem Coherent.handsOver_iff_number {policy : Policy} {controller : Controller}
    (coherent : controller.Coherent policy) {calls : Nat} (enabled : policy.enabled = true)
    (counted : controller.executionCount = min maxExecutionCount calls) :
    controller.handsOver policy = true ↔ calls + 1 = max 1 policy.threshold ∧
      calls < maxExecutionCount ∧ controller.promotion = .cold := by
  rw [handsOver_iff]
  constructor
  · rintro ⟨-, below, reached, cold⟩
    have early := coherent.early cold enabled
    refine ⟨?_, ?_, cold⟩
    · omega
    · omega
  · rintro ⟨number, below, cold⟩
    refine ⟨enabled, ?_, ?_, cold⟩
    · omega
    · omega

end Controller

namespace Engine

/-- A turn counts a call of a controller's function: a handle runs the interpreter, or
the host counts a call itself. -/
def counts (setup : Setup) (engine : Engine) (turn : Turn) (id : ControllerId) : Bool :=
  ((engine.take setup turn).2.services.drop engine.services.length).any (·.isInterpreted id) ||
    engine.hostCounts id turn.command

def countedCalls (setup : Setup) (begun : Engine) (turns : List Turn) (id : ControllerId) : Nat :=
  (begun.history setup
    (fun engine turn => if engine.counts setup turn id then [turn] else []) turns).length

/-- One task is submitted, for a controller's function, to the controller's scheduler. -/
def Submits (engine next : Engine) (id : ControllerId) : Prop :=
  ∃ controller, engine.controllers[id]? = some controller ∧
    (∀ scheduler, next.submitted scheduler =
      engine.submitted scheduler + if scheduler = controller.scheduler then 1 else 0) ∧
    next.waiting controller.scheduler = engine.waiting controller.scheduler ++ [id]

section

variable {setup : Setup} {engine next : Engine}

theorem Submits.unique {id other : ControllerId} (submits : engine.Submits next id)
    (submits' : engine.Submits next other) : id = other := by
  obtain ⟨controller, -, submitted, waits⟩ := submits
  obtain ⟨controller', -, submitted', waits'⟩ := submits'
  have same : controller.scheduler = controller'.scheduler := by
    have both := (submitted controller.scheduler).symm.trans (submitted' controller.scheduler)
    rw [if_pos rfl] at both
    by_contra different
    rw [if_neg different] at both
    omega
  rw [← same, waits] at waits'
  exact List.singleton_inj.mp (List.append_cancel_left waits')

theorem Submits.submits_something {id : ControllerId} (submits : engine.Submits next id) :
    ∃ scheduler, next.submitted scheduler ≠ engine.submitted scheduler := by
  obtain ⟨controller, -, submitted, -⟩ := submits
  refine ⟨controller.scheduler, ?_⟩
  rw [submitted, if_pos rfl]
  omega

/-- Counting a call submits a task exactly when it hands the function over. -/
theorem Orderly.recordCall_submits (orderly : Orderly setup.policy engine) {id : ControllerId}
    {controller : Controller} (found : engine.controllers[id]? = some controller) :
    if controller.handsOver setup.policy = true then
      engine.Submits (engine.recordCall setup id) id
    else ∀ scheduler, (engine.recordCall setup id).submitted scheduler =
      engine.submitted scheduler := by
  have installed := (orderly.tasked found).installed
  have schedulers := (recordCall_found setup found).2
  split at schedulers
  · rw [if_pos ‹_›]
    refine ⟨controller, found, fun scheduler => ?_, ?_⟩
    · rw [submitted, schedulers, ← submitted_submitTask installed id scheduler, submitted]
    · have waits := waiting_submitTask installed id controller.scheduler
      rw [if_pos rfl] at waits
      rw [← waits, waiting, schedulers, ← waiting]
  · rw [if_neg ‹_›]
    intro scheduler
    rw [submitted, schedulers, ← submitted]

/-! ## Turns -/

/-- What a turn does to counted calls: it counts one for a controller, and perhaps hands
the function over; or it counts none, and submits nothing. -/
inductive Counting (setup : Setup) (engine : Engine) (turn : Turn) : Prop where
  | one {id : ControllerId} {controller : Controller}
      (found : engine.controllers[id]? = some controller)
      (counts : ∀ other, engine.counts setup turn other = (id == other))
      (serves : engine.hostCounts id turn.command = true ∨ engine.Interprets setup turn id)
      (counted : ∀ other, ((engine.take setup turn).2.callCounts other).counted =
        if other = id then (controller.afterCall setup.policy).executionCount
        else (engine.callCounts other).counted)
      (submits : if controller.handsOver setup.policy = true then
          engine.Submits (engine.take setup turn).2 id
        else ∀ scheduler, (engine.take setup turn).2.submitted scheduler =
          engine.submitted scheduler)
  | none (counts : ∀ id, engine.counts setup turn id = false)
      (counted : ∀ id, ((engine.take setup turn).2.callCounts id).counted =
        (engine.callCounts id).counted)
      (submits : ∀ scheduler, (engine.take setup turn).2.submitted scheduler =
        engine.submitted scheduler)

theorem Bound.quiet {id : ControllerId} {closure : Option Binding}
    {result : Except BindError HandleId × Engine} (bound : Bound engine id closure result) :
    (∀ other, result.2.callCounts other = engine.callCounts other) ∧
      result.2.services = engine.services ∧
      ∀ scheduler, result.2.submitted scheduler = engine.submitted scheduler := by
  cases bound with
  | refused idle | compiled idle | interpreted idle =>
    exact ⟨idle.callCounts, idle.services, idle.submitted⟩

theorem hostCounts_of_call {turn : Turn} {target : HandleId} {args : List Value}
    (calls : turn.command.call? = some (target, args)) (id : ControllerId) :
    engine.hostCounts id turn.command = false := by
  obtain ⟨compiler, command⟩ := turn
  cases command with
  | countHeld => cases calls
  | _ => rfl

/-- The calls that a turn counts can be read off the runs of tiers that it adds. -/
theorem counts_eq {turn : Turn} {added : List Event}
    (services : (engine.take setup turn).2.services = engine.services ++ added)
    (id : ControllerId) :
    engine.counts setup turn id =
      (added.any (·.isInterpreted id) || engine.hostCounts id turn.command) := by
  rw [counts, services, List.drop_left]

private theorem counting_none {turn : Turn} (added : List Event)
    (services : (engine.take setup turn).2.services = engine.services ++ added)
    (entered : ∀ id, added.any (·.isInterpreted id) = false)
    (uncounted : ∀ id, engine.hostCounts id turn.command = false)
    (counted : ∀ id, ((engine.take setup turn).2.callCounts id).counted =
      (engine.callCounts id).counted)
    (submits : ∀ scheduler, (engine.take setup turn).2.submitted scheduler =
      engine.submitted scheduler) : Counting setup engine turn := by
  refine .none (fun id => ?_) counted submits
  rw [counts_eq services, entered, uncounted]
  rfl

theorem Sound.counting_call (sound : Sound setup.policy engine) {turn : Turn} {target : HandleId}
    {args : List Value} {handle : Handle} {served : Invocation × Engine}
    (calls : turn.command.call? = some (target, args))
    (holder : engine.handle? target = some handle)
    (serving : Serving (turn.setup setup) engine target handle args served)
    (result : engine.take setup turn = (.invoked (turn.command.shown served.1), served.2)) :
    Counting setup engine turn := by
  have uncounted (id : ControllerId) : engine.hostCounts id turn.command = false :=
    hostCounts_of_call calls id
  cases serving with
  | rejected other =>
    refine counting_none [] ?_ (fun _ => rfl) uncounted ?_ ?_ <;> rw [result]
    · exact (List.append_nil _).symm
    · exact fun _ => rfl
    · exact fun _ => rfl
  | @entered entry fits entered =>
    refine counting_none [.entered target entry.shape entry.isAdapted] ?_ (fun _ => rfl)
      uncounted ?_ ?_ <;> rw [result]
    · exact services_enter _ engine target entry args
    · exact fun _ => rfl
    · exact fun _ => rfl
  | @interpreted id closure link fits dispatch unmet =>
    obtain ⟨definition, dispatch'⟩ := handle
    obtain rfl : dispatch' = _ := dispatch
    obtain ⟨-, controller, found, -, -⟩ := sound.linked holder
    have added : (engine.take setup turn).2.services =
        engine.services ++ [.interpreted target id] := by
      rw [result]
      exact services_interpret _ engine target id definition closure args
    refine .one found (fun other => ?_) (.inr ?_) (fun other => ?_) ?_
    · rw [counts_eq added, uncounted]
      simp [Event.isInterpreted]
    · exact interprets_of_take calls holder fits result
    all_goals rw [result]
    · rw [callCounts_interpret (turn.setup setup) found]
      split <;> rfl
    · exact sound.orderly.recordCall_submits found
  | @switched id closure controller entry fits dispatch found resolved =>
    refine counting_none [.entered target entry.shape entry.isAdapted] ?_ (fun _ => rfl)
      uncounted ?_ ?_ <;> rw [result]
    · rw [services_enter, services_switchHandle]
    · intro other
      have switched := callCounts_switchHandle (turn.setup setup) found target handle.definition
        closure entry other
      refine (congrArg CallCounts.counted switched).trans ?_
      split
      · subst other
        rw [callCounts_eq found]
      · rfl
    · exact fun _ => rfl
  | @pinned id closure controller mismatch fits dispatch found resolved =>
    obtain ⟨callCounts, services, schedulers⟩ := pinHandle_quiet (turn.setup setup) engine target
      handle.definition id closure mismatch
    refine counting_none [] ?_ (fun _ => rfl) uncounted ?_ ?_ <;> rw [result]
    · rw [List.append_nil]
      exact services
    · exact fun other => congrArg _ (callCounts other)
    · intro scheduler
      rw [submitted, schedulers, submitted]

theorem Sound.counting (sound : Sound setup.policy engine) (turn : Turn) :
    Counting setup engine turn := by
  generalize result : engine.take setup turn = taken
  have turned := result ▸ turned_take setup engine turn
  cases turned with
  | idle idle unbound uncounted =>
    refine counting_none [] ?_ (fun _ => rfl) uncounted ?_ ?_ <;> rw [result]
    · rw [List.append_nil]
      exact idle.services
    · exact fun id => congrArg _ (idle.callCounts id)
    · exact idle.submitted
  | bound binds _ bound =>
    obtain ⟨callCounts, services, submitted⟩ := bound.quiet
    refine counting_none [] ?_ (fun _ => rfl) (hostCounts_of_binds binds) ?_ ?_ <;> rw [result]
    · rw [List.append_nil]
      exact services
    · exact fun id => congrArg _ (callCounts id)
    · exact submitted
  | @counted id counts held =>
    have live : engine.isLive id = true := isLive_iff.mpr (.inr (.inr held))
    have found := Array.getElem?_eq_getElem (sound.grounded id live)
    have added : (engine.take setup turn).2.services = engine.services ++ [] := by
      rw [result, List.append_nil]
      exact services_recordCall _ engine id
    have host (other : ControllerId) : engine.hostCounts other turn.command = (id == other) := by
      rw [counts]
      by_cases its : id = other
      · subst its
        simp [hostCounts, held]
      · simp [hostCounts, its]
    refine .one found (fun other => ?_) (.inl ?_) (fun other => ?_) ?_ <;> try rw [result]
    · rw [counts_eq added, host]
      rfl
    · rw [host, beq_self_eq_true]
    · rw [callCounts_recordCall (turn.setup setup) found]
      split <;> rfl
    · exact sound.orderly.recordCall_submits found
  | served calls holder serving => exact sound.counting_call calls holder serving result

/-- The calls that a turn counts reach the interpreter, or are counted by the host. -/
theorem Sound.counts_iff (sound : Sound setup.policy engine) (turn : Turn) (id : ControllerId) :
    engine.counts setup turn id = true ↔
      engine.hostCounts id turn.command = true ∨ engine.Interprets setup turn id := by
  constructor
  · intro counted
    cases sound.counting turn with
    | one found counts serves =>
      rw [counts, beq_iff_eq] at counted
      exact counted ▸ serves
    | none counts => simp [counts] at counted
  · rintro (host | ⟨target, args, definition, closure, link, -, -, -, served⟩)
    · rw [counts, host, Bool.or_true]
    · rw [counts_eq served.services]
      simp [Event.isInterpreted]

theorem take_rejected {turn : Turn} {target : HandleId} {args : List Value} {handle : Handle}
    (calls : turn.command.call? = some (target, args))
    (holder : engine.handle? target = some handle)
    (other : args.length ≠ handle.definition.signature.arity) :
    engine.take setup turn = (.invoked (turn.command.shown
      ⟨.fault (.arity handle.definition.signature.arity args.length), args⟩), engine) := by
  obtain ⟨served, serving, result⟩ := take_call setup calls holder
  rw [result]
  cases serving with
  | rejected => rfl
  | entered fits | interpreted fits | switched fits | pinned fits => exact absurd fits other

/-! ## Runs -/

/-- What a run has counted for a function, and what was submitted under a policy that
promotes nothing. -/
structure Metered (setup : Setup) (id : ControllerId) (counted : List Turn) (engine : Engine) :
    Prop where
  sound : Sound setup.policy engine
  late : ∀ controller, engine.controllers[id]? = some controller → controller.Late setup.policy
  counted : (engine.callCounts id).counted =
    if setup.policy.enabled = true then min maxExecutionCount counted.length else 0
  unsubmitted : setup.policy.enabled = false → ∀ scheduler, engine.submitted scheduler = 0

theorem Metered.take {id : ControllerId} {counted : List Turn}
    (metered : Metered setup id counted engine) (turn : Turn) :
    Metered setup id (counted ++ if engine.counts setup turn id then [turn] else [])
      (engine.take setup turn).2 := by
  obtain ⟨sound, late, count, unsubmitted⟩ := metered
  have still (controller : Controller)
      (found : (engine.take setup turn).2.controllers[id]? = some controller) :
      controller.Late setup.policy :=
    (take_moves setup engine turn).controller_keeps (Controller.Late (turn.setup setup).policy)
      (fun change late => late.change change) (fun _ _ submitted => absurd rfl submitted)
      (late _) found
  refine ⟨sound.take turn, still, ?_, ?_⟩
  · cases sound.counting turn with
    | @one its controller found counts serves counted' submits =>
      rw [counts, counted']
      by_cases same : id = its
      · subst same
        rw [callCounts_eq found] at count
        change controller.executionCount = _ at count
        rw [if_pos rfl, beq_self_eq_true, if_pos rfl, List.length_append, List.length_singleton]
        cases enabled : setup.policy.enabled with
        | false => simpa [Controller.afterCall, enabled] using count
        | true =>
          simp only [enabled, ↓reduceIte] at count
          rw [Controller.executionCount_afterCall enabled, count, if_pos rfl]
          split <;> omega
      · rw [if_neg same, beq_eq_false_iff_ne.mpr (Ne.symm same)]
        -- A call of another function moves neither side.
        simpa using count
    | none counts counted' submits =>
      rw [counts, counted']
      simpa using count
  · intro disabled scheduler
    cases sound.counting turn with
    | one found counts serves counted' submits =>
      rw [if_neg (by simp [Controller.handsOver, disabled])] at submits
      rw [submits, unsubmitted disabled]
    | none counts counted' submits => rw [submits, unsubmitted disabled]

theorem Begins.metered {begun : Engine} (begins : Begins begun) (id : ControllerId) :
    Metered setup id [] begun := by
  obtain ⟨controllers, -, -, unsubmitted⟩ := begins.blank
  refine ⟨begins.sound, fun controller found => ?_, ?_, fun _ => unsubmitted⟩
  · simp [controllers] at found
  · simp [callCounts, controllers]

theorem Begins.metered_afterTurns {begun : Engine} (begins : Begins begun) (setup : Setup)
    (id : ControllerId) (turns : List Turn) :
    Metered setup id (begun.history setup
      (fun engine turn => if engine.counts setup turn id then [turn] else []) turns)
      (begun.afterTurns setup turns) :=
  history_keeps (Metered setup id) (fun turn _ _ _ metered => metered.take turn)
    (begins.metered id)

/-- Some request to compile gave the function a verdict. -/
theorem afterTurns_asked {id : ControllerId} (grounded : engine.Grounded) {turns : List Turn}
    (asks : Asks setup id engine turns) :
    ∃ verdict, (engine.afterTurns setup turns).verdict? id = some verdict := by
  induction turns generalizing engine with
  | nil => cases asks
  | cons turn rest inductionHypothesis =>
    rcases asks with first | later
    · obtain ⟨verdict, given, -⟩ := perform_reports grounded first
      exact ⟨verdict, (afterTurns_settled given rest).1⟩
    · have moves := take_moves setup engine turn
      have still := moves.keeps Grounded (fun move earlier => earlier.move move) grounded
      exact inductionHypothesis still later

/-- Below the threshold a function is cold as long as nothing asks for its compilation. -/
theorem Metered.cold_iff {id : ControllerId} {counted : List Turn} {begun : Engine}
    {turns : List Turn} (begins : Begins begun)
    (metered : Metered setup id counted (begun.afterTurns setup turns)) {controller : Controller}
    (found : (begun.afterTurns setup turns).controllers[id]? = some controller)
    (below : counted.length < max 1 setup.policy.threshold) :
    controller.promotion = .cold ↔ ¬ Asks setup id begun turns := by
  have coherent := metered.sound.orderly.coherent found
  constructor
  · intro cold asks
    obtain ⟨verdict, given⟩ := afterTurns_asked begins.grounded asks
    rw [verdict?_eq found, coherent.unsettled (.inl cold)] at given
    cases given
  · intro unasked
    have unsettled : controller.settled? = none := by
      rw [← verdict?_eq found, (afterTurns_unasked unasked).1]
      exact (begins.unasked id).1
    rcases coherent.pending unsettled with cold | scheduled
    · exact cold
    · have submitted := coherent.scheduled scheduled
      have late := metered.late controller found (by omega)
      have count := metered.counted
      rw [callCounts_eq found] at count
      change controller.executionCount = _ at count
      split at count <;> omega

/-- A turn submits a task for a function exactly when it counts the call of the function
whose number is the threshold, and the function is still cold. -/
theorem Metered.submits_iff {id : ControllerId} {counted : List Turn}
    (metered : Metered setup id counted engine) {controller : Controller}
    (found : engine.controllers[id]? = some controller) (turn : Turn) :
    engine.Submits (engine.take setup turn).2 id ↔
      setup.policy.enabled = true ∧ engine.counts setup turn id = true ∧
        counted.length + 1 = max 1 setup.policy.threshold ∧
        counted.length < maxExecutionCount ∧ controller.promotion = .cold := by
  have coherent := metered.sound.orderly.coherent found
  have count := metered.counted
  rw [callCounts_eq found] at count
  change controller.executionCount = _ at count
  cases metered.sound.counting turn with
  | none counts counted' submits =>
    constructor
    · intro submitted
      obtain ⟨scheduler, different⟩ := submitted.submits_something
      exact absurd (submits scheduler) different
    · rintro ⟨-, counted, -⟩
      simp [counts] at counted
  | @one its holder present counts serves counted' submits =>
    constructor
    · intro submitted
      split at submits
      · rename_i hands
        obtain rfl := submitted.unique submits
        cases found.symm.trans present
        have enabled := (Controller.handsOver_iff.mp hands).1
        rw [if_pos enabled] at count
        have number := (coherent.handsOver_iff_number enabled count).mp hands
        exact ⟨enabled, by rw [counts, beq_self_eq_true], number⟩
      · obtain ⟨scheduler, different⟩ := submitted.submits_something
        exact absurd (submits scheduler) different
    · rintro ⟨enabled, counted, number⟩
      rw [counts, beq_iff_eq] at counted
      subst counted
      cases found.symm.trans present
      rw [if_pos enabled] at count
      rw [if_pos ((coherent.handsOver_iff_number enabled count).mpr number)] at submits
      exact submits

/-- A function is submitted once, by the counted call whose number is the threshold, if it is
still cold then; only calls that reach the interpreter count. -/
theorem submitted_at_threshold {begun engine : Engine} (begins : Begins begun) {turns : List Turn}
    (reached : begun.afterTurns setup turns = engine) {id : ControllerId}
    {controller : Controller} (found : engine.controllers[id]? = some controller) :
    (setup.policy.enabled = false →
      controller.executionCount = 0 ∧ ∀ scheduler, engine.submitted scheduler = 0) ∧
    (setup.policy.enabled = true →
      controller.executionCount = min maxExecutionCount (begun.countedCalls setup turns id)) ∧
    (begun.countedCalls setup turns id < max 1 setup.policy.threshold →
      (controller.promotion = .cold ↔ ¬ Asks setup id begun turns)) ∧
    ∀ turn next, (engine.take setup turn).2 = next →
      ((∃ its, engine.Submits next its) ∨
        ∀ scheduler, next.submitted scheduler = engine.submitted scheduler) ∧
      (engine.Submits next id ↔ setup.policy.enabled = true ∧
        engine.counts setup turn id = true ∧
        begun.countedCalls setup turns id + 1 = max 1 setup.policy.threshold ∧
        begun.countedCalls setup turns id < maxExecutionCount ∧ controller.promotion = .cold) ∧
      (engine.Submits next id → ∀ rest later, next.afterTurns setup rest = later →
        ∀ other, ¬ later.Submits (later.take setup other).2 id) ∧
      (engine.counts setup turn id = true ↔
        engine.hostCounts id turn.command = true ∨ engine.Interprets setup turn id) ∧
      ∀ target args handle, turn.command.call? = some (target, args) →
        engine.handle? target = some handle →
        (args.length ≠ handle.definition.signature.arity → engine.take setup turn =
          (.invoked (turn.command.shown
            ⟨.fault (.arity handle.definition.signature.arity args.length), args⟩), engine)) ∧
        ∀ shape adapted, next.services = engine.services ++ [.entered target shape adapted] →
          engine.counts setup turn id = false := by
  subst reached
  have metered := begins.metered_afterTurns setup id turns
  have count := metered.counted
  rw [callCounts_eq found] at count
  change controller.executionCount = _ at count
  refine ⟨fun disabled => ⟨?_, metered.unsubmitted disabled⟩, fun enabled => ?_,
    metered.cold_iff begins found, ?_⟩
  · rw [count, disabled]
    rfl
  · rw [count, if_pos enabled]
    rfl
  rintro turn next rfl
  have submits := metered.submits_iff found turn
  refine ⟨?_, submits, ?_, metered.sound.counts_iff turn id, ?_⟩
  · cases metered.sound.counting turn with
    | none counts counted submits => exact .inr submits
    | one found counts serves counted submits =>
      split at submits
      · exact .inl ⟨_, submits⟩
      · exact .inr submits
  · rintro first rest later rfl other again
    -- Both submissions would come with the same number of counted calls.
    obtain ⟨-, counted, number, -⟩ := submits.mp first
    have metered' := begins.metered_afterTurns setup id (turns ++ turn :: rest)
    rw [afterTurns_append] at metered'
    have ⟨_, found', _⟩ := again
    obtain ⟨-, -, number', -⟩ := (metered'.submits_iff found' other).mp again
    rw [history_append, history, if_pos counted] at number'
    simp only [List.length_append, List.length_singleton] at number'
    omega
  · intro target args handle calls holder
    refine ⟨take_rejected calls holder, fun shape adapted entered => ?_⟩
    rw [counts_eq entered, hostCounts_of_call calls]
    rfl

end

/-- A setup that hands every function over at its second call. -/
def patient (compiler : Compiler) : Setup := { eager compiler with policy := { threshold := 2 } }

theorem submitted_at_threshold_tally :
    ∃ turns engine, plain.afterTurns (patient (.reference none)) turns = engine ∧
      engine.Submits
        (engine.take (patient (.reference none)) ⟨.reference none, .invoke 0 [.bool true]⟩).2 0 ∧
      (engine.take (patient (.reference none)) ⟨.reference none, .invoke 0 []⟩).2 = engine := by
  have begins : Begins plain := .installed .shared false
  let turns : List Turn := [
    ⟨.reference none, .newCell (.int 40)⟩,
    ⟨.reference none, .bind .tally (some [0])⟩,
    ⟨.reference none, .invoke 0 [.int 2]⟩]
  have found : (plain.afterTurns (patient (.reference none)) turns).controllers[0]? = some {
      definition := .tally, scheduler := 0, executionCount := 1
      counters := { interpreted := 1 } } := rfl
  have once : plain.countedCalls (patient (.reference none)) turns 0 = 1 := by
    decide +kernel
  obtain ⟨-, -, -, step⟩ := submitted_at_threshold begins rfl found
  rw [once] at step
  obtain ⟨-, submits, -⟩ := step ⟨.reference none, .invoke 0 [.bool true]⟩ _ rfl
  obtain ⟨-, -, -, -, calls⟩ := step ⟨.reference none, .invoke 0 []⟩ _ rfl
  have rejected := (calls 0 [] ⟨.tally, .interpreted 0 (some [0]) .unresolved⟩ rfl rfl).1
  have counted : (plain.afterTurns (patient (.reference none)) turns).counts
      (patient (.reference none)) ⟨.reference none, .invoke 0 [.bool true]⟩ 0 = true := by
    decide +kernel
  have handed := submits.mpr ⟨rfl, counted, rfl, by decide, rfl⟩
  have kept := congrArg Prod.snd (rejected (by decide))
  exact ⟨turns, _, rfl, handed, kept⟩

end Engine

end HotPath

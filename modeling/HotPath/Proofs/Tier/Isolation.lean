import HotPath.Proofs.Lang.Footprint
import HotPath.Proofs.Tier.Closures

/-!
Closures are isolated. As long as nothing else reaches the cells of its closure, a handle answers
its calls as if no other were made, and leaves its cells as if no other were made.
-/

namespace HotPath

namespace Engine

/-- A call as a handle gets it: the arguments, and whether it works on copies of them. -/
structure Request where
  args : List Value
  copied : Bool

def Request.answer (request : Request) (reply : Reply) : Answer :=
  .invoked ⟨reply.outcome, if request.copied then request.args else reply.slots⟩

def Command.request? (target : HandleId) : Command → Option Request
  | .invoke other args => if other = target then some ⟨args, false⟩ else none
  | .call other args => if other = target then some ⟨args, true⟩ else none
  | _ => none

def requestsTo (target : HandleId) (turns : List Turn) : List Request :=
  turns.filterMap fun turn => turn.command.request? target

/-- The answer to a turn, if it makes a request of a handle. -/
def answering (setup : Setup) (target : HandleId) (engine : Engine) (turn : Turn) : List Answer :=
  match turn.command.request? target with
  | some _ => [(engine.take setup turn).1]
  | none => []

def answersOf (setup : Setup) (target : HandleId) (engine : Engine) (turns : List Turn) :
    List Answer :=
  engine.history setup (answering setup target) turns

/-- How a command reaches a cell other than by a request of a handle: it writes the cell, or calls
another handle that has the cell in its closure. -/
inductive Command.Reaches (books : List Tenancy) (target : HandleId) (cell : CellId) :
    Command → Prop where
  | written (value : Value) : Reaches books target cell (.writeCell cell value)
  | called {command : Command} {other : HandleId} {args : List Value} {definition : Definition}
      {closure : Option Binding} (calls : command.call? = some (other, args))
      (others : other ≠ target) (bound : (other, definition, closure) ∈ books)
      (has : cell ∈ closure.getD []) : Reaches books target cell command

theorem Command.Reaches.mono {books more : List Tenancy} (listed : books ⊆ more)
    {target : HandleId} {cell : CellId} {command : Command}
    (reaches : command.Reaches books target cell) : command.Reaches more target cell := by
  cases reaches with
  | written value => exact .written value
  | called calls others bound has => exact .called calls others (listed bound) has

end Engine

open Engine

/-! ## A function on its own -/

namespace Definition

variable (definition : Definition)

/-- A function called on one closure again and again, and nothing else done: the answers,
and the memory left. -/
def alone (rounds : Nat) (closure : Option Binding) (store : Store) :
    List Request → List Answer × Store
  | [] => ([], store)
  | request :: rest =>
    let reply := definition.interpret rounds request.args closure store
    let (answers, after) := alone rounds closure reply.store rest
    (request.answer reply :: answers, after)

theorem alone_append (rounds : Nat) (closure : Option Binding) (store : Store)
    (first second : List Request) :
    let before := definition.alone rounds closure store first
    let after := definition.alone rounds closure before.2 second
    definition.alone rounds closure store (first ++ second) = (before.1 ++ after.1, after.2) := by
  induction first generalizing store with
  | nil => rfl
  | cons request rest inductionHypothesis =>
    simp only [List.cons_append, alone, inductionHypothesis]

end Definition

/-! ## One turn -/

namespace Untiered

variable {untiered : Untiered} {target : HandleId} {command : Command}

theorem perform_request {request : Request} (asked : command.request? target = some request)
    {definition : Definition} {closure : Option Binding}
    (bound : untiered.handle? target = some (definition, closure)) (rounds : Nat) :
    let reply := definition.interpret rounds request.args closure untiered.store
    untiered.perform rounds command =
      (request.answer reply, { untiered with store := reply.store }) := by
  cases command with
  | invoke other args | call other args =>
    simp only [Command.request?] at asked
    split at asked
    · subst other
      cases asked
      simp only [perform, invoke, bound]
      rfl
    · cases asked
  | _ => cases asked

/-- What does not reach a cell leaves it as it is. -/
theorem perform_apart {books : List Tenancy} (listed : untiered.Listed books)
    (others : command.request? target = none) {cell : CellId}
    (apart : ¬ command.Reaches books target cell) (made : cell < untiered.store.cells.size)
    (rounds : Nat) :
    (untiered.perform rounds command).2.store.cells[cell]? = untiered.store.cells[cell]? := by
  cases command with
  | bind definition closure =>
    simp only [perform, Untiered.bind]
    split <;> rfl
  | invoke other args | call other args =>
    have foreign : other ≠ target := by
      rintro rfl
      simp [Command.request?] at others
    simp only [perform, invoke]
    cases held : untiered.handle? other with
    | none => rfl
    | some bound =>
      obtain ⟨definition, closure⟩ := bound
      apply definition.interpret_outside
      intro has
      exact apart (.called rfl foreign (listed.present held) has)
  | newCell value =>
    simp [perform, Store.newCell, Array.getElem?_push, Nat.ne_of_lt made]
  | writeCell written value =>
    have elsewhere : cell ≠ written := by
      rintro rfl
      exact apart (.written value)
    exact Store.cells_writeCell_of_ne _ elsewhere value
  | writeBox box value =>
    cases box <;> rfl
  | _ => rfl

end Untiered

namespace Engine

variable {setup : Setup} {known : Definition → Prop} {books : List Tenancy} {engine : Engine}
  {untiered : Untiered} {target : HandleId} {definition : Definition} {closure : Option Binding}

theorem isRefusal_of_request {command : Command} {request : Request}
    (asked : command.request? target = some request) (setup : Setup) (engine : Engine) :
    (engine.perform setup command).1.isRefusal = false := by
  cases command with
  | invoke other args | call other args =>
    simp only [perform]
    cases engine.handle? other <;> rfl
  | _ => cases asked

theorem meant_of_request {command : Command} {request : Request}
    (asked : command.request? target = some request) : engine.meant command = command := by
  cases command with
  | bindHeld => cases asked
  | _ => rfl

theorem request?_meant (engine : Engine) (target : HandleId) (command : Command) :
    (engine.meant command).request? target = command.request? target := by
  cases command with
  | bindHeld id closure =>
    simp only [meant]
    split <;> rfl
  | _ => rfl

theorem Command.Reaches.of_meant {command : Command} {cell : CellId}
    (reaches : (engine.meant command).Reaches books target cell) :
    command.Reaches books target cell := by
  cases command with
  | bindHeld id closure =>
    simp only [meant] at reaches
    split at reaches <;> cases reaches with
    | called calls => cases calls
  | _ => exact reaches

/-- A turn without a request of the handle leaves the cells of its closure alone. -/
theorem Transparent.others (before : Transparent known books engine untiered) {turn : Turn}
    {later : Untiered} (echoed : Echoed setup engine turn untiered later)
    (after : (engine.take setup turn).2.Shows later)
    (others : turn.command.request? target = none) {cell : CellId}
    (apart : ¬ turn.command.Reaches books target cell) (made : cell < engine.store.cells.size) :
    (engine.take setup turn).2.store.cells[cell]? = engine.store.cells[cell]? := by
  rw [after.store.cells, before.shows.store.cells]
  cases echoed with
  | idle => rfl
  | carried =>
    rw [before.shows.store.cells] at made
    rw [← request?_meant engine] at others
    exact untiered.perform_apart before.listed others (mt (·.of_meant) apart) made setup.rounds

/-- A request is answered by an interpretation, which also gives the memory left. -/
theorem Echoed.request {turn : Turn} {later : Untiered}
    (echoed : Echoed setup engine turn untiered later) {request : Request}
    (asked : turn.command.request? target = some request)
    (bound : untiered.handle? target = some (definition, closure)) :
    let reply := definition.interpret setup.rounds request.args closure untiered.store
    (engine.take setup turn).1 = request.answer reply ∧ later.store = reply.store := by
  have performed := untiered.perform_request asked bound setup.rounds
  cases echoed with
  | idle skipped =>
    exfalso
    rcases skipped with tiers | refused
    · cases command : turn.command with
      | invoke | call => simp [command, meant, Command.isHost] at tiers
      | _ => simp [command, Command.request?] at asked
    · have accepted := isRefusal_of_request asked (turn.setup setup) engine
      cases accepted.symm.trans refused
  | carried host answer =>
    rw [meant_of_request asked, performed] at answer ⊢
    exact ⟨answer, rfl⟩

/-- At a turn the handle answers as its function does on its own, on any closure whose
cells hold the same, and the cells stay the same. -/
theorem Transparent.alone_take (before : Transparent known books engine untiered) {turn : Turn}
    {later : Untiered} (echoed : Echoed setup engine turn untiered later)
    (after : (engine.take setup turn).2.Shows later)
    (bound : untiered.handle? target = some (definition, closure))
    (apart : ∀ cell ∈ closure.getD [], ¬ turn.command.Reaches books target cell)
    {closure' : Option Binding} {store : Store}
    (same : Lookalike (closure'.getD []) (closure.getD []) store engine.store) :
    let alone := definition.alone setup.rounds closure' store
      (turn.command.request? target).toList
    answering setup target engine turn = alone.1 ∧
      Lookalike (closure'.getD []) (closure.getD []) alone.2 (engine.take setup turn).2.store := by
  cases asked : turn.command.request? target with
  | none =>
    -- A turn of somebody else, which by assumption reaches none of the cells.
    refine ⟨by simp [answering, asked, Definition.alone], same.kept fun cell member => ?_⟩
    exact before.others echoed after asked (apart cell member) (same.made' cell member)
  | some request =>
    obtain ⟨answer, memory⟩ := echoed.request asked bound
    have shown : Lookalike (closure'.getD []) (closure.getD []) store untiered.store :=
      same.kept fun cell _ => by rw [before.shows.store.cells]
    obtain ⟨outcome, slots, left⟩ := definition.interpret_lookalike setup.rounds request.args shown
    constructor
    · simp only [answering, asked, answer, Option.toList_some, Definition.alone, Request.answer,
        outcome, slots]
    · exact left.kept fun cell _ => by rw [after.store.cells, memory]

/-! ## Runs -/

/-- In a run the handle answers as its function does on its own, on any closure whose
cells hold the same, and the cells stay the same. -/
theorem Transparent.alone (before : Transparent known books engine untiered)
    (distinct : Distinct known) {turns : List Turn}
    (faithful : ∀ turn ∈ turns, turn.compiler.Faithful)
    (mentioned : ∀ turn ∈ turns, ∀ definition,
      turn.command.definition? = some definition → known definition)
    (bound : (target, definition, closure) ∈ books)
    (lives : (engine.afterTurns setup turns).handle? target ≠ none)
    (apart : ∀ turn ∈ turns, ∀ cell ∈ closure.getD [], ¬ turn.command.Reaches
      (books ++ engine.history setup (tenancies setup) turns) target cell)
    {closure' : Option Binding} {store : Store}
    (same : Lookalike (closure'.getD []) (closure.getD []) store engine.store) :
    let alone := definition.alone setup.rounds closure' store (requestsTo target turns)
    engine.answersOf setup target turns = alone.1 ∧
      Lookalike (closure'.getD []) (closure.getD []) alone.2
        (engine.afterTurns setup turns).store := by
  -- The two memories stay lookalikes; the books grow with the binds of the run.
  induction turns generalizing engine untiered books store with
  | nil => exact ⟨rfl, same⟩
  | cons turn rest inductionHypothesis =>
    obtain ⟨sound, faithful⟩ := List.forall_mem_cons.mp faithful
    obtain ⟨speaks, mentioned⟩ := List.forall_mem_cons.mp mentioned
    obtain ⟨first, apart⟩ := List.forall_mem_cons.mp apart
    obtain ⟨later, echoed, after⟩ := before.take distinct sound speaks
    have made : target < engine.handles.size := before.shows.size ▸ before.listed.made bound
    have held := before.holder bound (handle_before made lives)
    obtain ⟨answer, left⟩ := before.alone_take echoed after.shows held
      (fun cell member reaches => first cell member (reaches.mono (List.subset_append_left ..)))
      same
    rw [history, ← List.append_assoc] at apart
    obtain ⟨answers, finals⟩ := inductionHypothesis after faithful mentioned
      (List.mem_append_left _ bound) lives apart left
    have split : requestsTo target (turn :: rest) =
        (turn.command.request? target).toList ++ requestsTo target rest := by
      cases asked : turn.command.request? target <;> simp [requestsTo, asked]
    rw [split, definition.alone_append]
    exact ⟨congrArg₂ (· ++ ·) answer answers, finals⟩

/-- A stretch of a run, from where some turns have led, in which a handle of a function has
the cells of its closure to itself: no turn of the stretch reaches one but by the handle. -/
structure Secluded (setup : Setup) (begun : Engine) (past turns : List Turn) (target : HandleId)
    (definition : Definition) (closure : Option Binding) : Prop where
  begins : Begins begun
  faithful : ∀ turn ∈ (past ++ turns), turn.compiler.Faithful
  distinct : Distinct (Mentions (past ++ turns))
  bound : (target, definition, closure) ∈ begun.history setup (tenancies setup) past
  /-- The handle is not dropped. -/
  lives : (begun.afterTurns setup (past ++ turns)).handle? target ≠ none
  apart : ∀ turn ∈ turns, ∀ cell ∈ closure.getD [], ¬ turn.command.Reaches
    (begun.history setup (tenancies setup) (past ++ turns)) target cell

theorem Secluded.alone {begun : Engine} {past turns : List Turn}
    (secluded : Secluded setup begun past turns target definition closure)
    {closure' : Option Binding} {store : Store}
    (same : Lookalike (closure'.getD []) (closure.getD []) store
      (begun.afterTurns setup past).store) :
    let alone := definition.alone setup.rounds closure' store (requestsTo target turns)
    (begun.afterTurns setup past).answersOf setup target turns = alone.1 ∧
      Lookalike (closure'.getD []) (closure.getD []) alone.2
        (begun.afterTurns setup (past ++ turns)).store := by
  have earlier : ∀ {turn}, turn ∈ past → turn ∈ (past ++ turns) :=
    fun member => List.mem_append_left _ member
  have later : ∀ {turn}, turn ∈ turns → turn ∈ (past ++ turns) :=
    fun member => List.mem_append_right _ member
  obtain ⟨untiered, before⟩ :=
    (secluded.begins.transparent (Mentions (past ++ turns))).afterTurns
      secluded.distinct (fun turn member => secluded.faithful turn (earlier member))
      (fun turn member _ mentioned => ⟨turn, earlier member, mentioned⟩)
  have lives := secluded.lives
  have apart := secluded.apart
  rw [afterTurns_append] at lives ⊢
  rw [history_append] at apart
  exact before.alone secluded.distinct
    (fun turn member => secluded.faithful turn (later member))
    (fun turn member _ mentioned => ⟨turn, later member, mentioned⟩)
    secluded.bound lives apart same

end Engine

end HotPath

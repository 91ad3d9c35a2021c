import HotPath.Proofs.Tier.Closures

/-!
A function without defects cannot go wrong when it is called: the checks of its draft, of its
closures and of the number of arguments cover whatever a call reaches for, on either tier. Nothing
bounds the locals that a function declares, so that its frame may still have no room for them.
-/

namespace HotPath

namespace Engine

variable {setup : Setup} {known : Definition → Prop} {books : List Tenancy} {engine : Engine}
  {untiered : Untiered} {target : HandleId} {handle : Handle} {args : List Value}

/-- How a call may end: it crashes exactly if it is to run in a frame without room, it lacks no
cell, and it is refused for its arguments exactly if their number is not the declared one. -/
structure Invocation.Proper (invocation : Invocation) (definition : Definition)
    (args : List Value) : Prop where
  sound : ∀ cause, invocation.outcome = .crash cause ↔
    cause = .frameOverflow ∧ args.length = definition.signature.arity ∧ definition.Oversized
  bound : ∀ slot, invocation.outcome ≠ .fault (.unboundCapture slot)
  arity : ∀ expected got, invocation.outcome = .fault (.arity expected got) ↔
    args.length ≠ definition.signature.arity ∧ expected = definition.signature.arity ∧
      got = args.length

theorem Transparent.invoke_proper (transparent : Transparent known books engine untiered)
    (holder : engine.handle? target = some handle) (setup : Setup) (args : List Value) :
    (engine.invoke setup target handle args).1.Proper handle.definition args := by
  rcases transparent.shows.handles target with ⟨-, gone⟩ |
    ⟨definition, closure, its, bound, holder', serves⟩
  · cases gone.symm.trans holder
  · cases holder.symm.trans holder'
    obtain rfl : handle.definition = definition := by cases serves <;> rfl
    have closes := transparent.listed.closes (transparent.listed.present bound)
    obtain ⟨answer, -⟩ := transparent.shows.invoke transparent.genuine transparent.linked setup
      bound holder serves args
    rw [answer]
    constructor
    · exact handle.definition.interpret_crash_iff setup.rounds args closure untiered.store
    · exact handle.definition.interpret_ne_unbound setup.rounds closes args untiered.store
    · exact handle.definition.interpret_arity setup.rounds args closure untiered.store

theorem perform_call {command : Command} (calls : command.call? = some (target, args))
    (holder : engine.handle? target = some handle) (setup : Setup) :
    (engine.perform setup command).1 =
      .invoked (command.shown (engine.invoke setup target handle args).1) := by
  cases command with
  | invoke other given | call other given =>
    cases calls
    simp only [perform, holder]
    rfl
  | _ => cases calls

theorem Command.outcome_shown (command : Command) (invocation : Invocation) :
    (command.shown invocation).outcome = invocation.outcome := by
  cases command <;> rfl

/-- A call of any handle crashes exactly if it is to run in a frame without room for its locals,
lacks no cell, and is refused exactly for a wrong number of arguments. -/
theorem calls_proper {begun : Engine} (begins : Begins begun) {turns : List Turn}
    (faithful : ∀ turn ∈ turns, turn.compiler.Faithful)
    (distinct : Distinct (Mentions turns))
    (reached : begun.afterTurns setup turns = engine)
    (holder : engine.handle? target = some handle) {turn : Turn}
    (calls : turn.command.call? = some (target, args)) :
    (∃ invocation, (engine.take setup turn).1 = .invoked invocation ∧
      invocation.Proper handle.definition args) ∧
    ∀ (shape : Shape) (table : Nat → Access),
      (∀ index < handle.definition.signature.arity,
        table index = handle.definition.signature.accesses shape index) →
      handle.definition.body.lower table =
        handle.definition.body.lower (handle.definition.signature.accesses shape) := by
  subst reached
  obtain ⟨untiered, transparent⟩ := (begins.transparent (Mentions turns)).afterTurns
    distinct faithful (fun turn member _ mentioned => ⟨turn, member, mentioned⟩)
  constructor
  · refine ⟨_, perform_call calls holder (turn.setup setup), ?_⟩
    obtain ⟨sound, bound, arity⟩ := transparent.invoke_proper holder (turn.setup setup) args
    constructor <;> rw [Command.outcome_shown] <;> assumption
  · intro shape table same
    have declared : ∀ index, handle.definition.draft.scope.Has (.param index) →
        table index = handle.definition.signature.accesses shape index := same
    exact Expr.lower_congr declared _ handle.definition.noStray

theorem calls_proper_tally :
    let turns : List Turn := [
      ⟨.reference none, .newCell (.int 40)⟩,
      ⟨.reference none, .bind .tally (some [0])⟩,
      ⟨.reference none, .invoke 0 [.int 2]⟩, ⟨.reference none, .runNext 0⟩,
      ⟨.reference none, .invoke 0 [.int 1]⟩]
    ∃ engine handle right wrong, plain.afterTurns (eager (.reference none)) turns = engine ∧
      engine.handle? 0 = some handle ∧ handle.hasSwitched = true ∧
      (engine.take (eager (.reference none)) ⟨.reference none, .invoke 0 [.int 3]⟩).1 =
        .invoked right ∧ (∀ cause, right.outcome ≠ .crash cause) ∧
      (engine.take (eager (.reference none)) ⟨.reference none, .call 0 []⟩).1 =
        .invoked wrong ∧ wrong.outcome = .fault (.arity 1 0) := by
  intro turns
  have begins : Begins plain := .installed .shared false
  have faithful : ∀ turn ∈ turns, turn.compiler.Faithful := by
    simpa [turns] using Compiler.faithful_reference none
  have distinct : Distinct (Mentions turns) := by
    simp [Distinct, Mentions, turns, Command.definition?]
  obtain ⟨engine, reached⟩ :
    ∃ engine, plain.afterTurns (eager (.reference none)) turns = engine := ⟨_, rfl⟩
  have switches : (engine.handle? 0).map (fun handle =>
      (handle.hasSwitched, handle.definition.signature.arity, handle.definition.locals)) =
        some (true, 1, 0) := by
    subst reached
    decide +kernel
  obtain ⟨handle, holder, facts⟩ := Option.map_eq_some_iff.mp switches
  simp only [Prod.mk.injEq] at facts
  obtain ⟨switched, one, few⟩ := facts
  have calls : (Turn.mk (.reference none) (.invoke 0 [.int 3])).command.call? =
      some (0, [.int 3]) := rfl
  have calls' : (Turn.mk (.reference none) (.call 0 [])).command.call? = some (0, []) := rfl
  obtain ⟨⟨right, answer, proper⟩, -⟩ :=
    calls_proper begins faithful distinct reached holder calls
  obtain ⟨⟨wrong, answer', proper'⟩, -⟩ :=
    calls_proper begins faithful distinct reached holder calls'
  have roomy : ¬ handle.definition.Oversized := by
    rw [Definition.Oversized, few]
    decide
  refine ⟨engine, handle, right, wrong, reached, holder, switched, answer, ?_, answer', ?_⟩
  · intro cause crashed
    obtain ⟨-, -, oversized⟩ := (proper.sound cause).mp crashed
    exact roomy oversized
  · rw [proper'.arity, one]
    exact ⟨by simp, rfl, rfl⟩

end Engine

/-- A function that declares more locals than a frame has room for. -/
def Definition.vast : Definition where
  id := 0
  draft := {
    name := "vast"
    signature := ⟨[], .value⟩
    captures := []
    locals := Nat.pow 2 62
    body := .const (.int 1) }
  sound := by decide

/-- Calls of `vast` crash on both tiers. -/
theorem Engine.vast_overflows :
    let bind : Turn := ⟨.reference none, .bind .vast none⟩
    let compile : Turn := ⟨.reference none, .compileNow .vast⟩
    let call : Turn := ⟨.reference none, .invoke 0 []⟩
    ∀ turns ∈ [[bind], [bind, compile]],
      ((plain.afterTurns (eager (.reference none)) turns).take (eager (.reference none))
        call).1.crash? = some .frameOverflow := by decide +kernel

end HotPath

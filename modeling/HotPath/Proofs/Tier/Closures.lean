import HotPath.Proofs.Tier.Ledger
import HotPath.Proofs.Tier.Draining
import HotPath.Proofs.Tier.Transparency

/-!
What the handles of a run were bound to: a function, and a closure that fits it. Under faithful
compilers nothing else decides how a call of a handle ends, whatever tier serves it.
-/

namespace HotPath.Engine

/-- A handle with the function and the closure that it was bound to. -/
abbrev Tenancy := HandleId × Definition × Option Binding

def Command.tenancy : Command → Answer → List Tenancy
  | .bind definition closure, .bound (.ok target) => [(target, definition, closure)]
  | _, _ => []

def tenancies (setup : Setup) (engine : Engine) (turn : Turn) : List Tenancy :=
  (engine.meant turn.command).tenancy (engine.take setup turn).1

theorem Command.tenancy_of_tiers {command : Command} (tiers : command.isHost = false)
    (answer : Answer) : command.tenancy answer = [] := by
  cases command with
  | bind => cases tiers
  | _ => rfl

theorem Command.tenancy_of_refusal {answer : Answer} (refused : answer.isRefusal = true)
    (command : Command) : command.tenancy answer = [] := by
  cases answer with
  | bound result =>
    cases result with
    | error error => cases command <;> rfl
    | ok target => cases refused
  | _ => cases refused

/-! ## Handles that are gone -/

section

variable {setup : Setup} {named : Definition → Prop} {asked : ControllerId → Prop}
  {engine next : Engine} {target : HandleId}

/-- The place of a dropped handle stays empty. -/
def Vacated (target : HandleId) (engine : Engine) : Prop :=
  target < engine.handles.size ∧ engine.handle? target = none

theorem Vacated.move (vacated : engine.Vacated target)
    (move : Move setup named asked engine next) : next.Vacated target := by
  refine ⟨Nat.lt_of_lt_of_le vacated.1 move.size_handles, ?_⟩
  cases found : next.handle? target with
  | none => rfl
  | some handle =>
    rcases move.old_handle vacated.1 found with same | ⟨_, _, _, _, _, earlier, -⟩
    · cases vacated.2.symm.trans same
    · cases vacated.2.symm.trans earlier

/-- A handle that is still there after some turns was there before them. -/
theorem handle_before {turns : List Turn} (made : target < engine.handles.size)
    (lives : (engine.afterTurns setup turns).handle? target ≠ none) :
    engine.handle? target ≠ none := by
  intro gone
  have vacated : (engine.afterTurns setup turns).Vacated target :=
    afterTurns_keeps (Vacated target) (fun _ _ _ move before => before.move move)
      ⟨made, gone⟩ turns
  exact lives vacated.2

end

end HotPath.Engine

namespace HotPath

open Engine (Tenancy Command)

/-! ## Engines without tiers -/

/-- Books that list every handle of an engine without tiers under what it calls, and
handles that are gone under what they called. -/
structure Untiered.Listed (untiered : Untiered) (books : List Tenancy) : Prop where
  present : ∀ {target bound}, untiered.handle? target = some bound → (target, bound) ∈ books
  unique : ∀ {target bound other}, (target, bound) ∈ books →
    untiered.handle? target = some other → other = bound
  made : ∀ {target bound}, (target, bound) ∈ books → target < untiered.handles.size
  closes : ∀ {target definition closure}, (target, definition, closure) ∈ books →
    definition.checkClosure closure = .ok ()

namespace Untiered

variable {untiered : Untiered} {books : List Tenancy}

theorem Listed.withStore (listed : untiered.Listed books) (store : Store) :
    Untiered.Listed { untiered with store } books :=
  ⟨listed.present, listed.unique, listed.made, listed.closes⟩

theorem handle?_pushed (untiered : Untiered) (bound : Definition × Option Binding)
    (target : HandleId) :
    Untiered.handle? { untiered with handles := untiered.handles.push (some bound) } target =
      if target = untiered.handles.size then some bound else untiered.handle? target := by
  simp only [handle?, Array.getElem?_push]
  split <;> rfl

theorem Listed.bind (listed : untiered.Listed books) {definition : Definition}
    {closure : Option Binding} (closes : definition.checkClosure closure = .ok ()) :
    Untiered.Listed { untiered with handles := untiered.handles.push (some (definition, closure)) }
      (books ++ [(untiered.handles.size, definition, closure)]) where
  present {target bound} found := by
    rw [handle?_pushed] at found
    split at found
    · cases found
      simp_all
    · exact List.mem_append_left _ (listed.present found)
  unique {target bound other} member found := by
    rw [handle?_pushed] at found
    rcases List.mem_append.mp member with earlier | new
    · rw [if_neg (Nat.ne_of_lt (listed.made earlier))] at found
      exact listed.unique earlier found
    · cases List.mem_singleton.mp new
      rw [if_pos rfl] at found
      exact (Option.some.inj found).symm
  made {target bound} member := by
    rw [Array.size_push]
    rcases List.mem_append.mp member with earlier | new
    · exact Nat.lt_succ_of_lt (listed.made earlier)
    · cases List.mem_singleton.mp new
      exact Nat.lt_succ_self _
  closes {target definition' closure'} member := by
    rcases List.mem_append.mp member with earlier | new
    · exact listed.closes earlier
    · cases List.mem_singleton.mp new
      exact closes

theorem Listed.dropHandle (listed : untiered.Listed books) (target : HandleId) :
    Untiered.Listed { untiered with handles := untiered.handles.setIfInBounds target none }
      books where
  present {other bound} found := by
    rw [handle?_dropped] at found
    split at found
    · cases found
    · exact listed.present found
  unique {other bound its} member found := by
    rw [handle?_dropped] at found
    split at found
    · cases found
    · exact listed.unique member found
  made member := by
    rw [Array.size_setIfInBounds]
    exact listed.made member
  closes := listed.closes

theorem Listed.perform (listed : untiered.Listed books) (rounds : Nat) (command : Command) :
    (untiered.perform rounds command).2.Listed
      (books ++ command.tenancy (untiered.perform rounds command).1) := by
  cases command with
  | bind definition closure =>
    simp only [Untiered.perform, Untiered.bind]
    cases closes : definition.checkClosure closure with
    | error error => simpa [Command.tenancy] using listed
    | ok _ => exact listed.bind closes
  | invoke target args | call target args =>
    simp only [Untiered.perform, Command.tenancy, List.append_nil]
    cases untiered.invoke rounds target args with
    | none => exact listed
    | some reply => exact listed.withStore reply.store
  | dropHandle target =>
    simp only [Untiered.perform, Command.tenancy, List.append_nil]
    exact listed.dropHandle target
  | _ =>
    simp only [Untiered.perform, Command.tenancy, List.append_nil]
    first
    | exact listed
    | exact listed.withStore _

end Untiered

namespace Engine

/-! ## Engines -/

/-- An engine that shows its host the same as one without tiers, on which the books of
the run are right. -/
structure Transparent (known : Definition → Prop) (books : List Tenancy) (engine : Engine)
    (untiered : Untiered) : Prop where
  shows : engine.Shows untiered
  genuine : Genuine known engine
  linked : engine.Linked
  listed : untiered.Listed books

/-- What becomes of an engine without tiers at a turn: it carries the command out with the
same answer, unless the command is about tiers only or was refused. -/
inductive Echoed (setup : Setup) (engine : Engine) (turn : Turn) (untiered : Untiered) :
    Untiered → Prop where
  | idle (skipped : (engine.meant turn.command).isHost = false ∨
        (engine.take setup turn).1.isRefusal = true) :
      Echoed setup engine turn untiered untiered
  | carried (host : (engine.meant turn.command).isHost = true)
      (answer : (engine.take setup turn).1 =
        (untiered.perform setup.rounds (engine.meant turn.command)).1) :
      Echoed setup engine turn untiered
        (untiered.perform setup.rounds (engine.meant turn.command)).2

variable {setup : Setup} {known : Definition → Prop} {books : List Tenancy} {engine : Engine}
  {untiered : Untiered}

theorem Begins.transparent {begun : Engine} (begins : Begins begun) (known : Definition → Prop) :
    Transparent known [] begun {} where
  shows := begins.shows
  genuine := begins.genuine known
  linked := begins.linked
  listed := by
    refine ⟨fun found => ?_, nofun, nofun, nofun⟩
    simp [Untiered.handle?] at found

theorem Transparent.take (before : Transparent known books engine untiered)
    (distinct : Distinct known) {turn : Turn} (faithful : turn.compiler.Faithful)
    (mentioned : ∀ definition, turn.command.definition? = some definition → known definition) :
    ∃ later, Echoed setup engine turn untiered later ∧
      Transparent known (books ++ tenancies setup engine turn) (engine.take setup turn).2
        later := by
  have sound : (turn.setup setup).compiler.Faithful := faithful
  have moves : Moves (turn.setup setup) known (fun _ => True) engine (engine.take setup turn).2 :=
    perform_moves mentioned fun _ _ => trivial
  have genuine := moves.genuine sound before.genuine
  have linked := moves.keeps Linked (fun move earlier => earlier.move move) before.linked
  cases host : (engine.meant turn.command).isHost with
  | false =>
    refine ⟨untiered, .idle (.inl host), ?_, genuine, linked, ?_⟩
    · exact before.shows.untouched (perform_untouched (turn.setup setup) engine host)
    · rw [tenancies, Command.tenancy_of_tiers host, List.append_nil]
      exact before.listed
  | true =>
    rcases before.shows.perform before.genuine before.linked distinct sound mentioned host with
      ⟨answer, -, shows⟩ | ⟨-, refused, shows⟩
    · have answer : (engine.take setup turn).1 =
          (untiered.perform setup.rounds (engine.meant turn.command)).1 := answer
      refine ⟨_, .carried host answer, shows, genuine, linked, ?_⟩
      rw [tenancies, answer]
      exact before.listed.perform setup.rounds (engine.meant turn.command)
    · have refused : (engine.take setup turn).1.isRefusal = true := refused
      refine ⟨untiered, .idle (.inr refused), shows, genuine, linked, ?_⟩
      rw [tenancies, Command.tenancy_of_refusal refused, List.append_nil]
      exact before.listed

theorem Transparent.afterTurns (before : Transparent known books engine untiered)
    (distinct : Distinct known) {turns : List Turn}
    (faithful : ∀ turn ∈ turns, turn.compiler.Faithful)
    (mentioned : ∀ turn ∈ turns, ∀ definition,
      turn.command.definition? = some definition → known definition) :
    ∃ later, Transparent known (books ++ engine.history setup (tenancies setup) turns)
      (engine.afterTurns setup turns) later := by
  induction turns generalizing engine untiered books with
  | nil =>
    rw [history, List.append_nil]
    exact ⟨untiered, before⟩
  | cons turn rest inductionHypothesis =>
    obtain ⟨first, later⟩ := List.forall_mem_cons.mp faithful
    obtain ⟨next, -, after⟩ := before.take distinct first (mentioned turn List.mem_cons_self)
    rw [history, ← List.append_assoc]
    apply inductionHypothesis after later
    exact fun turn member => mentioned turn (List.mem_cons_of_mem _ member)

theorem Transparent.holder (transparent : Transparent known books engine untiered)
    {target : HandleId} {definition : Definition} {closure : Option Binding}
    (bound : (target, definition, closure) ∈ books) (lives : engine.handle? target ≠ none) :
    untiered.handle? target = some (definition, closure) := by
  rcases transparent.shows.handles target with ⟨-, gone⟩ | ⟨its, cells, handle, held, -⟩
  · exact absurd gone lives
  · rw [held, transparent.listed.unique bound held]

end Engine

end HotPath

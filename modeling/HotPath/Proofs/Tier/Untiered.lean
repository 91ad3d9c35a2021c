import HotPath.Proofs.Lang.Allowance
import HotPath.Tier.Run

/-!
An engine without tiers: handles that remember a function and a closure, and a memory. It shows what
a host may count on.
-/

namespace HotPath

/-- What a host sees of an engine. -/
structure Untiered where
  handles : Array (Option (Definition × Option Binding)) := #[]
  store : Store := {}

namespace Engine

/-- Whether a command is the host's, to use functions and the memory it shares with them.
The other commands are about tiers only. -/
def Command.isHost : Command → Bool
  | .bind .. | .invoke .. | .call .. | .dropHandle _ => true
  | .newCell _ | .writeCell .. | .newBox _ | .writeBox .. => true
  | _ => false

/-- A command as the host means it: a bind through a controller that it holds is a bind of
the controller's function. -/
def meant (engine : Engine) : Command → Command
  | .bindHeld id closure =>
    match engine.heldController? id with
    | some controller => .bind controller.definition closure
    | none => .bindHeld id closure
  | command => command

end Engine

namespace Untiered

open Engine (Command Answer)

def handle? (untiered : Untiered) (target : HandleId) : Option (Definition × Option Binding) :=
  (untiered.handles[target]?).join

theorem handle?_dropped (untiered : Untiered) (target other : HandleId) :
    Untiered.handle? { untiered with handles := untiered.handles.setIfInBounds target none } other =
      if other = target then none else untiered.handle? other := by
  simp only [handle?, Array.getElem?_setIfInBounds]
  by_cases its : target = other
  · subst its
    rw [if_pos rfl, if_pos rfl]
    split <;> rfl
  · rw [if_neg its, if_neg (Ne.symm its)]

def bind (untiered : Untiered) (definition : Definition) (closure : Option Binding) :
    Answer × Untiered :=
  match definition.checkClosure closure with
  | .error error => (.bound (.error (.definition error)), untiered)
  | .ok () =>
    (.bound (.ok untiered.handles.size),
      { untiered with handles := untiered.handles.push (some (definition, closure)) })

def invoke (untiered : Untiered) (rounds : Nat) (target : HandleId) (args : List Value) :
    Option Reply :=
  (untiered.handle? target).map fun (definition, closure) =>
    definition.interpret rounds args closure untiered.store

def perform (rounds : Nat) (untiered : Untiered) : Command → Answer × Untiered
  | .bind definition closure => untiered.bind definition closure
  | .invoke target args =>
    match untiered.invoke rounds target args with
    | some reply => (.invoked ⟨reply.outcome, reply.slots⟩, { untiered with store := reply.store })
    | none => (.missing, untiered)
  | .call target args =>
    match untiered.invoke rounds target args with
    | some reply => (.invoked ⟨reply.outcome, args⟩, { untiered with store := reply.store })
    | none => (.missing, untiered)
  | .dropHandle target =>
    (.done, { untiered with handles := untiered.handles.setIfInBounds target none })
  | .newCell value =>
    (.made untiered.store.cells.size, { untiered with store := (untiered.store.newCell value).2 })
  | .writeCell cell value =>
    (.done, { untiered with store := untiered.store.writeCell cell value })
  | .newBox value =>
    (.made untiered.store.hostBoxes.size,
      { untiered with store := (untiered.store.newHostBox value).2 })
  | .writeBox box value => (.done, { untiered with store := untiered.store.writeBox box value })
  | _ => (.done, untiered)

end Untiered

namespace Engine

/-- A command of the host, its answer, and the memory it shares with functions afterwards. -/
structure Observation where
  command : Command
  answer : Answer
  cells : Array Value
  boxes : Array Value

end Engine

namespace Untiered

open Engine

/-- What a host observes of an engine without tiers. -/
def observed (rounds : Nat) (untiered : Untiered) : List Command → List Observation
  | [] => []
  | command :: rest =>
    let (answer, next) := untiered.perform rounds command
    ⟨command, answer, next.store.cells, next.store.hostBoxes⟩ :: next.observed rounds rest

variable {rounds more : Nat}

end Untiered

end HotPath

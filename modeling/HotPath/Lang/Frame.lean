import HotPath.Outcome

/-!
The frame in which a body runs, and the effects a body can have on it. Both tiers run bodies on
frames; they differ in how a body reaches its places.
-/

namespace HotPath

structure Frame where
  params : List Value
  locals : List Value
  store : Store

/-- What stops the evaluation of an expression before it has a value. -/
inductive Stop where
  /-- The function was left with a value. -/
  | returned (value : Value)
  | faulted (fault : Fault)
  | missingSlot
  | exhausted

def Stop.outcome : Stop → Outcome Value
  | .returned value => .value value
  | .faulted fault => .fault fault
  | .missingSlot => .crash .missingSlot
  | .exhausted => .exhausted

/-- An allowance of loop tests that no machine can use up. -/
def ampleRounds : Nat := Nat.pow 10 18

/-- Room for locals is made for a power of two of them, 24 bytes each, and never for more than
half of the address space. -/
def maxLocals : Nat := Nat.pow 2 58

abbrev Run := EStateM Stop Frame

namespace Run

def readParam (index : Nat) : Run Value := fun frame =>
  match frame.params[index]? with
  | some value => .ok value frame
  | none => .error .missingSlot frame

def writeParam (index : Nat) (value : Value) : Run Unit := fun frame =>
  if index < frame.params.length then
    .ok () { frame with params := frame.params.set index value }
  else .error .missingSlot frame

def readLocal (index : Nat) : Run Value := fun frame =>
  match frame.locals[index]? with
  | some value => .ok value frame
  | none => .error .missingSlot frame

def writeLocal (index : Nat) (value : Value) : Run Unit := fun frame =>
  if index < frame.locals.length then
    .ok () { frame with locals := frame.locals.set index value }
  else .error .missingSlot frame

def readCapture (binding : Binding) (slot : Nat) : Run Value := fun frame =>
  match binding[slot]? with
  | some cell => .ok (frame.store.readCell cell) frame
  | none => .error (.faulted (.unboundCapture slot)) frame

def writeCapture (binding : Binding) (slot : Nat) (value : Value) : Run Unit := fun frame =>
  match binding[slot]? with
  | some cell => .ok () { frame with store := frame.store.writeCell cell value }
  | none => .error (.faulted (.unboundCapture slot)) frame

def readBox (box : BoxId) : Run Value := fun frame =>
  .ok (frame.store.readBox box) frame

def writeBox (box : BoxId) (value : Value) : Run Unit := fun frame =>
  .ok () { frame with store := frame.store.writeBox box value }

def ofOperator {α : Type} : Except Fault α → Run α
  | .ok result => pure result
  | .error fault => throw (.faulted fault)

/-- Run a body as long as a test holds, at most `rounds` tests. -/
def whileTrue (test : Run Bool) (body : Run Value) : (rounds : Nat) → Run Value
  | 0 => throw .exhausted
  | rounds + 1 => do
    if ← test then
      let _ ← body
      whileTrue test body rounds
    else pure .unit

def reply : EStateM.Result Stop Frame Value → Reply
  | .ok value frame => ⟨.value value, frame.params, frame.store⟩
  | .error stop frame => ⟨stop.outcome, frame.params, frame.store⟩

/-- Run a body in a new frame, in which every local holds unit. -/
def onFrame (body : Run Value) (locals : Nat) (params : List Value) (store : Store) : Reply :=
  if maxLocals < locals then ⟨.crash .frameOverflow, params, store⟩
  else reply (body ⟨params, List.replicate locals .unit, store⟩)

section

variable {locals : Nat} (body : Run Value) (params : List Value) (store : Store)

theorem onFrame_of_overflow (overflows : maxLocals < locals) :
    onFrame body locals params store = ⟨.crash .frameOverflow, params, store⟩ := if_pos overflows

theorem onFrame_of_fits (fits : ¬ maxLocals < locals) :
    onFrame body locals params store = reply (body ⟨params, List.replicate locals .unit, store⟩) :=
  if_neg fits

end

end Run

end HotPath

import HotPath.Native.EntryPoint

/-!
Compiled code under a declared signature. Code of an exact shape is called as it is. Uniform code
goes through an adapter: each by-reference argument travels in a box made for this call, and its
final contents are copied back to the caller's slot, also when the call ends in an error.
-/

namespace HotPath

/-- Uniform code fitted to a signature. -/
structure Adapter where
  modes : List PassMode
  returns : Bool
  target : Callee Value

namespace Adapter

/-- An adapter fits uniform code that takes the arguments of the signature and
gives back a value exactly when the signature does. -/
def fit (signature : Signature) (native : NativeFn) : Except Mismatch Adapter :=
  match native with
  | .uniform arity returns target =>
    if arity = signature.arity ∧ returns = !signature.isVoid then
      .ok ⟨signature.modes, returns, target⟩
    else .error ⟨signature, native.shape⟩
  | _ => .error ⟨signature, native.shape⟩

/-- Put the by-reference arguments into fresh boxes. Arguments past the declared
ones are not passed on. -/
def boxArgs (store : Store) : List PassMode → List Value → List Value × Store
  | .byValue :: modes, arg :: args =>
    let (passed, store) := boxArgs store modes args
    (arg :: passed, store)
  | .byRef :: modes, arg :: args =>
    let (box, store) := store.newFrameBox arg
    let (passed, store) := boxArgs store modes args
    (.ref box :: passed, store)
  | _, _ => ([], store)

/-- Empty the boxes of the by-reference arguments into the caller's slots. -/
def unboxArgs (store : Store) : List PassMode → List Value → List Value → List Value × Store
  | .byValue :: modes, _ :: passed, slot :: slots =>
    let (rest, store) := unboxArgs store modes passed slots
    (slot :: rest, store)
  | .byRef :: modes, .ref box :: passed, _ :: slots =>
    let (value, store) := store.takeBox box
    let (rest, store) := unboxArgs store modes passed slots
    (value :: rest, store)
  | _, _, slots => (slots, store)

def call (adapter : Adapter) (rounds : Nat) (args : List Value) (store : Store) : Reply :=
  let (passed, store) := boxArgs store adapter.modes args
  let (outcome, store) := adapter.target rounds passed store
  -- A crash copies nothing back, but then nobody is told the slots.
  let (slots, store) := unboxArgs store adapter.modes passed args
  ⟨if adapter.returns then outcome else outcome.map fun _ => .unit, slots, store⟩

end Adapter

inductive CompiledEntry where
  | direct (native : NativeFn)
  | adapted (adapter : Adapter)

namespace CompiledEntry

def resolve (signature : Signature) (native : NativeFn) : Except Mismatch CompiledEntry :=
  let selection := signature.selectShape
  if selection.exact then
    if native.shape = selection.shape then .ok (.direct native)
    else .error ⟨signature, native.shape⟩
  else (Adapter.fit signature native).map .adapted

def isAdapted : CompiledEntry → Bool
  | .direct _ => false
  | .adapted _ => true

def shape : CompiledEntry → Shape
  | .direct native => native.shape
  | .adapted adapter => .uniform adapter.modes.length adapter.returns

/-- Call an entry; the number of arguments is the caller's concern, only two-slot
code reports a wrong one. -/
def call (entry : CompiledEntry) (rounds : Nat) (args : List Value) (store : Store) : Reply :=
  match entry with
  | .direct native =>
    match native, args with
    | .actionRef2 _, [_, _] => native.callRaw rounds args store
    | .actionRef2 _, _ => ⟨.fault (.arity 2 args.length), args, store⟩
    | _, _ => native.callRaw rounds args store
  | .adapted adapter => adapter.call rounds args store

end CompiledEntry

end HotPath

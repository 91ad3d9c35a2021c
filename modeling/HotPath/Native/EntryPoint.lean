import HotPath.Outcome

/-!
Entry points of compiled code. An entry point is any function of its shape: it may read and write
the store as it likes. Its first argument is the allowance of loop tests.
-/

namespace HotPath

/-- Code that takes its arguments in a list and leaves the caller's slots alone. -/
abbrev Callee (α : Type) := (rounds : Nat) → List Value → Store → Outcome α × Store

inductive NativeFn where
  | func (arity : Nat) (run : Callee Value)
  | action (arity : Nat) (run : Callee Unit)
  /-- Code that gives back the final contents of its two argument slots. -/
  | actionRef2 (run : (rounds : Nat) → Value → Value → Store → Outcome Unit × Value × Value × Store)
  | uniform (arity : Nat) (returns : Bool) (run : Callee Value)

namespace NativeFn

def shape : NativeFn → Shape
  | .func arity _ => .func arity
  | .action arity _ => .action arity
  | .actionRef2 _ => .actionRef2
  | .uniform arity returns _ => .uniform arity returns

def inspect (entry : NativeFn) : String := "NativeFn(" ++ entry.shape.inspect ++ ")"

/-- Call an entry point as it is, without any regard to a signature. Code of the
two-slot shape crashes when it is handed another number of slots. -/
def callRaw (native : NativeFn) (rounds : Nat) (args : List Value) (store : Store) : Reply :=
  match native with
  | .func _ run | .uniform _ _ run =>
    let (outcome, store) := run rounds args store
    ⟨outcome, args, store⟩
  | .action _ run =>
    let (outcome, store) := run rounds args store
    ⟨outcome.map fun _ => .unit, args, store⟩
  | .actionRef2 run =>
    match args with
    | [a, b] =>
      let (outcome, a, b, store) := run rounds a b store
      ⟨outcome.map fun _ => .unit, [a, b], store⟩
    | _ => ⟨.crash .missingSlot, args, store⟩

/-- The same code presented under another shape. The arguments are passed on in a
list of their own; only the two-slot shape stores them back. -/
def presentedAs (native : NativeFn) : Shape → NativeFn
  | .func arity => .func arity fun rounds args store =>
    let reply := native.callRaw rounds args store
    (reply.outcome, reply.store)
  | .action arity => .action arity fun rounds args store =>
    let reply := native.callRaw rounds args store
    (reply.outcome.map fun _ => (), reply.store)
  | .actionRef2 => .actionRef2 fun rounds a b store =>
    let reply := native.callRaw rounds [a, b] store
    (reply.outcome.map fun _ => (), reply.slots.getD 0 a, reply.slots.getD 1 b, reply.store)
  | .uniform arity returns => .uniform arity returns fun rounds args store =>
    let reply := native.callRaw rounds args store
    (reply.outcome, reply.store)

end NativeFn

/-- Published code: the entry point of a function without captured variables, or a
factory that makes an entry point for the cells of one closure. -/
inductive CompiledCode where
  | direct (native : NativeFn)
  | factory (make : Binding → NativeFn)

namespace CompiledCode

/-- The entry point for a closure; direct code has the same for all, a factory
none without a closure. -/
def entryPoint? : CompiledCode → Option Binding → Option NativeFn
  | .direct native, _ => some native
  | .factory make, some binding => some (make binding)
  | .factory _, none => none

def inspect : CompiledCode → String
  | .direct entry => "Direct(" ++ entry.inspect ++ ")"
  | .factory _ => "Factory"

end CompiledCode

end HotPath

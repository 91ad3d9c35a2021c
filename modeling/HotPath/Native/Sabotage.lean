import HotPath.Native.Compiler

/-!
Compilers with planted defects: for chosen functions they refuse, crash, or answer with canned code
of a shape that nobody asked for.
-/

namespace HotPath

inductive Sabotage where
  /-- Report a failed code generation. -/
  | fail
  /-- Report an unsupported body. -/
  | unsupported
  /-- Crash with a message that names the function. -/
  | crash
  /-- Crash with a fixed message. -/
  | crashFixed
  /-- Crash without a message. -/
  | crashSilent
  /-- Produce canned code of a shape, whatever was asked. -/
  | canned (shape : Shape)
  deriving DecidableEq, Repr

def ninetyNine : Value := .int 99

def fillBoxes (store : Store) : List Value → Store
  | [] => store
  | .ref box :: rest => fillBoxes (store.writeBox box ninetyNine) rest
  | _ :: rest => fillBoxes store rest

/-- Code that is the same for every function: it answers 99, swaps its two slots,
or puts 99 into every box it is handed. -/
def NativeFn.canned : Shape → NativeFn
  | .func arity => .func arity fun _ _ store => (.value ninetyNine, store)
  | .action arity => .action arity fun _ _ store => (.value (), store)
  | .actionRef2 => .actionRef2 fun _ a b store => (.value (), b, a, store)
  | .uniform arity returns => .uniform arity returns fun _ args store =>
    (.value ninetyNine, fillBoxes store args)

def Sabotage.answer (how : Sabotage) (name : String) : Generated NativeFn :=
  match how with
  | .fail => .refused (.codegen ("refusing to compile " ++ name))
  | .unsupported => .refused (.unsupported ("will not compile " ++ name))
  | .crash => .crashed (some ("compiler crashed on " ++ name))
  | .crashFixed => .crashed (some "register allocator exploded")
  | .crashSilent => .crashed none
  | .canned shape => .produced (.canned shape)

/-- A compiler that mistreats the functions with certain names. -/
def Compiler.sabotaged (compiler : Compiler) (plan : String → Option Sabotage) : Compiler where
  direct definition shape :=
    match plan definition.name with
    | some how => how.answer definition.name
    | none => compiler.direct definition shape
  factory definition shape :=
    match plan definition.name with
    | some how => (how.answer definition.name).map fun native _ => native
    | none => compiler.factory definition shape

end HotPath

/-!
Declared calling signatures: how each argument is passed and whether a value comes back.
-/

namespace HotPath

/-- How an argument is passed: the callee works on its own copy, or its writes
are seen in the caller's slot after the call. -/
inductive PassMode where
  | byValue | byRef
  deriving DecidableEq, Repr

structure Parameter where
  name : String
  mode : PassMode
  deriving DecidableEq, Repr

def Parameter.isByRef (parameter : Parameter) : Bool := parameter.mode == .byRef

inductive Returns where
  | value | void
  deriving DecidableEq, Repr

structure Signature where
  params : List Parameter
  returns : Returns
  deriving DecidableEq, Repr

namespace Signature

def arity (signature : Signature) : Nat := signature.params.length

def isVoid (signature : Signature) : Bool := signature.returns == .void

def modes (signature : Signature) : List PassMode := signature.params.map (·.mode)

def hasByRef (signature : Signature) : Bool := signature.params.any (·.isByRef)

/-- Positions of the by-reference parameters, ascending. -/
def byRefIndices (signature : Signature) : List Nat :=
  (signature.params.zipIdx.filter (·.1.isByRef)).map (·.2)

def parameterText (parameter : Parameter) : String :=
  if parameter.isByRef then "ref " ++ parameter.name else parameter.name

/-- Text of a signature, as in `fn(a, ref b) -> value` or `fn(a)`. -/
def display (signature : Signature) : String :=
  "fn(" ++ ", ".intercalate (signature.params.map parameterText) ++ ")" ++
    (if signature.isVoid then "" else " -> value")

/-- The slots of a call afterwards: the final value in every by-reference
position, the caller's own value elsewhere. -/
def writeBack {α : Type} : List PassMode → List α → List α → List α
  | .byRef :: modes, _ :: args, final :: finals => final :: writeBack modes args finals
  | .byValue :: modes, arg :: args, _ :: finals => arg :: writeBack modes args finals
  | _, args, _ => args

end Signature

end HotPath

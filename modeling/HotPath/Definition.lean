import HotPath.Lang.Expr
import HotPath.Signature

/-!
Function definitions. A draft describes a function; a definition is a draft without defects under an
identity of its own. `Draft.defect?` names the first defect of a draft that has one.
-/

namespace HotPath

def maxParameters : Nat := 255

/-- A malformed function, or a closure that does not fit a function. -/
inductive DefinitionError where
  | duplicateParameter (name : String)
  | duplicateCapture (name : String)
  | tooManyParameters (count : Nat)
  /-- The body uses a place that is not declared. -/
  | undeclared (place : Place)
  | missingClosure (expected : Nat)
  | unexpectedClosure (got : Nat)
  | closureArity (expected got : Nat)
  deriving DecidableEq, Repr

def DefinitionError.message : DefinitionError → String
  | .duplicateParameter name => "Duplicate parameter: " ++ name
  | .duplicateCapture name => "Duplicate closure slot: " ++ name
  | .tooManyParameters count => s!"Too many parameters: {count} (max {maxParameters})"
  | .undeclared (.param index) => s!"Unknown parameter index: {index}"
  | .undeclared (.frameLocal index) => s!"Unknown local index: {index}"
  | .undeclared (.capture slot) => s!"Unknown closure slot index: {slot}"
  | .missingClosure expected => s!"Missing closure: function captures {expected} variables"
  | .unexpectedClosure got => s!"Unexpected closure with {got} cells: function captures nothing"
  | .closureArity expected got => s!"Closure arity mismatch: expected {expected} cells, got {got}"

/-- A function as described, not yet checked. -/
structure Draft where
  name : String
  signature : Signature
  /-- Names of the captured variables, in slot order. -/
  captures : List String
  locals : Nat
  body : Expr

/-- The first name that occurred earlier in the list. -/
def firstRepeat? (earlier : List String) : List String → Option String
  | [] => none
  | name :: rest =>
    if name ∈ earlier then some name else firstRepeat? (name :: earlier) rest

namespace Draft

def scope (draft : Draft) : Scope :=
  ⟨draft.signature.arity, draft.locals, draft.captures.length⟩

def paramNames (draft : Draft) : List String := draft.signature.params.map (·.name)

def defect? (draft : Draft) : Option DefinitionError :=
  if maxParameters < draft.signature.arity then some (.tooManyParameters draft.signature.arity)
  else
    (firstRepeat? [] draft.paramNames).map .duplicateParameter <|>
    (firstRepeat? [] draft.captures).map .duplicateCapture <|>
    (draft.body.stray? draft.scope).map .undeclared

end Draft

abbrev DefinitionId := Nat

/-- A function without defects. Two definitions of the same draft are two functions. -/
structure Definition where
  id : DefinitionId
  draft : Draft
  sound : draft.defect? = none

namespace Definition

def build (id : DefinitionId) (draft : Draft) : Except DefinitionError Definition :=
  match sound : draft.defect? with
  | some defect => .error defect
  | none => .ok ⟨id, draft, sound⟩

def name (definition : Definition) : String := definition.draft.name

def signature (definition : Definition) : Signature := definition.draft.signature

def captures (definition : Definition) : List String := definition.draft.captures

def locals (definition : Definition) : Nat := definition.draft.locals

def body (definition : Definition) : Expr := definition.draft.body

def hasClosure (definition : Definition) : Bool := !definition.captures.isEmpty

/-- Whether a closure has one cell for every captured variable; a function that
captures nothing takes no closure, not even an empty one. -/
def checkClosure (definition : Definition) (closure : Option Binding) :
    Except DefinitionError Unit :=
  match definition.captures.length, closure with
  | 0, none => .ok ()
  | 0, some binding => .error (.unexpectedClosure binding.length)
  | expected, none => .error (.missingClosure expected)
  | expected, some binding =>
    if binding.length = expected then .ok () else .error (.closureArity expected binding.length)

/-- Inspection text of a definition; its identity is left out. -/
def inspect (definition : Definition) : String :=
  "FunctionDefinition \x7b id: DefinitionId(_), name: " ++ Text.quote definition.name ++
    ", signature: " ++ Text.quote definition.signature.display ++
    ", closure_slots: " ++ toString definition.captures.length ++ " \x7d"

end Definition

end HotPath

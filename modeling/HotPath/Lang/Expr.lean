import HotPath.Lang.Operator

/-!
Function bodies: expression trees over parameters, locals and captured variables. Every expression
yields a value; an assignment yields the assigned value, a loop and an empty block yield unit.
-/

namespace HotPath

inductive Expr where
  | const (value : Value)
  | readParam (index : Nat)
  | writeParam (index : Nat) (value : Expr)
  | readLocal (index : Nat)
  | writeLocal (index : Nat) (value : Expr)
  | readCapture (slot : Nat)
  | writeCapture (slot : Nat) (value : Expr)
  | unary (op : UnaryOp) (operand : Expr)
  | binary (op : BinaryOp) (left right : Expr)
  | ifElse (condition yes no : Expr)
  | whileLoop (condition body : Expr)
  | block (items : List Expr)
  /-- Leave the function with a value. -/
  | ret (value : Expr)
  /-- Leave the function with an error that carries a value. -/
  | raise (value : Expr)
  deriving Inhabited

namespace Expr

mutual

def nodeCount : Expr → Nat
  | .const _ | .readParam _ | .readLocal _ | .readCapture _ => 1
  | .writeParam _ e | .writeLocal _ e | .writeCapture _ e | .unary _ e | .ret e | .raise e =>
    1 + e.nodeCount
  | .binary _ a b | .whileLoop a b => 1 + (a.nodeCount + b.nodeCount)
  | .ifElse a b c => 1 + (a.nodeCount + b.nodeCount + c.nodeCount)
  | .block items => 1 + nodeCountAll items

def nodeCountAll : List Expr → Nat
  | [] => 0
  | e :: rest => e.nodeCount + nodeCountAll rest

end

end Expr

/-- A place that a body reads or writes. -/
inductive Place where
  | param (index : Nat)
  | frameLocal (index : Nat)
  | capture (slot : Nat)
  deriving DecidableEq, Repr

structure Scope where
  params : Nat
  locals : Nat
  captures : Nat
  deriving DecidableEq, Repr

def Scope.Has (scope : Scope) : Place → Prop
  | .param index => index < scope.params
  | .frameLocal index => index < scope.locals
  | .capture slot => slot < scope.captures

instance (scope : Scope) (place : Place) : Decidable (scope.Has place) := by
  cases place <;> exact inferInstanceAs (Decidable (_ < _))

/-- The place itself, if it lies outside the scope. -/
def Scope.outside? (scope : Scope) (place : Place) : Option Place :=
  if scope.Has place then none else some place

namespace Expr

mutual

/-- The first place outside the scope, a node before its parts and these from
left to right. -/
def stray? (scope : Scope) : Expr → Option Place
  | .const _ => none
  | .readParam i => scope.outside? (.param i)
  | .readLocal i => scope.outside? (.frameLocal i)
  | .readCapture i => scope.outside? (.capture i)
  | .writeParam i e => scope.outside? (.param i) <|> e.stray? scope
  | .writeLocal i e => scope.outside? (.frameLocal i) <|> e.stray? scope
  | .writeCapture i e => scope.outside? (.capture i) <|> e.stray? scope
  | .unary _ e | .ret e | .raise e => e.stray? scope
  | .binary _ a b | .whileLoop a b => a.stray? scope <|> b.stray? scope
  | .ifElse a b c => a.stray? scope <|> b.stray? scope <|> c.stray? scope
  | .block items => strayIn? scope items

def strayIn? (scope : Scope) : List Expr → Option Place
  | [] => none
  | e :: rest => e.stray? scope <|> strayIn? scope rest

end

end Expr

end HotPath

import HotPath.Fault

/-!
The operators of the body language. Integer arithmetic is checked; an integer beside a float is
widened; `+` also joins strings; the orderings take numbers and strings; equality takes everything.
-/

namespace HotPath

inductive UnaryOp where
  | neg | not
  deriving DecidableEq, Repr

inductive BinaryOp where
  | add | sub | mul | div | rem
  | eq | ne | lt | le | gt | ge
  deriving DecidableEq, Repr

def UnaryOp.symbol : UnaryOp → String
  | .neg => "-"
  | .not => "!"

namespace BinaryOp

def symbol : BinaryOp → String
  | .add => "+"
  | .sub => "-"
  | .mul => "*"
  | .div => "/"
  | .rem => "%"
  | .eq => "=="
  | .ne => "!="
  | .lt => "<"
  | .le => "<="
  | .gt => ">"
  | .ge => ">="

def all : List BinaryOp := [.add, .sub, .mul, .div, .rem, .eq, .ne, .lt, .le, .gt, .ge]

def ofSymbol? (text : String) : Option BinaryOp :=
  all.find? fun op => op.symbol == text

end BinaryOp

namespace Value

open Number (widen)

inductive Arithmetic where
  | add | sub | mul | div | rem
  deriving DecidableEq, Repr

inductive Comparison where
  | lt | le | gt | ge
  deriving DecidableEq, Repr

def Arithmetic.op : Arithmetic → BinaryOp
  | .add => .add
  | .sub => .sub
  | .mul => .mul
  | .div => .div
  | .rem => .rem

def Comparison.op : Comparison → BinaryOp
  | .lt => .lt
  | .le => .le
  | .gt => .gt
  | .ge => .ge

def Comparison.holds : Comparison → Ordering → Bool
  | .lt, order => order == .lt
  | .le, order => order != .gt
  | .gt, order => order == .gt
  | .ge, order => order != .lt

def operandFault (op : BinaryOp) (left right : Value) : Fault :=
  .operands op.symbol left.kind right.kind

/-- Whether the wrapped 64-bit result of an operator differs from the exact one.
The remainder of the least integer by -1 counts as an overflow like the quotient. -/
def Arithmetic.overflows (op : Arithmetic) (a b : Int64) : Bool :=
  match op with
  | .add => a.toBitVec.saddOverflow b.toBitVec
  | .sub => a.toBitVec.ssubOverflow b.toBitVec
  | .mul => a.toBitVec.smulOverflow b.toBitVec
  | .div | .rem => a.toBitVec.sdivOverflow b.toBitVec

def Arithmetic.wrapped (op : Arithmetic) (a b : Int64) : Int64 :=
  match op with
  | .add => a + b
  | .sub => a - b
  | .mul => a * b
  | .div => a / b
  | .rem => a % b

def Arithmetic.onInts (op : Arithmetic) (a b : Int64) : Except Fault Value :=
  if (op = .div ∨ op = .rem) ∧ b = 0 then .error .divisionByZero
  else if op.overflows a b then .error (.overflow op.op.symbol)
  else .ok (.int (op.wrapped a b))

def Arithmetic.onFloats (op : Arithmetic) (a b : Float) : Float :=
  match op with
  | .add => a + b
  | .sub => a - b
  | .mul => a * b
  | .div => a / b
  | .rem => Number.remainder a b

def arithmetic (op : Arithmetic) : Value → Value → Except Fault Value
  | .int a, .int b => op.onInts a b
  | .float a, .float b => .ok (.float (op.onFloats a b))
  | .int a, .float b => .ok (.float (op.onFloats (widen a) b))
  | .float a, .int b => .ok (.float (op.onFloats a (widen b)))
  | .str a, .str b =>
    if op = .add then .ok (.str (a ++ b)) else .error (.operands op.op.symbol .str .str)
  | left, right => .error (operandFault op.op left right)

/-- Equality in the language: as `same`, but numbers of the two kinds compare too. -/
def equals : Value → Value → Bool
  | .int a, .float b | .float b, .int a => widen a == b
  | left, right => left.same right

/-- The order of two floats; a NaN stands in no order. -/
def floatOrder (a b : Float) : Option Ordering :=
  if a < b then some .lt
  else if a == b then some .eq
  else if b < a then some .gt
  else none

/-- The order of two numbers or two strings, where they have one. -/
def order? : Value → Value → Option Ordering
  | .int a, .int b => some (compare a b)
  | .float a, .float b => floatOrder a b
  | .int a, .float b => floatOrder (widen a) b
  | .float a, .int b => floatOrder a (widen b)
  | .str a, .str b => some (compare a b)
  | _, _ => none

def comparison (op : Comparison) (left right : Value) : Except Fault Value :=
  match order? left right with
  | some order => .ok (.bool (op.holds order))
  | none => .error (operandFault op.op left right)

def binary (op : BinaryOp) (left right : Value) : Except Fault Value :=
  match op with
  | .add => arithmetic .add left right
  | .sub => arithmetic .sub left right
  | .mul => arithmetic .mul left right
  | .div => arithmetic .div left right
  | .rem => arithmetic .rem left right
  | .eq => .ok (.bool (left.equals right))
  | .ne => .ok (.bool (!left.equals right))
  | .lt => comparison .lt left right
  | .le => comparison .le left right
  | .gt => comparison .gt left right
  | .ge => comparison .ge left right

def unary (op : UnaryOp) (operand : Value) : Except Fault Value :=
  match op, operand with
  | .neg, .int n => if n = Int64.minValue then .error (.overflow "-") else .ok (.int (-n))
  | .neg, .float x => .ok (.float (-x))
  | .not, .bool b => .ok (.bool (!b))
  | op, operand => .error (.operand op.symbol operand.kind)

inductive Construct where
  | ifElse | whileLoop
  deriving DecidableEq, Repr

def Construct.symbol : Construct → String
  | .ifElse => "if"
  | .whileLoop => "while"

/-- Read a value as the condition of a construct. -/
def condition (construct : Construct) : Value → Except Fault Bool
  | .bool b => .ok b
  | other => .error (.operand construct.symbol other.kind)

end Value

end HotPath

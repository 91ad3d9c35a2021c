import HotPath.Lang.Operator
import Mathlib.Logic.ExistsUnique

/-!
The operators that compare agree with each other. Equality and order are computed apart, each with
its own widening of integers beside floats, and still an order that exists says of two values that
they are equal exactly when equality does.
-/

namespace HotPath.Value

open Float.Model (UnpackedFloat)

/-! ## The order of floats -/

theorem compare_sign_swap (a b : UnpackedFloat.Sign) : compare b a = (compare a b).swap := by
  cases a <;> cases b <;> rfl

theorem compare_finite_swap (m n : Nat) (e f : Int) :
    (compare f e).then (compare n m) = ((compare e f).then (compare m n)).swap := by
  rw [Ordering.swap_then, ← Std.OrientedCmp.eq_swap, ← Std.OrientedCmp.eq_swap]

theorem compare_unpacked_swap (a b : UnpackedFloat) :
    b.compare a = (a.compare b).map .swap := by
  cases a with
  | notANumber => cases b <;> rfl
  | infinity s =>
    cases b with
    | infinity t => exact congrArg some (compare_sign_swap s t)
    | notANumber => cases s <;> rfl
    | zero => cases s <;> rfl
    | finite t => cases s <;> cases t <;> rfl
  | zero =>
    cases b with
    | infinity t => cases t <;> rfl
    | notANumber | zero => rfl
    | finite t => cases t <;> rfl
  | finite s m e =>
    cases b with
    | infinity t => cases s <;> cases t <;> rfl
    | notANumber | zero => cases s <;> rfl
    | finite t n f =>
      -- The exponents decide before the mantissas, and of two negative numbers both backwards.
      cases s with
      | negative =>
        cases t with
        | negative => exact congrArg (some ·.swap) (compare_finite_swap m n e f)
        | positive => rfl
      | positive =>
        cases t with
        | negative => rfl
        | positive => exact congrArg some (compare_finite_swap m n e f)

theorem lt_iff_compare {a b : Float} : a < b ↔ a.toModel.compare b.toModel = some .lt := by
  change a.lt b = true ↔ _
  rw [Float.lt, decide_eq_true_eq]
  exact beq_iff_eq

theorem beq_eq_compare (a b : Float) : (a == b) = (a.toModel.compare b.toModel == some .eq) := rfl

theorem compare_float_swap (a b : Float) :
    b.toModel.compare a.toModel = (a.toModel.compare b.toModel).map .swap :=
  compare_unpacked_swap a.toModel.unpack b.toModel.unpack

theorem floatOrder_eq (a b : Float) : floatOrder a b = a.toModel.compare b.toModel := by
  have swapped := compare_float_swap a b
  simp only [floatOrder, lt_iff_compare, beq_eq_compare, swapped]
  cases a.toModel.compare b.toModel with
  | none => rfl
  | some order => cases order <;> rfl

theorem beq_eq_floatOrder (a b : Float) : (a == b) = (floatOrder a b == some .eq) := by
  rw [floatOrder_eq, beq_eq_compare]

theorem floatOrder_swap (a b : Float) : floatOrder b a = (floatOrder a b).map .swap := by
  rw [floatOrder_eq, floatOrder_eq, compare_float_swap]

theorem beq_comm (a b : Float) : (b == a) = (a == b) := by
  rw [beq_eq_floatOrder, beq_eq_floatOrder, floatOrder_swap]
  cases floatOrder a b with
  | none => rfl
  | some order => cases order <;> rfl

/-! ## The order of values -/

theorem order?_swap (left right : Value) : order? right left = (order? left right).map .swap := by
  cases left with
  | int a =>
    cases right with
    | int b => exact congrArg some Std.OrientedCmp.eq_swap
    | float b => exact floatOrder_swap _ _
    | _ => rfl
  | float a =>
    cases right with
    | int b => exact floatOrder_swap _ _
    | float b => exact floatOrder_swap _ _
    | _ => rfl
  | str a =>
    cases right with
    | str b => exact congrArg some Std.OrientedCmp.eq_swap
    | _ => rfl
  | _ => cases right <;> rfl

/-- A lawful order is that of equals exactly for equal keys. -/
theorem compare_eq_beq {Key : Type} [Ord Key] [BEq Key] [Std.LawfulEqOrd Key] [LawfulBEq Key]
    (a b : Key) : (compare a b == .eq) = (a == b) := by
  rw [Bool.eq_iff_iff, beq_iff_eq, beq_iff_eq, Std.LawfulEqCmp.compare_eq_iff_eq]

theorem equals_of_floatOrder {a b : Float} {order : Ordering}
    (ordered : floatOrder a b = some order) : (a == b) = (order == .eq) := by
  rw [beq_eq_floatOrder, ordered]
  rfl

/-- Where there is an order, it is that of equals exactly for equal values. -/
theorem equals_of_order? {left right : Value} {order : Ordering}
    (ordered : order? left right = some order) : left.equals right = (order == .eq) := by
  cases left with
  | int a =>
    cases right with
    | int b =>
      cases ordered
      exact (compare_eq_beq a b).symm
    | float b => exact equals_of_floatOrder ordered
    | _ => cases ordered
  | float a =>
    cases right with
    | int b => exact (beq_comm a _).trans (equals_of_floatOrder ordered)
    | float b => exact equals_of_floatOrder ordered
    | _ => cases ordered
  | str a =>
    cases right with
    | str b =>
      cases ordered
      exact (compare_eq_beq a b).symm
    | _ => cases ordered
  | _ => cases right <;> cases ordered

theorem equals_comm (left right : Value) : right.equals left = left.equals right := by
  cases left with
  | unit => cases right <;> rfl
  | bool a =>
    cases right with
    | bool b => exact BEq.comm (a := b)
    | _ => rfl
  | int a =>
    cases right with
    | int b => exact BEq.comm (a := b)
    | _ => rfl
  | float a =>
    cases right with
    | float b => exact beq_comm a b
    | _ => rfl
  | str a =>
    cases right with
    | str b => exact BEq.comm (a := b)
    | _ => rfl
  | ref a =>
    cases right with
    | ref b => exact BEq.comm (a := b)
    | _ => rfl

/-! ## What the operators say -/

/-- Two values are as an operator says. -/
def Holds (op : BinaryOp) (left right : Value) : Prop := binary op left right = .ok (.bool true)

/-- Every ordering of two values succeeds. -/
def Comparable (left right : Value) : Prop :=
  ∀ op : Comparison, ∃ truth, binary op.op left right = .ok (.bool truth)

/-- Of two operators that both succeed, one says what the other denies. -/
def Opposed (op other : BinaryOp) (left right : Value) : Prop :=
  ∃ truth, binary op left right = .ok (.bool truth) ∧ binary other left right = .ok (.bool !truth)

/-- The values of a kind are in a total order, in which only a value itself is equal to it. -/
structure TotallyOrdered (kind : Kind) : Prop where
  comparable : ∀ {left right : Value}, left.kind = kind → right.kind = kind →
    Comparable left right
  transitive : ∀ {left middle right : Value}, left.kind = kind → middle.kind = kind →
    right.kind = kind → Holds .lt left middle → Holds .lt middle right → Holds .lt left right
  identical : ∀ {left right : Value}, left.kind = kind → right.kind = kind →
    (Holds .eq left right ↔ left = right)

section

variable {left right : Value} {order : Ordering}

theorem binary_comparison (op : Comparison) (left right : Value) :
    binary op.op left right = comparison op left right := by
  cases op <;> rfl

theorem binary_of_order? (ordered : order? left right = some order) (op : Comparison) :
    binary op.op left right = .ok (.bool (op.holds order)) := by
  rw [binary_comparison, comparison, ordered]

theorem binary_of_unordered (unordered : order? left right = none) (op : Comparison) :
    binary op.op left right = .error (.operands op.op.symbol left.kind right.kind) := by
  rw [binary_comparison, comparison, unordered, operandFault]

theorem comparable_iff : Comparable left right ↔ ∃ order, order? left right = some order := by
  constructor
  · intro comparable
    cases ordered : order? left right with
    | none =>
      obtain ⟨truth, said⟩ := comparable .lt
      rw [binary_of_unordered ordered] at said
      cases said
    | some order => exact ⟨order, rfl⟩
  · rintro ⟨order, ordered⟩ op
    exact ⟨_, binary_of_order? ordered op⟩

theorem holds_eq_iff : Holds .eq left right ↔ left.equals right = true := by
  simp [Holds, binary]

theorem holds_iff (ordered : order? left right = some order) (op : Comparison) :
    Holds op.op left right ↔ op.holds order = true := by
  simp [Holds, binary_of_order? ordered op]

theorem opposed_of_not (op other : Comparison) (ordered : order? left right = some order)
    (denies : other.holds order = !op.holds order) : Opposed op.op other.op left right :=
  ⟨_, binary_of_order? ordered op, (binary_of_order? ordered other).trans (by rw [denies])⟩

theorem trichotomy (ordered : order? left right = some order) :
    ∃! op, op ∈ [BinaryOp.lt, .eq, .gt] ∧ Holds op left right := by
  have less : Holds .lt left right ↔ _ := holds_iff ordered .lt
  have greater : Holds .gt left right ↔ _ := holds_iff ordered .gt
  have equal : Holds .eq left right ↔ (order == .eq) = true :=
    equals_of_order? ordered ▸ holds_eq_iff
  cases order with
  | lt =>
    refine ⟨.lt, ⟨by decide, less.mpr rfl⟩, ?_⟩
    simp [less, equal, greater, Comparison.holds]
  | eq =>
    refine ⟨.eq, ⟨by decide, equal.mpr rfl⟩, ?_⟩
    simp [less, equal, greater, Comparison.holds]
  | gt =>
    refine ⟨.gt, ⟨by decide, greater.mpr rfl⟩, ?_⟩
    simp [less, equal, greater, Comparison.holds]

theorem mirrored (op other : Comparison) (ordered : order? left right = some order)
    (mirrors : other.holds order.swap = op.holds order) :
    binary other.op right left = binary op.op left right := by
  have swapped : order? right left = some order.swap := by
    rw [order?_swap, ordered, Option.map_some]
  rw [binary_of_order? swapped, binary_of_order? ordered, mirrors]

end

/-! ## Kinds in a total order -/

/-- Values that stand in the order of lawful keys are in a total order. -/
theorem totallyOrdered_of_keys {Key : Type} [Ord Key] [Std.TransOrd Key] [Std.LawfulEqOrd Key]
    {kind : Kind} (ofKey : Key → Value)
    (covers : ∀ value : Value, value.kind = kind → ∃ key, ofKey key = value)
    (order : ∀ a b, order? (ofKey a) (ofKey b) = some (compare a b)) : TotallyOrdered kind where
  comparable leftKind rightKind := by
    obtain ⟨a, rfl⟩ := covers _ leftKind
    obtain ⟨b, rfl⟩ := covers _ rightKind
    exact comparable_iff.mpr ⟨_, order a b⟩
  transitive leftKind middleKind rightKind first second := by
    obtain ⟨a, rfl⟩ := covers _ leftKind
    obtain ⟨b, rfl⟩ := covers _ middleKind
    obtain ⟨c, rfl⟩ := covers _ rightKind
    have less : compare a b = .lt := beq_iff_eq.mp ((holds_iff (order a b) .lt).mp first)
    have further : compare b c = .lt := beq_iff_eq.mp ((holds_iff (order b c) .lt).mp second)
    exact (holds_iff (order a c) .lt).mpr (beq_iff_eq.mpr (Std.TransCmp.lt_trans less further))
  identical leftKind rightKind := by
    obtain ⟨a, rfl⟩ := covers _ leftKind
    obtain ⟨b, rfl⟩ := covers _ rightKind
    rw [holds_eq_iff, equals_of_order? (order a b), beq_iff_eq]
    constructor
    · intro equal
      rw [Std.LawfulEqCmp.eq_of_compare equal]
    · intro same
      have self := order a b
      rw [← same, order a a, Std.ReflOrd.compare_self] at self
      exact (Option.some.inj self).symm

theorem totallyOrdered_int : TotallyOrdered .int := by
  refine totallyOrdered_of_keys Value.int (fun value kind => ?_) fun _ _ => rfl
  cases value with
  | int n => exact ⟨n, rfl⟩
  | _ => cases kind

theorem totallyOrdered_str : TotallyOrdered .str := by
  refine totallyOrdered_of_keys Value.str (fun value kind => ?_) fun _ _ => rfl
  cases value with
  | str s => exact ⟨s, rfl⟩
  | _ => cases kind

theorem holds_lt_int {a b : Int64} : Holds .lt (.int a) (.int b) ↔ a.toInt < b.toInt := by
  have ordered : order? (.int a) (.int b) = some (compare a b) := rfl
  rw [← Int64.lt_iff_toInt_lt, ← Std.compare_eq_lt]
  exact (holds_iff ordered .lt).trans beq_iff_eq

theorem holds_lt_str {a b : String} :
    Holds .lt (.str a) (.str b) ↔ List.Lex (· < ·) a.toList b.toList := by
  have ordered : order? (.str a) (.str b) = some (compareOfLessAndEq a b) := rfl
  exact (holds_iff ordered .lt).trans (beq_iff_eq.trans compareOfLessAndEq_eq_lt)

/-- The six comparisons agree with one another on all values, and put the integers and the strings
into total orders. -/
theorem comparisons_consistent :
    (∀ left right : Value,
      (Comparable left right ∨
        ∀ op : Comparison, binary op.op left right =
          .error (.operands op.op.symbol left.kind right.kind)) ∧
      Opposed .eq .ne left right ∧
      binary .eq right left = binary .eq left right ∧
      (Comparable left right →
        (∃! op, op ∈ [BinaryOp.lt, .eq, .gt] ∧ Holds op left right) ∧
        Opposed .gt .le left right ∧ Opposed .lt .ge left right ∧
        binary .gt right left = binary .lt left right ∧
        binary .ge right left = binary .le left right)) ∧
    (TotallyOrdered .int ∧
      ∀ a b : Int64, Holds .lt (.int a) (.int b) ↔ a.toInt < b.toInt) ∧
    (TotallyOrdered .str ∧
      ∀ a b : String, Holds .lt (.str a) (.str b) ↔ List.Lex (· < ·) a.toList b.toList) := by
  refine ⟨fun left right => ⟨?_, ⟨_, rfl, rfl⟩, ?_, fun comparable => ?_⟩,
    ⟨totallyOrdered_int, fun _ _ => holds_lt_int⟩, totallyOrdered_str, fun _ _ => holds_lt_str⟩
  · cases ordered : order? left right with
    | none => exact .inr (binary_of_unordered ordered)
    | some order => exact .inl (comparable_iff.mpr ⟨order, ordered⟩)
  · rw [binary, binary, equals_comm]
  · obtain ⟨order, ordered⟩ := comparable_iff.mp comparable
    refine ⟨trichotomy ordered, ?_, ?_, ?_, ?_⟩
    · exact opposed_of_not .gt .le ordered (by cases order <;> rfl)
    · exact opposed_of_not .lt .ge ordered (by cases order <;> rfl)
    · exact mirrored .lt .gt ordered (by cases order <;> rfl)
    · exact mirrored .le .ge ordered (by cases order <;> rfl)

theorem comparisons_consistent_mixed :
    Comparable (.int 3) (.float 2.5) ∧
      (∃! op, op ∈ [BinaryOp.lt, .eq, .gt] ∧ Holds op (.int 3) (.float 2.5)) ∧
      Opposed .gt .le (.int 3) (.float 2.5) ∧
      binary .ge (.float 2.5) (.int 3) = binary .le (.int 3) (.float 2.5) := by
  have ordered : order? (.int 3) (.float 2.5) = some .gt := by decide
  have comparable : Comparable (.int 3) (.float 2.5) := comparable_iff.mpr ⟨_, ordered⟩
  obtain ⟨one, greater, -, -, mirror⟩ :=
    (comparisons_consistent.1 (.int 3) (.float 2.5)).2.2.2 comparable
  exact ⟨comparable, one, greater, mirror⟩

end HotPath.Value

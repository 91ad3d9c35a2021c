import HotPath.Lang.Operator
import Mathlib.Algebra.GroupWithZero.Nat
import Mathlib.Algebra.Ring.Int.Defs

/-!
Integer arithmetic is exact. An operator on two integers gives its mathematical result if 64 bits
can hold it, and otherwise the fault that says why there is none. So a quotient and its remainder
always make up the dividend again.
-/

namespace HotPath.Value

def InRange (n : Int) : Prop := -2 ^ 63 ≤ n ∧ n < 2 ^ 63

instance (n : Int) : Decidable (InRange n) := inferInstanceAs (Decidable (_ ∧ _))

theorem inRange_toInt (n : Int64) : InRange n.toInt := ⟨n.le_toInt, n.toInt_lt⟩

theorem bmod_of_inRange {n : Int} (fits : InRange n) : n.bmod (2 ^ 64) = n :=
  Int.bmod_eq_of_le fits.1 fits.2

section

variable {a b : Int64}

/-- The least integer by -1 is the one quotient that does not fit. -/
theorem inRange_tdiv_iff :
    InRange (a.toInt.tdiv b.toInt) ↔ ¬ (a = Int64.minValue ∧ b = -1) := by
  constructor
  · rintro fits ⟨rfl, rfl⟩
    exact absurd fits.2 (by decide)
  · intro regular
    have exact : (a / b).toInt = a.toInt.tdiv b.toInt := by
      by_cases least : a = Int64.minValue
      · exact Int64.toInt_div_of_ne_right a b fun minusOne => regular ⟨least, minusOne⟩
      · exact Int64.toInt_div_of_ne_left a b least
    exact exact ▸ inRange_toInt (a / b)

theorem inRange_tmod (a b : Int64) : InRange (a.toInt.tmod b.toInt) :=
  Int64.toInt_mod a b ▸ inRange_toInt (a % b)

/-- A remainder lies between zero and the dividend, so what it leaves of the dividend does too. -/
theorem inRange_sub_tmod (a b : Int64) : InRange (a.toInt - a.toInt.tmod b.toInt) := by
  have size : (a.toInt.tmod b.toInt).natAbs ≤ a.toInt.natAbs := by
    rw [Int.natAbs_tmod]
    exact Nat.mod_le _ _
  obtain ⟨low, high⟩ := inRange_toInt a
  rcases Int.le_total 0 a.toInt with positive | negative
  · have sign := Int.tmod_nonneg b.toInt positive
    exact ⟨by omega, by omega⟩
  · have sign := Int.tmod_nonneg b.toInt (Int.neg_nonneg_of_nonpos negative)
    rw [Int.neg_tmod] at sign
    exact ⟨by omega, by omega⟩

theorem sdivOverflow_iff :
    a.toBitVec.sdivOverflow b.toBitVec = true ↔ a = Int64.minValue ∧ b = -1 := by
  have least : Int64.minValue.toBitVec = BitVec.intMin 64 := rfl
  have minusOne : (-1 : Int64).toBitVec = BitVec.allOnes 64 := rfl
  simp only [BitVec.sdivOverflow_eq, ← least, ← minusOne, Int64.toBitVec_inj, Bool.and_eq_true,
    decide_eq_true_eq]
  constructor
  · rintro ⟨⟨-, first⟩, second⟩
    exact ⟨first, second⟩
  · rintro ⟨first, second⟩
    exact ⟨⟨by decide, first⟩, second⟩

end

namespace Arithmetic

variable {op : Arithmetic} {a b : Int64}

def Divides (op : Arithmetic) : Prop := op = .div ∨ op = .rem

instance (op : Arithmetic) : Decidable op.Divides := inferInstanceAs (Decidable (_ ∨ _))

/-- The mathematical result of an operator. A quotient is truncated toward zero, so a remainder has
the sign of the dividend. -/
def exact (op : Arithmetic) (a b : Int) : Int :=
  match op with
  | .add => a + b
  | .sub => a - b
  | .mul => a * b
  | .div => a.tdiv b
  | .rem => a.tmod b

/-- The exact result does not fit, or it is the remainder that belongs to the one quotient that
does not. -/
def Exceeds (op : Arithmetic) (a b : Int64) : Prop :=
  ¬ InRange (op.exact a.toInt b.toInt) ∨ op = .rem ∧ a = Int64.minValue ∧ b = -1

instance (op : Arithmetic) (a b : Int64) : Decidable (op.Exceeds a b) :=
  inferInstanceAs (Decidable (_ ∨ _))

theorem overflows_iff : op.overflows a b = true ↔ op.Exceeds a b := by
  cases op with
  | add => simp [overflows, Exceeds, exact, InRange, BitVec.saddOverflow]; omega
  | sub => simp [overflows, Exceeds, exact, InRange, BitVec.ssubOverflow]; omega
  | mul => simp [overflows, Exceeds, exact, InRange, BitVec.smulOverflow]; omega
  | div => simp [overflows, Exceeds, exact, sdivOverflow_iff, inRange_tdiv_iff]
  | rem => simp [overflows, Exceeds, exact, sdivOverflow_iff, inRange_tmod]

theorem toInt_wrapped (fits : InRange (op.exact a.toInt b.toInt)) :
    (op.wrapped a b).toInt = op.exact a.toInt b.toInt := by
  cases op with
  | add => exact (Int64.toInt_add a b).trans (bmod_of_inRange fits)
  | sub => exact (Int64.toInt_sub a b).trans (bmod_of_inRange fits)
  | mul => exact (Int64.toInt_mul a b).trans (bmod_of_inRange fits)
  | div => exact (Int64.toInt_div a b).trans (bmod_of_inRange fits)
  | rem => exact Int64.toInt_mod a b

/-- How an operator on two integers ends: without a divisor, outside the 64 bits, or with the exact
result. -/
inductive Gives (op : Arithmetic) (a b : Int64) : Except Fault Value → Prop where
  | divisionByZero (zero : op.Divides ∧ b = 0) : Gives op a b (.error .divisionByZero)
  | overflow (divisible : ¬ (op.Divides ∧ b = 0)) (exceeds : op.Exceeds a b) :
      Gives op a b (.error (.overflow op.op.symbol))
  | exact (n : Int64) (divisible : ¬ (op.Divides ∧ b = 0)) (fits : ¬ op.Exceeds a b)
      (value : n.toInt = op.exact a.toInt b.toInt) : Gives op a b (.ok (.int n))

theorem Gives.unique {result other : Except Fault Value} (gives : op.Gives a b result)
    (also : op.Gives a b other) : result = other := by
  cases gives with
  | divisionByZero zero =>
    cases also with
    | divisionByZero => rfl
    | overflow divisible => exact absurd zero divisible
    | exact _ divisible => exact absurd zero divisible
  | overflow divisible exceeds =>
    cases also with
    | divisionByZero zero => exact absurd zero divisible
    | overflow => rfl
    | exact _ _ fits => exact absurd exceeds fits
  | exact n divisible fits value =>
    cases also with
    | divisionByZero zero => exact absurd zero divisible
    | overflow _ exceeds => exact absurd exceeds fits
    | exact other _ _ same => rw [Int64.toInt_inj.mp (value.trans same.symm)]

theorem onInts_gives (op : Arithmetic) (a b : Int64) : op.Gives a b (op.onInts a b) := by
  unfold onInts
  split
  · exact .divisionByZero ‹_›
  · rename_i divisible
    split
    · exact .overflow divisible (overflows_iff.mp ‹_›)
    · rename_i notOver
      have fits : ¬ op.Exceeds a b := mt overflows_iff.mpr notOver
      exact .exact _ divisible fits
        (toInt_wrapped (Decidable.not_not.mp fun outside => fits (.inl outside)))

theorem binary_op (op : Arithmetic) (left right : Value) :
    binary op.op left right = arithmetic op left right := by
  cases op <;> rfl

theorem binary_eq_iff (op : Arithmetic) {result : Except Fault Value} :
    binary op.op (.int a) (.int b) = result ↔ op.Gives a b result := by
  rw [binary_op]
  exact ⟨fun same => same ▸ onInts_gives op a b, (onInts_gives op a b).unique⟩

/-- An integer that is the exact result is the result, unless the operator divides. -/
theorem binary_of_exact (op : Arithmetic) (plain : ¬ op.Divides) {n : Int64}
    (value : n.toInt = op.exact a.toInt b.toInt) :
    binary op.op (.int a) (.int b) = .ok (.int n) := by
  refine (binary_eq_iff op).mpr (.exact n (fun divisible => plain divisible.1) ?_ value)
  rintro (outside | ⟨rem, -⟩)
  · exact outside (value ▸ inRange_toInt n)
  · exact plain (.inr rem)

end Arithmetic

/-- `(left / right) * right + left % right`, by the operators of the language. -/
def recombined (left right : Value) : Except Fault Value := do
  let quotient ← binary .div left right
  let product ← binary .mul quotient right
  let remainder ← binary .rem left right
  binary .add product remainder

variable {a b : Int64}

/-- Where there is a quotient there is a remainder, which is smaller than the divisor. -/
theorem remainder_of_quotient {quotient : Value}
    (divided : binary .div (.int a) (.int b) = .ok quotient) :
    ∃ remainder : Int64, binary .rem (.int a) (.int b) = .ok (.int remainder) ∧
      remainder.toInt = a.toInt.tmod b.toInt ∧ remainder.toInt.natAbs < b.toInt.natAbs := by
  cases (Arithmetic.binary_eq_iff .div).mp divided with
  | exact n divisible fits value =>
    have notZero : b ≠ 0 := fun zero => divisible ⟨.inl rfl, zero⟩
    have regular : ¬ (a = Int64.minValue ∧ b = -1) :=
      inRange_tdiv_iff.mp (Decidable.not_not.mp fun outside => fits (.inl outside))
    have value := Int64.toInt_mod a b
    refine ⟨a % b, (Arithmetic.binary_eq_iff .rem).mpr (.exact _ ?_ ?_ value), value, ?_⟩
    · exact fun zero => notZero zero.2
    · rintro (outside | ⟨-, least⟩)
      · exact outside (inRange_tmod a b)
      · exact regular least
    · rw [value, Int.natAbs_tmod]
      exact Nat.mod_lt _ (Int.natAbs_pos.mpr fun zero => notZero (Int64.toInt_inj.mp zero))

/-- Multiplying a quotient by its divisor gives what the remainder leaves of the dividend. -/
theorem product_of_quotient {quotient : Value}
    (divided : binary .div (.int a) (.int b) = .ok quotient) :
    ∃ product : Int64, binary .mul quotient (.int b) = .ok (.int product) ∧
      product.toInt = a.toInt - a.toInt.tmod b.toInt := by
  cases (Arithmetic.binary_eq_iff .div).mp divided with
  | exact n divisible fits value =>
    have whole : n.toInt * b.toInt = a.toInt - a.toInt.tmod b.toInt := by
      have parts := Int.tdiv_mul_add_tmod a.toInt b.toInt
      rw [value, Arithmetic.exact]
      omega
    have small : InRange (n.toInt * b.toInt) := whole ▸ inRange_sub_tmod a b
    have exact : (n * b).toInt = n.toInt * b.toInt :=
      (Int64.toInt_mul n b).trans (bmod_of_inRange small)
    exact ⟨n * b, Arithmetic.binary_of_exact .mul (by decide) exact, exact.trans whole⟩

theorem recombined_of_quotient {quotient : Value}
    (divided : binary .div (.int a) (.int b) = .ok quotient) :
    recombined (.int a) (.int b) = .ok (.int a) := by
  obtain ⟨remainder, rest, remains, -⟩ := remainder_of_quotient divided
  obtain ⟨product, multiplied, whole⟩ := product_of_quotient divided
  have exact : a.toInt = Arithmetic.add.exact product.toInt remainder.toInt := by
    rw [Arithmetic.exact, whole, remains]
    omega
  have added := Arithmetic.binary_of_exact .add (by decide) exact
  rw [Arithmetic.op] at added
  simp [recombined, divided, multiplied, rest, added, bind, Except.bind]

theorem unary_neg_int (a : Int64) : unary .neg (.int a) = binary .sub (.int 0) (.int a) := by
  by_cases least : a = Int64.minValue
  · subst least
    rfl
  · have notLeast : a.toInt ≠ -2 ^ 63 := fun same => least (Int64.toInt_inj.mp same)
    obtain ⟨low, high⟩ := inRange_toInt a
    have small : InRange (0 - a.toInt) := ⟨by omega, by omega⟩
    have exact : (-a).toInt = 0 - a.toInt := by
      rw [Int64.toInt_neg, ← Int.zero_sub, bmod_of_inRange small]
    have negated : unary .neg (.int a) = .ok (.int (-a)) := if_neg least
    exact negated.trans (Arithmetic.binary_of_exact .sub (by decide) exact).symm

/-- Integer operators give the exact result or fail for the right reason, quotient and remainder
recombine, and negation is subtraction from zero. -/
theorem integers_exact :
    (∀ (op : Arithmetic) (a b : Int64),
      (binary op.op (.int a) (.int b) = .error .divisionByZero ↔ op.Divides ∧ b = 0) ∧
      (binary op.op (.int a) (.int b) = .error (.overflow op.op.symbol) ↔
        ¬ (op.Divides ∧ b = 0) ∧ op.Exceeds a b) ∧
      ((∃ n : Int64, binary op.op (.int a) (.int b) = .ok (.int n) ∧
          n.toInt = op.exact a.toInt b.toInt) ↔
        ¬ (op.Divides ∧ b = 0) ∧ ¬ op.Exceeds a b)) ∧
    (∀ (a b : Int64) (quotient : Value), binary .div (.int a) (.int b) = .ok quotient →
      recombined (.int a) (.int b) = .ok (.int a) ∧
      ∃ remainder : Int64, binary .rem (.int a) (.int b) = .ok (.int remainder) ∧
        remainder.toInt.natAbs < b.toInt.natAbs) ∧
    ∀ a : Int64, unary .neg (.int a) = binary .sub (.int 0) (.int a) := by
  refine ⟨fun op a b => ⟨?_, ?_, ?_⟩, fun a b quotient divided => ⟨?_, ?_⟩, unary_neg_int⟩
  · rw [Arithmetic.binary_eq_iff]
    exact ⟨fun | .divisionByZero zero => zero, .divisionByZero⟩
  · rw [Arithmetic.binary_eq_iff]
    exact ⟨fun | .overflow divisible exceeds => ⟨divisible, exceeds⟩,
      fun ⟨divisible, exceeds⟩ => .overflow divisible exceeds⟩
  · simp only [Arithmetic.binary_eq_iff]
    constructor
    · rintro ⟨n, gives, -⟩
      cases gives with
      | exact _ divisible fits => exact ⟨divisible, fits⟩
    · rintro ⟨divisible, fits⟩
      have ended := Arithmetic.onInts_gives op a b
      generalize op.onInts a b = result at ended
      cases ended with
      | divisionByZero zero => exact absurd zero divisible
      | overflow _ exceeds => exact absurd exceeds fits
      | exact n _ _ value => exact ⟨n, .exact n divisible fits value, value⟩
  · exact recombined_of_quotient divided
  · obtain ⟨remainder, remains, -, small⟩ := remainder_of_quotient divided
    exact ⟨remainder, remains, small⟩

theorem integers_exact_least :
    binary .div (.int Int64.minValue) (.int (-10)) = .ok (.int 922337203685477580) ∧
      recombined (.int Int64.minValue) (.int (-10)) = .ok (.int Int64.minValue) ∧
      binary .rem (.int Int64.minValue) (.int (-10)) = .ok (.int (-8)) ∧
      binary .rem (.int Int64.minValue) (.int (-1)) = .error (.overflow "%") := by
  have divided : binary .div (.int Int64.minValue) (.int (-10)) =
      .ok (.int 922337203685477580) := rfl
  obtain ⟨ends, quotients, -⟩ := integers_exact
  exact ⟨divided, (quotients _ _ _ divided).1, rfl, (ends .rem _ _).2.1.mpr (by decide)⟩

end HotPath.Value

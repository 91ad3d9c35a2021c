import HotPath.Toml.Document
import Mathlib.Algebra.Group.Int.Defs
import Mathlib.Algebra.Group.Nat.Defs

/-!
Lines of the form `key = value` as the reader of documents takes them: a bare key, and a value that
reads up to the end of its line. Decimal numerals are such values.
-/

namespace HotPath.Toml

/-- The end of a line, by a line feed or by the end of the text, and what follows it. -/
inductive Ends : List Char → List Char → Prop where
  | text : Ends [] []
  | line (rest : List Char) : Ends ('\n' :: rest) rest

theorem Ends.lineEnd? {rest next : List Char} (ends : Ends rest next) :
    lineEnd? rest = some next := by
  cases ends <;> rfl

/-- A text that reads as a value, whatever line end follows it. -/
structure Reads (text : List Char) (item : Item) : Prop where
  solid : ∃ first others, text = first :: others ∧ isSpace first = false
  reads : ∀ {rest next : List Char}, Ends rest next → value (text ++ rest) = some (item, rest)

theorem isSpace_eq_false {c : Char} (notBlank : c ≠ ' ') (notTab : c ≠ '\t') :
    isSpace c = false := by
  simp [isSpace, notBlank, notTab]

theorem skipSpace_solid {c : Char} (solid : isSpace c = false) (rest : List Char) :
    skipSpace (c :: rest) = c :: rest :=
  List.dropWhile_cons_of_neg (Bool.eq_false_iff.mp solid)

/-! ## Decimal numerals -/

def Digits (text : List Char) : Prop := ∀ c ∈ text, c.isDigit = true

theorem hexValue?_digit {c : Char} (digit : c.isDigit = true) :
    hexValue? c = some (c.toNat - '0'.toNat) := by
  obtain ⟨low, high⟩ := Char.isDigit_iff_toNat.mp digit
  exact if_pos ⟨low, high⟩

theorem numeral_digits {digits : List Char} (all : Digits digits) (sum : Nat) :
    digits.foldl (fun n c => 10 * n + (hexValue? c).getD 0) sum =
      Nat.ofDigitChars 10 digits sum := by
  induction digits generalizing sum with
  | nil => rfl
  | cons c rest inductionHypothesis =>
    obtain ⟨first, later⟩ := List.forall_mem_cons.mp all
    rw [List.foldl_cons, inductionHypothesis later, Nat.ofDigitChars_cons, hexValue?_digit first,
      Option.getD_some]

theorem digits_toDigits (n : Nat) : Digits (Nat.toDigits 10 n) :=
  fun _ member => Nat.isDigit_of_mem_toDigits (by decide) (by decide) member

theorem numeral_toDigits (n : Nat) : numeral 10 (Nat.toDigits 10 n) = n := by
  rw [numeral, numeral_digits (digits_toDigits n), Nat.ofDigitChars_ten_toDigits]

/-- A numeral starts with a zero only if it is one. -/
theorem head?_toDigits {n : Nat} (positive : 0 < n) : (Nat.toDigits 10 n).head? ≠ some '0' := by
  induction n using Nat.strongRecOn with
  | _ n inductionHypothesis =>
    rw [Nat.toDigits_eq_if (by decide)]
    split
    · intro zero
      rw [List.head?_cons, Option.some_inj, Nat.digitChar_eq_zero] at zero
      exact Nat.ne_of_gt positive zero
    · rename_i large
      have notZero := inductionHypothesis (n / 10) (by omega) (by omega)
      cases digits : Nat.toDigits 10 (n / 10) with
      | nil => exact absurd digits Nat.toDigits_ne_nil
      | cons c others =>
        rw [digits] at notZero
        exact notZero

theorem toDigits_cons (n : Nat) : ∃ first others, Nat.toDigits 10 n = first :: others ∧
    first.isDigit = true ∧ Digits others ∧ (0 < n → first ≠ '0') := by
  have all := digits_toDigits n
  have notZero : 0 < n → (Nat.toDigits 10 n).head? ≠ some '0' := head?_toDigits
  cases digits : Nat.toDigits 10 n with
  | nil => exact absurd digits Nat.toDigits_ne_nil
  | cons first others =>
    rw [digits] at all notZero
    obtain ⟨digit, later⟩ := List.forall_mem_cons.mp all
    exact ⟨first, others, rfl, digit, later, fun positive same => notZero positive (same ▸ rfl)⟩

/-- A digit is none of the characters by which other values start. -/
theorem digit_ne {c : Char} (digit : c.isDigit = true) :
    (c ≠ 't' ∧ c ≠ 'f' ∧ c ≠ 'i' ∧ c ≠ 'n') ∧ (c ≠ '\"' ∧ c ≠ '\'' ∧ c ≠ '[' ∧ c ≠ '\x7b') ∧
      (c ≠ '+' ∧ c ≠ '-' ∧ c ≠ ':' ∧ c ≠ '_') ∧ isSpace c = false := by
  refine ⟨⟨?_, ?_, ?_, ?_⟩, ⟨?_, ?_, ?_, ?_⟩, ⟨?_, ?_, ?_, ?_⟩, isSpace_eq_false ?_ ?_⟩
  all_goals
    rintro rfl
    exact absurd digit (by decide)

variable {digits rest next : List Char}

theorem moreDigits_digits (all : Digits digits) (ends : Ends rest next) :
    moreDigits Char.isDigit (digits ++ rest) = some (digits, rest) := by
  induction digits with
  | nil => cases ends <;> rfl
  | cons c others inductionHypothesis =>
    obtain ⟨first, later⟩ := List.forall_mem_cons.mp all
    obtain ⟨-, -, ⟨-, -, -, notUnderscore⟩, -⟩ := digit_ne first
    rw [List.cons_append, moreDigits, if_pos first, inductionHypothesis later]
    · rfl
    · rintro _ _ rfl
      exact absurd rfl notUnderscore

theorem wholeDigits_toDigits (n : Nat) (ends : Ends rest next) :
    wholeDigits (Nat.toDigits 10 n ++ rest) = some (Nat.toDigits 10 n, rest) := by
  rcases Nat.eq_zero_or_pos n with rfl | positive
  · rw [Nat.toDigits_zero]
    rfl
  · obtain ⟨first, others, digits, digit, later, notZero⟩ := toDigits_cons n
    rw [digits, List.cons_append, wholeDigits]
    · rw [digitRun, if_pos digit, moreDigits_digits later ends]
      rfl
    · rintro _ same
      exact notZero positive (List.cons.inj same).1

/-- A decimal integer of 64 bits, up to the end of its line. -/
theorem decimal_toDigits {n : Nat} (small : n < 2 ^ 63) (ends : Ends rest next) :
    decimal false (Nat.toDigits 10 n ++ rest) = some (.integer n, rest) := by
  have range : integer? n = some (.integer n) := by
    apply if_pos
    have low : Int64.minValue.toInt ≤ 0 := by decide
    have high : Int64.maxValue.toInt = 2 ^ 63 - 1 := by decide
    omega
  rw [decimal, wholeDigits_toDigits n ends]
  cases ends <;> simp [fraction?, exponent?, numeral_toDigits, range]

/-- A numeral shows no sign, no base and no name. -/
theorem number_toDigits {n : Nat} (small : n < 2 ^ 63) (ends : Ends rest next) :
    number (Nat.toDigits 10 n ++ rest) = some (.integer n, rest) := by
  rw [← decimal_toDigits small ends]
  rcases Nat.eq_zero_or_pos n with rfl | positive
  · rw [Nat.toDigits_zero]
    cases ends <;> rfl
  · obtain ⟨first, others, digits, digit, -, notZero⟩ := toDigits_cons n
    obtain ⟨⟨-, -, notInf, notNan⟩, -, ⟨notPlus, notMinus, -, -⟩, -⟩ := digit_ne digit
    rw [digits, List.cons_append, number, signedNumber]
    all_goals
      rintro _ same
      have start := (List.cons.inj same).1
    · exact notInf start
    · exact notNan start
    · exact notPlus start
    · exact notMinus start
    all_goals exact notZero positive start

/-! ## No dates or times -/

theorem literally_digits {mark : Char} (noDigit : mark.isDigit = false) (noEnd : mark ≠ '\n')
    (all : Digits digits) (ends : Ends rest next) : literally mark (digits ++ rest) = none := by
  cases digits with
  | nil =>
    cases ends with
    | text => rfl
    | line => exact if_neg noEnd
  | cons c others =>
    apply if_neg
    rintro rfl
    exact absurd (all _ List.mem_cons_self) (Bool.eq_false_iff.mp noDigit)

/-- Digits taken off the front of digits leave digits. -/
theorem fixedDigits_digits (all : Digits digits) (ends : Ends rest next) {count sum value : Nat}
    {left : List Char} (read : fixedDigits count sum (digits ++ rest) = some (value, left)) :
    ∃ others, Digits others ∧ left = others ++ rest := by
  induction count generalizing digits sum with
  | zero =>
    cases read
    exact ⟨digits, all, rfl⟩
  | succ count inductionHypothesis =>
    cases digits with
    | nil => cases ends <;> cases read
    | cons c others =>
      obtain ⟨first, later⟩ := List.forall_mem_cons.mp all
      rw [List.cons_append, fixedDigits, if_pos first] at read
      exact inductionHypothesis later read

theorem date_digits (all : Digits digits) (ends : Ends rest next) :
    date (digits ++ rest) = none := by
  unfold date
  cases year : fixedDigits 4 0 (digits ++ rest) with
  | none => rfl
  | some read =>
    obtain ⟨others, left, same⟩ := fixedDigits_digits all ends year
    have noDash : literally '-' (others ++ rest) = none :=
      literally_digits rfl (by decide) left ends
    simp [same, noDash]

theorem time_digits (all : Digits digits) (ends : Ends rest next) :
    time (digits ++ rest) = none := by
  unfold time hourMinute
  cases hour : inRange 0 23 (fixedDigits 2 0 (digits ++ rest)) with
  | none => rfl
  | some read =>
    obtain ⟨others, left, same⟩ := fixedDigits_digits all ends (Option.filter_eq_some_iff.mp hour).1
    have noColon : literally ':' (others ++ rest) = none :=
      literally_digits rfl (by decide) left ends
    simp [same, noColon]

theorem moment_digits (all : Digits digits) (ends : Ends rest next) :
    moment (digits ++ rest) = none := by
  rw [moment, date_digits all ends, time_digits all ends]
  rfl

/-! ## Values -/

theorem reads_toDigits {n : Nat} (small : n < 2 ^ 63) :
    Reads (Nat.toDigits 10 n) (.integer n) := by
  obtain ⟨first, others, digits, digit, -, -⟩ := toDigits_cons n
  obtain ⟨⟨notTrue, notFalse, -, -⟩, ⟨notQuote, notTick, notArray, notTable⟩, -, solid⟩ :=
    digit_ne digit
  refine ⟨⟨first, others, digits, solid⟩, fun {rest next} ends => ?_⟩
  have moment := moment_digits (digits_toDigits n) ends
  have number := number_toDigits small ends
  rw [digits, List.cons_append] at moment number ⊢
  have noString : string (first :: (others ++ rest)) = none := by
    rw [string, lineString]
    all_goals
      rintro _ same
      have start := (List.cons.inj same).1
    · exact notQuote start
    · exact notTick start
    · exact notQuote start
    · exact notTick start
  rw [value, show nestingLimit - 1 = 78 + 1 from rfl, valueWithin, scalarValue, noString]
  · simp [moment, number]
  all_goals
    rintro _ same
    have start := (List.cons.inj same).1
  · exact notTrue start
  · exact notFalse start
  · exact notArray start
  · exact notTable start

/-! ## Lines -/

/-- A key that needs no quotes. -/
def Bare (name : String) : Prop :=
  name.toList ≠ [] ∧ ∀ c ∈ name.toList, isBareKeyChar c = true

instance (name : String) : Decidable (Bare name) :=
  decidable_of_iff (name.toList.isEmpty = false ∧ name.toList.all isBareKeyChar = true)
    (by rw [List.isEmpty_eq_false_iff, List.all_eq_true, Bare])

/-- A character of a bare key starts no blank, comment, header or line end. -/
theorem bare_ne {c : Char} (bare : isBareKeyChar c = true) :
    (c ≠ '#' ∧ c ≠ '[' ∧ c ≠ '\n' ∧ c ≠ '\r') ∧ isSpace c = false := by
  refine ⟨⟨?_, ?_, ?_, ?_⟩, isSpace_eq_false ?_ ?_⟩
  all_goals
    rintro rfl
    exact absurd bare (by decide)

theorem lineEnd?_bare {c : Char} (bare : isBareKeyChar c = true) (rest : List Char) :
    lineEnd? (c :: rest) = none := by
  obtain ⟨⟨notComment, -, notFeed, notReturn⟩, solid⟩ := bare_ne bare
  have uncommented : skipComment (c :: rest) = c :: rest := by
    rw [skipComment]
    rintro _ same
    exact notComment (List.cons.inj same).1
  rw [lineEnd?, skipSpace_solid solid, uncommented]
  refine (if_neg Bool.false_ne_true).trans ?_
  rw [newline?]
  all_goals
    rintro _ same
    have start := (List.cons.inj same).1
  · exact notFeed start
  · exact notReturn start

variable {name : String} {text : List Char} {item : Item}

theorem Bare.cons (bare : Bare name) :
    ∃ first others, name.toList = first :: others ∧ isBareKeyChar first = true := by
  obtain ⟨nonempty, all⟩ := bare
  cases chars : name.toList with
  | nil => exact absurd chars nonempty
  | cons first others => exact ⟨first, others, rfl, all first (chars ▸ List.mem_cons_self)⟩

theorem keyPart_bare (bare : Bare name) (rest : List Char) :
    keyPart (name.toList ++ ' ' :: rest) = some (name, ' ' :: rest) := by
  obtain ⟨first, others, chars, -⟩ := bare.cons
  have taken : (name.toList ++ ' ' :: rest).takeWhile isBareKeyChar = name.toList := by
    rw [List.takeWhile_append_of_pos bare.2]
    exact List.append_nil _
  have left : (name.toList ++ ' ' :: rest).dropWhile isBareKeyChar = ' ' :: rest :=
    List.dropWhile_append_of_pos bare.2
  have same : String.ofList (first :: others) = name := by rw [← chars, String.ofList_toList]
  rw [keyPart, taken, left, chars]
  simp only [same]

theorem key_bare (bare : Bare name) (rest : List Char) :
    key (name.toList ++ ' ' :: '=' :: rest) = some ([name], '=' :: rest) := by
  obtain ⟨first, others, chars, start⟩ := bare.cons
  have solid : skipSpace (name.toList ++ ' ' :: '=' :: rest) =
      name.toList ++ ' ' :: '=' :: rest := by
    rw [chars]
    exact skipSpace_solid (bare_ne start).2 _
  rw [key, show nestingLimit - 1 = 78 + 1 from rfl, keyParts, solid, keyPart_bare bare]
  rfl

/-- A line that gives a bare key a value is a statement up to its end. -/
theorem statement_line (bare : Bare name) (reads : Reads text item) {rest next : List Char}
    (ends : Ends rest next) :
    statement (name.toList ++ ' ' :: '=' :: ' ' :: (text ++ rest)) =
      some (.assign [name] item, rest) := by
  obtain ⟨first, others, chars, start⟩ := bare.cons
  have named := key_bare bare (' ' :: (text ++ rest))
  have valued : value (skipSpace (' ' :: (text ++ rest))) = some (item, rest) := by
    obtain ⟨_, _, same, solid⟩ := reads.solid
    rw [← reads.reads ends, skipSpace, List.dropWhile_cons_of_pos rfl, ← skipSpace, same]
    exact congrArg value (skipSpace_solid solid _)
  rw [chars, List.cons_append] at named ⊢
  rw [statement]
  · simp [keyValue, named, valued]
  all_goals
    rintro _ same
    exact (bare_ne start).1.2.1 (List.cons.inj same).1

/-- Such a line is read first, and the others after it. -/
theorem statementsWithin_line (bare : Bare name) (reads : Reads text item)
    {rest next : List Char} (ends : Ends rest next) (fuel : Nat) :
    statementsWithin (fuel + 1) (name.toList ++ ' ' :: '=' :: ' ' :: (text ++ rest)) =
      (statementsWithin fuel next).map (.assign [name] item :: ·) := by
  obtain ⟨first, others, chars, start⟩ := bare.cons
  have read := statement_line bare reads ends
  rw [chars, List.cons_append] at read ⊢
  rw [statementsWithin]
  simp only [skipSpace_solid (bare_ne start).2, lineEnd?_bare start, read]
  simp only [List.isEmpty_cons, Bool.false_eq_true, ↓reduceIte, Option.pure_def,
    Option.bind_eq_bind, Option.bind_some, ends.lineEnd?, Option.map_eq_bind]
  rfl

end HotPath.Toml

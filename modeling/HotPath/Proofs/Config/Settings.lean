import HotPath.Config.Overrides
import HotPath.Proofs.Text.Blank
import HotPath.Proofs.Toml.Line
import Mathlib.Data.List.Forall2

/-!
What the values of the variables say. Each variable has a grammar of its own for what stands
between the blanks around its value, and its reader takes exactly the texts of that grammar.
-/

namespace HotPath

open Text (Blanks Solid Trims)

/-- Decimal digits, one at least, after an optional plus sign, and the number they stand for. -/
inductive Decimal : List Char → Nat → Prop where
  | plain {digits : List Char} (filled : digits ≠ []) (all : Toml.Digits digits) :
      Decimal digits (Nat.ofDigitChars 10 digits 0)
  | signed {digits : List Char} (filled : digits ≠ []) (all : Toml.Digits digits) :
      Decimal ('+' :: digits) (Nat.ofDigitChars 10 digits 0)

/-- Some small letters, each of them written as it is or as a capital. -/
def InAnyCase (text letters : List Char) : Prop :=
  List.Forall₂ (fun c small => c = small ∨ c = small.toUpper) text letters

namespace Variable

abbrev Setting : Variable → Type
  | .threshold => UInt32
  | .tiering => Bool
  | .scheduler => SchedulerKind
  | .threads => UInt64

/-- The ways to write what a variable sets. -/
def Writes : (var : Variable) → String → var.Setting → Prop
  | .threshold, text, n => Decimal text.toList n.toNat
  | .tiering, text, true => text ∈ ["1", "true", "on"]
  | .tiering, text, false => text ∈ ["0", "false", "off"]
  | .scheduler, text, kind => InAnyCase text.toList kind.name.toList
  | .threads, text, n => Decimal text.toList n.toNat

/-- A value says what a variable is to set: that is written between the blanks around it. -/
def Means (var : Variable) (value : String) (setting : var.Setting) : Prop :=
  ∃ core : String, Trims value.toList core.toList ∧ var.Writes core setting

def WellFormed (var : Variable) (value : String) : Prop := ∃ setting, var.Means value setting

def read? : (var : Variable) → String → Option var.Setting
  | .threshold => Config.readThreshold?
  | .tiering => Config.readTiering?
  | .scheduler => Config.readScheduler?
  | .threads => Config.readThreads?

end Variable

/-! ## Numbers -/

/-- Digits alone, read as a number below a bound. -/
def digitsBelow? (bound : Nat) (digits : List Char) : Option Nat :=
  if digits.isEmpty || !digits.all Char.isDigit then none
  else if Nat.ofDigitChars 10 digits 0 < bound then some (Nat.ofDigitChars 10 digits 0)
  else none

theorem digitsBelow?_eq_some_iff {bound n : Nat} {digits : List Char} :
    digitsBelow? bound digits = some n ↔
      digits ≠ [] ∧ Toml.Digits digits ∧ Nat.ofDigitChars 10 digits 0 = n ∧ n < bound := by
  by_cases numeral : digits ≠ [] ∧ Toml.Digits digits
  · obtain ⟨filled, all⟩ := numeral
    have accepted : ¬ (digits.isEmpty || !digits.all Char.isDigit) = true := by
      simp [filled, List.all_eq_true.mpr all]
    rw [digitsBelow?, if_neg accepted]
    by_cases small : Nat.ofDigitChars 10 digits 0 < bound
    · rw [if_pos small, Option.some_inj]
      exact ⟨fun value => ⟨filled, all, value, value ▸ small⟩, fun ⟨_, _, value, _⟩ => value⟩
    · rw [if_neg small]
      exact ⟨nofun, fun ⟨_, _, value, below⟩ => absurd (value ▸ below) small⟩
  · have refused : (digits.isEmpty || !digits.all Char.isDigit) = true := by
      rw [Bool.or_eq_true, Bool.not_eq_true', ← Bool.not_eq_true, List.isEmpty_iff,
        List.all_eq_true]
      exact Decidable.or_iff_not_imp_left.mpr fun filled all => numeral ⟨filled, all⟩
    rw [digitsBelow?, if_pos refused]
    exact ⟨nofun, fun ⟨filled, all, _⟩ => absurd ⟨filled, all⟩ numeral⟩

theorem decimalBelow?_eq_some_iff {bound n : Nat} {text : List Char} :
    Config.decimalBelow? bound text = some n ↔ Decimal text n ∧ n < bound := by
  by_cases sign : ∃ digits, text = '+' :: digits
  · obtain ⟨digits, rfl⟩ := sign
    refine digitsBelow?_eq_some_iff.trans ⟨?_, ?_⟩
    · rintro ⟨filled, all, rfl, small⟩
      exact ⟨.signed filled all, small⟩
    · rintro ⟨decimal, small⟩
      cases decimal with
      | plain _ all => exact absurd (all '+' List.mem_cons_self) (by decide)
      | signed filled all => exact ⟨filled, all, rfl, small⟩
  · have unsigned : Config.decimalBelow? bound text = digitsBelow? bound text := by
      unfold Config.decimalBelow?
      split
      · exact absurd ⟨_, rfl⟩ sign
      · rfl
    rw [unsigned, digitsBelow?_eq_some_iff]
    constructor
    · rintro ⟨filled, all, rfl, small⟩
      exact ⟨.plain filled all, small⟩
    · rintro ⟨decimal, small⟩
      cases decimal with
      | plain filled all => exact ⟨filled, all, rfl, small⟩
      | signed => exact absurd ⟨_, rfl⟩ sign

/-- A type that has exactly the numbers below a bound is read like them. -/
theorem map_decimalBelow?_eq_some_iff {Number : Type} {ofNat : Nat → Number} {toNat : Number → Nat}
    {bound : Nat} (small : ∀ n, toNat n < bound) (kept : ∀ k < bound, toNat (ofNat k) = k)
    (back : ∀ n, ofNat (toNat n) = n) {text : List Char} {n : Number} :
    (Config.decimalBelow? bound text).map ofNat = some n ↔ Decimal text (toNat n) := by
  rw [Option.map_eq_some_iff]
  constructor
  · rintro ⟨number, read, rfl⟩
    obtain ⟨decimal, below⟩ := decimalBelow?_eq_some_iff.mp read
    rwa [kept number below]
  · intro decimal
    exact ⟨toNat n, decimalBelow?_eq_some_iff.mpr ⟨decimal, small n⟩, back n⟩

/-! ## Letters in any case -/

theorem toNat_toLower (c : Char) :
    c.toLower.toNat = if 65 ≤ c.toNat ∧ c.toNat ≤ 90 then c.toNat + 32 else c.toNat := by
  by_cases upper : 65 ≤ c.toNat ∧ c.toNat ≤ 90
  · have moved : c.toLower.toNat = (c.val + 32).toNat := congrArg Char.toNat (dif_pos upper)
    rw [if_pos upper, moved, UInt32.toNat_add]
    exact Nat.mod_eq_of_lt (Nat.lt_of_le_of_lt (Nat.add_le_add_right upper.2 32) (by decide))
  · rw [if_neg upper]
    exact congrArg Char.toNat (dif_neg upper)

theorem toNat_toUpper (c : Char) :
    c.toUpper.toNat = if 97 ≤ c.toNat ∧ c.toNat ≤ 122 then c.toNat - 32 else c.toNat := by
  by_cases lower : 97 ≤ c.toNat ∧ c.toNat ≤ 122
  · have small : 'a'.val ≤ c.val ∧ c.val ≤ 'z'.val := lower
    -- The capital letters come first, so the distance to them wraps.
    have distance : ('A'.val - 'a'.val).toNat = 2 ^ 32 - 32 := rfl
    have moved : c.toUpper.toNat = (c.val + ('A'.val - 'a'.val)).toNat := by
      delta Char.toUpper
      rw [dif_pos small]
      rfl
    rw [if_pos lower, moved, UInt32.toNat_add, distance, Char.toNat_val]
    omega
  · rw [if_neg lower]
    exact congrArg Char.toNat (dif_neg lower)

theorem toLower_eq_iff {c small : Char} (lower : 97 ≤ small.toNat ∧ small.toNat ≤ 122) :
    c.toLower = small ↔ c = small ∨ c = small.toUpper := by
  rw [← Char.toNat_inj, ← Char.toNat_inj, ← Char.toNat_inj, toNat_toLower, toNat_toUpper,
    if_pos lower]
  split <;> omega

theorem map_toLower_eq_iff {text letters : List Char}
    (lower : ∀ c ∈ letters, 97 ≤ c.toNat ∧ c.toNat ≤ 122) :
    text.map Char.toLower = letters ↔ InAnyCase text letters := by
  induction letters generalizing text with
  | nil => cases text <;> simp [InAnyCase]
  | cons small others inductionHypothesis =>
    obtain ⟨first, later⟩ := List.forall_mem_cons.mp lower
    cases text with
    | nil => simp [InAnyCase]
    | cons c rest =>
      rw [List.map_cons, List.cons.injEq, toLower_eq_iff first, inductionHypothesis later]
      exact Iff.symm List.forall₂_cons

/-! ## Readers -/

theorem trim_eq_iff {value core : String} :
    Text.trim value = core ↔ Trims value.toList core.toList := by
  rw [Text.trim, ← Text.trimChars_eq_iff, ← String.toList_inj, String.toList_ofList]

theorem ofName?_eq_some_iff {text : String} {kind : SchedulerKind} :
    SchedulerKind.ofName? text = some kind ↔ text = kind.name := by
  constructor
  · intro found
    have named := List.find?_some found
    exact (beq_iff_eq.mp named).symm
  · rintro rfl
    exact SchedulerKind.ofName?_name kind

theorem readThreshold?_eq_some_iff {value : String} {n : UInt32} :
    Config.readThreshold? value = some n ↔ Decimal (Text.trim value).toList n.toNat := by
  rw [Config.readThreshold?, Text.trim, String.toList_ofList]
  exact map_decimalBelow?_eq_some_iff UInt32.toNat_lt (fun _ => UInt32.toNat_ofNat_of_lt')
    fun _ => UInt32.ofNat_toNat

theorem readThreads?_eq_some_iff {value : String} {n : UInt64} :
    Config.readThreads? value = some n ↔ Decimal (Text.trim value).toList n.toNat := by
  rw [Config.readThreads?, Text.trim, String.toList_ofList]
  exact map_decimalBelow?_eq_some_iff UInt64.toNat_lt (fun _ => UInt64.toNat_ofNat_of_lt')
    fun _ => UInt64.ofNat_toNat

theorem readTiering?_eq_some_iff {value : String} {enabled : Bool} :
    Config.readTiering? value = some enabled ↔
      Variable.tiering.Writes (Text.trim value) enabled := by
  rw [Config.readTiering?]
  generalize Text.trim value = text
  have on : Variable.tiering.Writes text true ↔ text = "1" ∨ text = "true" ∨ text = "on" := by
    simp [Variable.Writes]
  have off : Variable.tiering.Writes text false ↔ text = "0" ∨ text = "false" ∨ text = "off" := by
    simp [Variable.Writes]
  by_cases isOn : text = "1" ∨ text = "true" ∨ text = "on"
  · have notOff : ¬ (text = "0" ∨ text = "false" ∨ text = "off") := by
      rcases isOn with rfl | rfl | rfl <;> decide
    cases enabled <;> simp [on, off, isOn, notOff]
  · by_cases isOff : text = "0" ∨ text = "false" ∨ text = "off"
    · cases enabled <;> simp [on, off, isOn, isOff]
    · cases enabled <;> simp [on, off, isOn, isOff]

theorem readScheduler?_eq_some_iff {value : String} {kind : SchedulerKind} :
    Config.readScheduler? value = some kind ↔
      InAnyCase (Text.trim value).toList kind.name.toList := by
  have letters : (kind.name.toList.all fun c => 97 ≤ c.toNat ∧ c.toNat ≤ 122) = true := by
    cases kind <;> rfl
  have lower : ∀ c ∈ kind.name.toList, 97 ≤ c.toNat ∧ c.toNat ≤ 122 := by
    simpa using letters
  rw [Config.readScheduler?, ofName?_eq_some_iff, ← String.toList_inj, String.toList_ofList,
    map_toLower_eq_iff lower, Text.trim, String.toList_ofList]

namespace Variable

/-- A variable is read by what is written between the blanks of its value. -/
theorem read?_eq_some_iff {var : Variable} {value : String} {setting : var.Setting} :
    var.read? value = some setting ↔ var.Means value setting := by
  have trimmed : var.Means value setting ↔ var.Writes (Text.trim value) setting :=
    ⟨fun ⟨_, trims, writes⟩ => trim_eq_iff.mpr trims ▸ writes,
      fun writes => ⟨_, trim_eq_iff.mp rfl, writes⟩⟩
  rw [trimmed]
  cases var with
  | threshold => exact readThreshold?_eq_some_iff
  | tiering => exact readTiering?_eq_some_iff
  | scheduler => exact readScheduler?_eq_some_iff
  | threads => exact readThreads?_eq_some_iff

/-! ## Writing a setting -/

/-- The plain way to write what a variable sets. -/
def written : (var : Variable) → var.Setting → String
  | .threshold, n => toString n.toNat
  | .tiering, enabled => toString enabled
  | .scheduler, kind => kind.name
  | .threads, n => toString n.toNat

theorem writes_written (var : Variable) (setting : var.Setting) :
    var.Writes (var.written setting) setting := by
  have decimal (n : Nat) : Decimal (toString n).toList n := by
    have plain := Decimal.plain (@Nat.toDigits_ne_nil n 10) (Toml.digits_toDigits n)
    rw [Nat.ofDigitChars_ten_toDigits] at plain
    rwa [Nat.toString_eq_ofList_toDigits, String.toList_ofList]
  cases var with
  | threshold => exact decimal setting.toNat
  | tiering => cases setting <;> exact List.mem_cons_of_mem _ List.mem_cons_self
  | scheduler => exact List.forall₂_same.mpr fun _ _ => .inl rfl
  | threads => exact decimal setting.toNat

theorem solid_written (var : Variable) (setting : var.Setting) :
    Solid (var.written setting).toList := by
  have numeral (n : Nat) : ∀ c ∈ (toString n).toList, Text.isBlank c = false := by
    intro c member
    rw [Nat.toString_eq_ofList_toDigits, String.toList_ofList] at member
    obtain ⟨low, high⟩ := Char.isDigit_iff_toNat.mp (Toml.digits_toDigits n c member)
    change 48 ≤ c.toNat at low
    change c.toNat ≤ 57 at high
    simp [Text.isBlank]
    omega
  have word {s : String} (visible : (s.toList.all fun c => !Text.isBlank c) = true) :
      ∀ c ∈ s.toList, Text.isBlank c = false := by
    simpa using visible
  apply Text.solid_of_visible
  cases var with
  | threshold => exact numeral setting.toNat
  | tiering => cases setting <;> exact word rfl
  | scheduler => cases setting <;> exact word rfl
  | threads => exact numeral setting.toNat

/-- What is written is said, whatever blanks are put around it. -/
theorem means_written (var : Variable) (setting : var.Setting) {before after : String}
    (blankBefore : Blanks before.toList) (blankAfter : Blanks after.toList) :
    var.Means (before ++ var.written setting ++ after) setting := by
  refine ⟨var.written setting, ⟨before.toList, after.toList, ?_, blankBefore,
    var.solid_written setting, blankAfter⟩, var.writes_written setting⟩
  rw [String.toList_append, String.toList_append]

end Variable

end HotPath

import HotPath.Text.Blank

/-!
What is left of a text without the blanks around it: a part that neither starts nor ends with a
blank, while everything before and after it is blank.
-/

namespace HotPath.Text

def Blanks (s : List Char) : Prop := ∀ c ∈ s, isBlank c = true

instance (s : List Char) : Decidable (Blanks s) :=
  decidable_of_iff (s.all isBlank = true) List.all_eq_true

/-- A text that has no blank at either end. -/
structure Solid (s : List Char) : Prop where
  first : ∀ c ∈ s.head?, isBlank c = false
  last : ∀ c ∈ s.getLast?, isBlank c = false

theorem solid_of_visible {s : List Char} (visible : ∀ c ∈ s, isBlank c = false) : Solid s where
  first c head := visible c (List.mem_of_mem_head? head)
  last c last := visible c (List.mem_of_mem_getLast? last)

/-- The part of a text between the blanks around it. -/
def Trims (text core : List Char) : Prop :=
  ∃ before after, text = before ++ core ++ after ∧ Blanks before ∧ Solid core ∧ Blanks after

variable {text core before after rest : List Char}

theorem dropWhile_blanks (blank : Blanks before) (first : ∀ c ∈ rest.head?, isBlank c = false) :
    (before ++ rest).dropWhile isBlank = rest := by
  rw [List.dropWhile_append_of_pos blank]
  cases rest with
  | nil => rfl
  | cons c others => exact List.dropWhile_cons_of_neg (Bool.eq_false_iff.mp (first c rfl))

theorem dropBlanksRight_blanks (blank : Blanks after)
    (last : ∀ c ∈ rest.getLast?, isBlank c = false) : dropBlanksRight (rest ++ after) = rest := by
  have reversed : Blanks after.reverse := fun c member => blank c (List.mem_reverse.mp member)
  have first : ∀ c ∈ rest.reverse.head?, isBlank c = false := by
    rwa [List.head?_reverse]
  rw [dropBlanksRight, List.reverse_append, dropWhile_blanks reversed first, List.reverse_reverse]

theorem head?_dropWhile_blank (s : List Char) :
    ∀ c ∈ (s.dropWhile isBlank).head?, isBlank c = false := by
  intro c head
  have stops := List.head?_dropWhile_not isBlank s
  rw [Option.mem_def.mp head] at stops
  exact stops

theorem blanks_takeWhile (s : List Char) : Blanks (s.takeWhile isBlank) :=
  List.all_eq_true.mp List.all_takeWhile

theorem trimChars_of_trims (trims : Trims text core) : trimChars text = core := by
  obtain ⟨before, after, rfl, blankBefore, solid, blankAfter⟩ := trims
  cases core with
  | nil =>
    -- Nothing but blanks: all of them go from the left.
    have blank : Blanks (before ++ after) :=
      List.forall_mem_append.mpr ⟨blankBefore, blankAfter⟩
    have dropped : (before ++ after ++ []).dropWhile isBlank = [] :=
      dropWhile_blanks blank fun _ head => by cases head
    rw [List.append_nil] at dropped
    rw [List.append_nil, trimChars, dropped]
    rfl
  | cons c others =>
    have dropped : (before ++ (c :: others ++ after)).dropWhile isBlank = c :: others ++ after :=
      dropWhile_blanks blankBefore solid.first
    rw [trimChars, List.append_assoc, dropped, dropBlanksRight_blanks blankAfter solid.last]

theorem trims_trimChars (text : List Char) : Trims text (trimChars text) := by
  let after := ((text.dropWhile isBlank).reverse.takeWhile isBlank).reverse
  have left := @List.takeWhile_append_dropWhile _ isBlank text
  have right : trimChars text ++ after = text.dropWhile isBlank := by
    rw [trimChars, dropBlanksRight, ← List.reverse_append, List.takeWhile_append_dropWhile,
      List.reverse_reverse]
  have blank : Blanks after := fun c member => blanks_takeWhile _ c (List.mem_reverse.mp member)
  refine ⟨_, after, ?_, blanks_takeWhile text, ⟨?_, ?_⟩, blank⟩
  · rw [List.append_assoc, right, left]
  · intro c head
    refine head?_dropWhile_blank text c ?_
    rw [← right, List.head?_append, Option.mem_def.mp head]
    rfl
  · intro c last
    rw [trimChars, dropBlanksRight, List.getLast?_reverse] at last
    exact head?_dropWhile_blank _ c last

theorem trimChars_eq_iff : trimChars text = core ↔ Trims text core :=
  ⟨fun trimmed => trimmed ▸ trims_trimChars text, trimChars_of_trims⟩

end HotPath.Text

/-!
What scripts give names to. A new entry of a name takes the place of the old one.
-/

namespace HotPath

/-- Entries by name; the latest entry of a name counts. -/
abbrev Names (α : Type) := List (String × α)

namespace Names

variable {α : Type}

def put (names : Names α) (name : String) (entry : α) : Names α :=
  (name, entry) :: names.filter (·.1 != name)

def remove (names : Names α) (name : String) : Names α :=
  names.filter (·.1 != name)

end Names

end HotPath

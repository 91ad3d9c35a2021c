/-!
A first-in, first-out queue that remembers how much was ever put into it.
-/

namespace HotPath

structure Queue (α : Type) where
  /-- Waiting entries, the oldest first. -/
  waiting : List α := []
  /-- Number of entries ever submitted. -/
  submitted : Nat := 0
  deriving Inhabited

namespace Queue

variable {α : Type}

def submit (queue : Queue α) (entry : α) : Queue α :=
  ⟨queue.waiting ++ [entry], queue.submitted + 1⟩

def submitAll (queue : Queue α) (entries : List α) : Queue α :=
  ⟨queue.waiting ++ entries, queue.submitted + entries.length⟩

def take? (queue : Queue α) : Option (α × Queue α) :=
  match queue.waiting with
  | [] => none
  | entry :: rest => some (entry, { queue with waiting := rest })

def pending (queue : Queue α) : Nat := queue.waiting.length

end Queue

end HotPath

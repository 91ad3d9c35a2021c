/-!
Tasks for a scheduler. Running a task records its label, submits its children to the same scheduler,
and may then crash.
-/

namespace HotPath

inductive Task where
  | mk (label : String) (children : List Task) (crashes : Bool)
  deriving Inhabited

namespace Task

def label : Task → String
  | .mk label _ _ => label

def children : Task → List Task
  | .mk _ children _ => children

def crashes : Task → Bool
  | .mk _ _ crashes => crashes

mutual

def size : Task → Nat
  | .mk _ children _ => 1 + sizeAll children

def sizeAll : List Task → Nat
  | [] => 0
  | task :: rest => task.size + sizeAll rest

end

mutual

/-- The labels of a task tree, a task before its children. -/
def labels : Task → List String
  | .mk label children _ => label :: labelsAll children

def labelsAll : List Task → List String
  | [] => []
  | task :: rest => task.labels ++ labelsAll rest

end

theorem sizeAll_append (first second : List Task) :
    sizeAll (first ++ second) = sizeAll first + sizeAll second := by
  induction first with
  | nil => simp [sizeAll]
  | cons task rest ih => simp [sizeAll, ih, Nat.add_assoc]

theorem size_eq (task : Task) : task.size = 1 + sizeAll task.children := by
  cases task; rfl

end Task

end HotPath

/-!
Where background compilation runs.
-/

namespace HotPath

inductive SchedulerKind where
  /-- A pool of threads shared with the host. -/
  | shared
  /-- A pool of threads of its own. -/
  | dedicated
  /-- A queue that the host drains. -/
  | deferred
  deriving DecidableEq, Repr

namespace SchedulerKind

def name : SchedulerKind → String
  | .shared => "rayon"
  | .dedicated => "dedicated"
  | .deferred => "deferred"

def all : List SchedulerKind := [.shared, .dedicated, .deferred]

def ofName? (text : String) : Option SchedulerKind := all.find? fun kind => kind.name == text

theorem ofName?_name (kind : SchedulerKind) : ofName? kind.name = some kind := by
  cases kind <;> decide

end SchedulerKind

end HotPath

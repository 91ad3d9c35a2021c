import HotPath.Proofs.Schedule.Order
import Mathlib.Data.Finset.Card
import Mathlib.Data.List.Perm.Basic
import Mathlib.Data.List.ReduceOption

/-!
Whatever turns the workers of a pool take, a task that was submitted waits, or is being run, or has
run; a single worker keeps the tasks in order. Once the queue is closed a worker leaves when there
is nothing left to take, so that all have left only when every task has run, and they do leave, as
each turn of a worker that stays is one turn less.
-/

namespace HotPath

open Deferred (Event submissions runs)
open scoped List

namespace Pool

/-- What may happen to a pool: the host submits a task, or a worker takes a turn. -/
inductive Action where
  | submit (task : Task)
  | turn (worker : Nat)

def Action.task? : Action → Option Task
  | .submit task => some task
  | .turn _ => none

def act (pool : Pool) : Action → Pool
  | .submit task => pool.submit task
  | .turn worker => pool.turn worker

/-- What happens to tasks in a turn of a worker: the task that it was running is done. -/
def finishes (pool : Pool) (worker : Nat) : List Event :=
  (pool.workers[worker]?).join.toList.map .ran

def happens (pool : Pool) : Action → List Event
  | .submit task => [.submitted task]
  | .turn worker => pool.finishes worker

def after (pool : Pool) (actions : List Action) : Pool := actions.foldl act pool

def history (pool : Pool) : List Action → List Event
  | [] => []
  | action :: rest => pool.happens action ++ (pool.act action).history rest

/-- The tasks being run, and then those that wait. -/
def outstanding (pool : Pool) : List Task := pool.workers.reduceOption ++ pool.channel.waiting

/-! ## Turns -/

/-- How a turn of a worker goes. A task that crashes is done with like any other, and its
worker is free again. -/
inductive Turning (pool : Pool) (worker : Nat) : List Event → Pool → Prop where
  | absent (missing : pool.workers[worker]? = none) : Turning pool worker [] pool
  | waits (idle : pool.workers[worker]? = some none) (empty : pool.channel.waiting = []) :
      Turning pool worker [] pool
  | takes {task : Task} {rest : List Task} (idle : pool.workers[worker]? = some none)
      (oldest : pool.channel.waiting = task :: rest) :
      Turning pool worker [] { pool with
        workers := pool.workers.set worker (some task)
        channel := { pool.channel with waiting := rest } }
  | finishes {task : Task} (busy : pool.workers[worker]? = some (some task)) :
      Turning pool worker [.ran task] { pool with
        workers := pool.workers.set worker none
        ran := pool.ran ++ [task.label] }

theorem turning (pool : Pool) (worker : Nat) :
    Turning pool worker (pool.finishes worker) (pool.turn worker) := by
  unfold finishes turn
  cases found : pool.workers[worker]? with
  | none => exact .absent found
  | some slot =>
    cases slot with
    | some task => exact .finishes found
    | none =>
      cases waiting : pool.channel.waiting with
      | nil => simpa [Queue.take?, waiting] using .waits found waiting
      | cons task rest => simpa [Queue.take?, waiting] using .takes found waiting

/-- The tasks being run, before and after a worker gets another one or none. -/
theorem reduceOption_set {workers : List (Option Task)} {worker : Nat} {old : Option Task}
    (found : workers[worker]? = some old) (new : Option Task) :
    old.toList ++ (workers.set worker new).reduceOption ~ new.toList ++ workers.reduceOption := by
  obtain ⟨inside, rfl⟩ := List.getElem?_eq_some_iff.mp found
  have toList (slot : Option Task) (rest : List (Option Task)) :
      (slot :: rest).reduceOption = slot.toList ++ rest.reduceOption := by
    cases slot <;> rfl
  have later := (List.set_perm_cons_eraseIdx inside new).filterMap id
  have earlier := (List.getElem_cons_eraseIdx_perm inside).filterMap id
  change _ ~ (new :: workers.eraseIdx worker).reduceOption at later
  change (workers[worker] :: workers.eraseIdx worker).reduceOption ~ _ at earlier
  rw [toList] at later earlier
  calc
    workers[worker].toList ++ (workers.set worker new).reduceOption
      ~ workers[worker].toList ++ (new.toList ++ (workers.eraseIdx worker).reduceOption) :=
        later.append_left _
    _ ~ new.toList ++ (workers[worker].toList ++ (workers.eraseIdx worker).reduceOption) :=
        List.perm_append_comm_assoc ..
    _ ~ new.toList ++ workers.reduceOption := earlier.append_left _

/-! ## What actions keep -/

/-- What some events make of a pool: a task that was outstanding or submitted has run or is
outstanding, and with a single worker the tasks keep their order. -/
structure Recounts (pool : Pool) (events : List Event) (later : Pool) : Prop where
  conserves : pool.outstanding ++ submissions events ~ runs events ++ later.outstanding
  ordered : pool.workers.length = 1 →
    pool.outstanding ++ submissions events = runs events ++ later.outstanding
  ran : later.ran = pool.ran ++ (runs events).map Task.label
  workers : later.workers.length = pool.workers.length

namespace Recounts

variable {pool middle later : Pool} {events others : List Event}

theorem still (pool : Pool) : Recounts pool [] pool where
  conserves := by simp [submissions, runs]
  ordered _ := by simp [submissions, runs]
  ran := (List.append_nil _).symm
  workers := rfl

theorem submit (pool : Pool) (task : Task) :
    Recounts pool [.submitted task] (pool.submit task) where
  conserves := by simp [submissions, runs, outstanding, Pool.submit, Queue.submit]
  ordered _ := by simp [submissions, runs, outstanding, Pool.submit, Queue.submit]
  ran := (List.append_nil _).symm
  workers := rfl

theorem turn {worker : Nat} (turning : Turning pool worker events later) :
    Recounts pool events later := by
  cases turning with
  | absent | waits => exact .still pool
  | @takes task rest idle oldest =>
    have moved := reduceOption_set idle (some task)
    refine ⟨?_, fun single => ?_, (List.append_nil _).symm, List.length_set⟩
    · simp only [submissions, runs, outstanding, oldest, List.filterMap_nil, List.append_nil,
        List.nil_append]
      calc
        pool.workers.reduceOption ++ task :: rest
          ~ task :: (pool.workers.reduceOption ++ rest) := List.perm_middle
        _ ~ (pool.workers.set worker (some task)).reduceOption ++ rest :=
          (moved.append_right rest).symm
    · obtain ⟨slot, workers⟩ := List.length_eq_one_iff.mp single
      -- The idle worker is the only one, so all that is outstanding waits in the channel.
      obtain ⟨rfl, rfl⟩ : worker = 0 ∧ slot = none := by
        rw [workers] at idle
        cases worker with
        | zero => simpa using idle
        | succ worker => simp at idle
      simp [submissions, runs, outstanding, workers, oldest]
  | @finishes task busy =>
    have moved := reduceOption_set busy none
    refine ⟨?_, fun single => ?_, rfl, List.length_set⟩
    · simp only [submissions, runs, outstanding, List.filterMap_cons, List.filterMap_nil,
        List.append_nil, List.singleton_append]
      exact (moved.append_right pool.channel.waiting).symm
    · obtain ⟨slot, workers⟩ := List.length_eq_one_iff.mp single
      obtain ⟨rfl, rfl⟩ : worker = 0 ∧ slot = some task := by
        rw [workers] at busy
        cases worker with
        | zero => simpa using busy
        | succ worker => simp at busy
      simp [submissions, runs, outstanding, workers]

theorem trans (first : Recounts pool events middle) (second : Recounts middle others later) :
    Recounts pool (events ++ others) later where
  conserves := by
    rw [Deferred.submissions_append, Deferred.runs_append]
    calc
      pool.outstanding ++ (submissions events ++ submissions others)
        = pool.outstanding ++ submissions events ++ submissions others :=
          (List.append_assoc ..).symm
      _ ~ runs events ++ middle.outstanding ++ submissions others :=
          first.conserves.append_right _
      _ = runs events ++ (middle.outstanding ++ submissions others) := List.append_assoc ..
      _ ~ runs events ++ (runs others ++ later.outstanding) := second.conserves.append_left _
      _ = runs events ++ runs others ++ later.outstanding := (List.append_assoc ..).symm
  ordered single := by
    rw [Deferred.submissions_append, Deferred.runs_append, ← List.append_assoc,
      first.ordered single, List.append_assoc, second.ordered (first.workers.trans single),
      List.append_assoc]
  ran := by
    rw [second.ran, first.ran, Deferred.runs_append, List.map_append, List.append_assoc]
  workers := second.workers.trans first.workers

end Recounts

theorem act_recounts (pool : Pool) (action : Action) :
    Recounts pool (pool.happens action) (pool.act action) := by
  cases action with
  | submit task => exact .submit pool task
  | turn worker => exact .turn (pool.turning worker)

theorem after_recounts (pool : Pool) (actions : List Action) :
    Recounts pool (pool.history actions) (pool.after actions) := by
  induction actions generalizing pool with
  | nil => exact .still pool
  | cons action rest inductionHypothesis =>
    exact (pool.act_recounts action).trans (inductionHypothesis _)

theorem submissions_finishes (pool : Pool) (worker : Nat) :
    submissions (pool.finishes worker) = [] := by
  unfold finishes
  cases (pool.workers[worker]?).join <;> rfl

theorem submissions_history (pool : Pool) (actions : List Action) :
    submissions (pool.history actions) = actions.filterMap Action.task? := by
  induction actions generalizing pool with
  | nil => rfl
  | cons action rest inductionHypothesis =>
    rw [history, Deferred.submissions_append, inductionHypothesis]
    cases action with
    | submit task => rfl
    | turn worker => rw [happens, submissions_finishes, List.nil_append]; rfl

/-! ## Closing -/

/-- A pool whose queue is closed, with the workers that have left. -/
structure Closing where
  pool : Pool
  left : Finset Nat

def close (pool : Pool) : Closing := ⟨pool, ∅⟩

namespace Closing

/-- A turn of a worker. Finding nothing to take, it leaves for good. -/
def turn (closing : Closing) (worker : Nat) : Closing :=
  if worker ∈ closing.left then closing
  else match closing.pool.workers[worker]?, closing.pool.channel.waiting with
    | some none, [] => { closing with left := insert worker closing.left }
    | _, _ => { closing with pool := closing.pool.turn worker }

def happens (closing : Closing) (worker : Nat) : List Event :=
  if worker ∈ closing.left then [] else closing.pool.finishes worker

def turns (closing : Closing) (order : List Nat) : Closing := order.foldl turn closing

def history (closing : Closing) : List Nat → List Event
  | [] => []
  | worker :: rest => closing.happens worker ++ (closing.turn worker).history rest

def staying (closing : Closing) : Finset Nat :=
  Finset.range closing.pool.workers.length \ closing.left

/-- Whoever waits for all workers to leave has waited long enough. -/
def HasReturned (closing : Closing) : Prop := closing.staying = ∅

/-- The turns still needed: two for a task that waits, one for a task being run, and one
for each worker to leave. -/
def remaining (closing : Closing) : Nat :=
  2 * closing.pool.channel.waiting.length + closing.pool.workers.reduceOption.length +
    closing.staying.card

/-- How a turn in a closed pool goes. -/
inductive Turning (closing : Closing) (worker : Nat) : List Event → Closing → Prop where
  | gone (left : worker ∈ closing.left) : Turning closing worker [] closing
  | leaves (stays : worker ∉ closing.left) (idle : closing.pool.workers[worker]? = some none)
      (empty : closing.pool.channel.waiting = []) :
      Turning closing worker [] { closing with left := insert worker closing.left }
  | works {events : List Event} {pool : Pool} (stays : worker ∉ closing.left)
      (busy : closing.pool.workers[worker]? = some none → closing.pool.channel.waiting ≠ [])
      (turning : Pool.Turning closing.pool worker events pool) :
      Turning closing worker events { closing with pool }

theorem turning (closing : Closing) (worker : Nat) :
    Turning closing worker (closing.happens worker) (closing.turn worker) := by
  unfold happens turn
  by_cases left : worker ∈ closing.left
  · simpa only [if_pos left] using .gone left
  · simp only [if_neg left]
    split
    · rename_i idle empty
      have nothing : closing.pool.finishes worker = [] := by simp [finishes, idle]
      rw [nothing]
      exact .leaves left idle empty
    · rename_i other
      exact .works left (fun idle empty => other idle empty) (closing.pool.turning worker)

section

variable {closing later : Closing} {worker : Nat} {events : List Event} {order : List Nat}

theorem Turning.recounts (turning : Turning closing worker events later) :
    closing.pool.Recounts events later.pool := by
  cases turning with
  | gone | leaves => exact .still closing.pool
  | works _ _ turning => exact .turn turning

theorem turns_recounts (closing : Closing) (order : List Nat) :
    closing.pool.Recounts (closing.history order) (closing.turns order).pool := by
  induction order generalizing closing with
  | nil => exact .still closing.pool
  | cons worker rest inductionHypothesis =>
    exact (closing.turning worker).recounts.trans (inductionHypothesis _)

theorem submissions_history (closing : Closing) (order : List Nat) :
    submissions (closing.history order) = [] := by
  induction order generalizing closing with
  | nil => rfl
  | cons worker rest inductionHypothesis =>
    rw [history, Deferred.submissions_append, inductionHypothesis, List.append_nil, happens]
    split
    · rfl
    · exact closing.pool.submissions_finishes worker

/-- A worker has left only with nothing to run and nothing to take. -/
def Settled (closing : Closing) : Prop :=
  ∀ worker ∈ closing.left,
    closing.pool.workers[worker]? = some none ∧ closing.pool.channel.waiting = []

theorem Turning.settled (turning : Turning closing worker events later)
    (settled : closing.Settled) : later.Settled := by
  cases turning with
  | gone => exact settled
  | leaves _ idle empty =>
    intro other left
    rcases Finset.mem_insert.mp left with rfl | left
    · exact ⟨idle, empty⟩
    · exact settled other left
  | works stays _ turning =>
    intro other left
    obtain ⟨idle, empty⟩ := settled other left
    have different : worker ≠ other := fun same => stays (same ▸ left)
    cases turning with
    | absent | waits => exact ⟨idle, empty⟩
    -- once a worker has left there is nothing for the others to take
    | takes _ oldest => exact absurd (oldest.symm.trans empty) (List.cons_ne_nil _ _)
    | finishes => exact ⟨(List.getElem?_set_ne different).trans idle, empty⟩

theorem settled_close (pool : Pool) : pool.close.Settled :=
  fun _ left => absurd left (Finset.notMem_empty _)

theorem turns_settled (settled : closing.Settled) (order : List Nat) :
    (closing.turns order).Settled := by
  induction order generalizing closing with
  | nil => exact settled
  | cons worker rest inductionHypothesis =>
    exact inductionHypothesis ((closing.turning worker).settled settled)

/-- When the workers have left, nothing is queued or running. -/
theorem HasReturned.idle (returned : closing.HasReturned) (settled : closing.Settled)
    (staffed : 0 < closing.pool.workers.length) :
    closing.pool.outstanding = [] ∧ closing.pool.isIdle = true := by
  have gone : ∀ worker < closing.pool.workers.length, worker ∈ closing.left := fun worker inside =>
    Finset.sdiff_eq_empty_iff_subset.mp returned (Finset.mem_range.mpr inside)
  have idle : ∀ slot ∈ closing.pool.workers, slot = none := by
    intro slot member
    obtain ⟨worker, inside, rfl⟩ := List.getElem_of_mem member
    exact (List.getElem_eq_iff inside).mpr (settled worker (gone worker inside)).1
  have empty := (settled 0 (gone 0 staffed)).2
  refine ⟨?_, ?_⟩
  · rw [outstanding, empty, List.append_nil, List.reduceOption_eq_nil_iff]
    exact ⟨_, List.eq_replicate_of_mem idle⟩
  · simp only [isIdle, empty, List.isEmpty_nil, Bool.true_and, List.all_eq_true]
    exact fun slot member => idle slot member ▸ rfl

/-! ## Enough turns -/

theorem mem_staying :
    worker ∈ closing.staying ↔ worker < closing.pool.workers.length ∧ worker ∉ closing.left := by
  rw [staying, Finset.mem_sdiff, Finset.mem_range]

/-- A worker that takes no turn by itself: it has left, or never was. -/
theorem Turning.away (turning : Turning closing worker events later)
    (away : worker ∉ closing.staying) : later = closing := by
  rw [mem_staying] at away
  cases turning with
  | gone => rfl
  | leaves stays idle => exact absurd ⟨(List.getElem?_eq_some_iff.mp idle).1, stays⟩ away
  | works stays _ turning =>
    cases turning with
    | absent | waits => rfl
    | takes found | finishes found =>
      exact absurd ⟨(List.getElem?_eq_some_iff.mp found).1, stays⟩ away

theorem Turning.remaining (turning : Turning closing worker events later)
    (stays : worker ∈ closing.staying) : later.remaining + 1 = closing.remaining := by
  cases turning with
  | gone left => exact absurd left (mem_staying.mp stays).2
  | leaves =>
    have fewer := Finset.card_erase_add_one stays
    rw [staying, ← Finset.sdiff_insert] at fewer
    simp only [Closing.remaining, staying]
    omega
  | works _ busy turning =>
    cases turning with
    | absent missing =>
      exact absurd (mem_staying.mp stays).1 (Nat.not_lt.mpr (List.getElem?_eq_none_iff.mp missing))
    -- with the queue closed, an idle worker that finds it empty leaves
    | waits idle empty => exact absurd empty (busy idle)
    | @takes task rest idle oldest =>
      have more := (reduceOption_set idle (some task)).length_eq
      simp only [Option.toList_none, Option.toList_some, List.length_append, List.length_nil,
        List.length_singleton] at more
      simp only [Closing.remaining, staying, oldest, List.length_set, List.length_cons]
      omega
    | finishes found =>
      have fewer := (reduceOption_set found none).length_eq
      simp only [Option.toList_none, Option.toList_some, List.length_append, List.length_nil,
        List.length_singleton] at fewer
      simp only [Closing.remaining, staying, List.length_set]
      omega

theorem Turning.staying (turning : Turning closing worker events later) :
    later.staying ⊆ closing.staying := by
  cases turning with
  | gone => exact subset_rfl
  | leaves => exact Finset.sdiff_subset_sdiff subset_rfl (Finset.subset_insert ..)
  | works _ _ turning =>
    rw [Closing.staying, Closing.staying, (Recounts.turn turning).workers]

theorem turns_staying (closing : Closing) (order : List Nat) :
    (closing.turns order).staying ⊆ closing.staying := by
  induction order generalizing closing with
  | nil => exact subset_rfl
  | cons worker rest inductionHypothesis =>
    exact (inductionHypothesis _).trans (closing.turning worker).staying

/-- As long as a worker stays, each of its turns is one turn less. -/
theorem remaining_turns (stays : worker ∈ (closing.turns order).staying) :
    (closing.turns order).remaining + order.count worker ≤ closing.remaining := by
  induction order generalizing closing with
  | nil => exact Nat.le_refl _
  | cons next rest inductionHypothesis =>
    have later := inductionHypothesis stays
    rw [List.count_cons]
    by_cases present : next ∈ closing.staying
    · have fewer := (closing.turning next).remaining present
      change (Closing.turns _ rest).remaining + _ ≤ _
      split <;> omega
    · have same := (closing.turning next).away present
      -- whoever is away now is away at the end
      have different : next ≠ worker := by
        rintro rfl
        exact present (closing.turns_staying (next :: rest) stays)
      rw [same] at later
      change (Closing.turns (closing.turn next) rest).remaining + _ ≤ _
      simpa [same, different] using later

/-- Once every worker has taken the turns that are needed, all have left. -/
theorem turns_hasReturned
    (fair : ∀ worker < closing.pool.workers.length, closing.remaining ≤ order.count worker) :
    (closing.turns order).HasReturned := by
  refine Finset.eq_empty_of_forall_notMem fun worker stays => ?_
  have enough := fair worker (mem_staying.mp (closing.turns_staying order stays)).1
  have bound := remaining_turns stays
  have present := Finset.card_pos.mpr ⟨worker, stays⟩
  have needed : (closing.turns order).staying.card ≤ (closing.turns order).remaining :=
    Nat.le_add_left ..
  omega

end

end Closing

/-! ## Even turns -/

section

variable {pool : Pool} {workers : Nat}

theorem after_submits (pool : Pool) (tasks : List Task) :
    (pool.after (tasks.map .submit)).workers = pool.workers ∧
      (pool.after (tasks.map .submit)).channel.waiting = pool.channel.waiting ++ tasks ∧
      (pool.after (tasks.map .submit)).ran = pool.ran := by
  induction tasks generalizing pool with
  | nil => exact ⟨rfl, (List.append_nil _).symm, rfl⟩
  | cons task rest inductionHypothesis =>
    obtain ⟨same, waiting, ran⟩ := inductionHypothesis (pool.submit task)
    exact ⟨same, waiting.trans (List.append_assoc ..), ran⟩

/-- The pool after so many of the tasks that wait have run. -/
def served (pool : Pool) (count : Nat) : Pool where
  workers := pool.workers
  channel := { pool.channel with waiting := pool.channel.waiting.drop count }
  ran := pool.ran ++ (pool.channel.waiting.take count).map Task.label

/-- Two turns of an idle worker run the oldest task. -/
theorem turn_turn {worker : Nat} {task : Task} {rest : List Task}
    (idle : pool.workers[worker]? = some none) (oldest : pool.channel.waiting = task :: rest) :
    (pool.turn worker).turn worker = { pool with
      channel := { pool.channel with waiting := rest }
      ran := pool.ran ++ [task.label] } := by
  obtain ⟨inside, slot⟩ := List.getElem?_eq_some_iff.mp idle
  have takes : pool.turn worker = { pool with
      workers := pool.workers.set worker (some task)
      channel := { pool.channel with waiting := rest } } := by
    simp only [turn, idle, Queue.take?, oldest]
  have kept : pool.workers.set worker none = pool.workers := by
    rw [← slot, List.set_getElem_self]
  rw [takes]
  simp only [turn, List.getElem?_set_self inside, List.set_set, kept]

theorem turns_evenTurns (staffed : 0 < workers) (idle : pool.workers = List.replicate workers none)
    (count : Nat) (enough : count ≤ pool.channel.waiting.length) :
    pool.turns (evenTurns workers count) = pool.served count := by
  induction count with
  | zero => simp [turns, evenTurns, served]
  | succ count inductionHypothesis =>
    have found : (pool.served count).workers[count % workers]? = some none := by
      rw [served, idle, List.getElem?_replicate, if_pos (Nat.mod_lt count staffed)]
    have oldest : (pool.served count).channel.waiting =
        pool.channel.waiting[count] :: pool.channel.waiting.drop (count + 1) :=
      List.drop_eq_getElem_cons enough
    calc
      pool.turns (evenTurns workers (count + 1))
        = (pool.turns (evenTurns workers count)).turns [count % workers, count % workers] :=
          List.foldl_append
      _ = (pool.served count).turns [count % workers, count % workers] := by
          rw [inductionHypothesis (Nat.le_of_succ_le enough)]
      _ = pool.served (count + 1) := (turn_turn found oldest).trans <| by
          simp only [served, List.take_succ_eq_append_getElem enough, List.map_append,
            List.map_singleton, List.append_assoc]

/-- Shut down, a pool of idle workers has run what waited, oldest first. -/
theorem shutDown_of_idle (staffed : 0 < workers)
    (idle : pool.workers = List.replicate workers none) :
    pool.shutDown.isIdle = true ∧
      pool.shutDown.ran = pool.ran ++ pool.channel.waiting.map Task.label := by
  have shut : pool.shutDown = pool.served pool.channel.waiting.length := by
    rw [shutDown, idle, List.length_replicate, Queue.pending]
    exact turns_evenTurns staffed idle _ (Nat.le_refl _)
  rw [shut]
  refine ⟨?_, ?_⟩
  · simp [isIdle, served, idle]
  · rw [served, List.take_length]

end

end Pool

end HotPath

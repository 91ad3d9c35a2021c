import HotPath.Lang.Lowering
import HotPath.Proofs.Lang.Touches

/-!
Two runs that do the same on related frames. A lowered body simulates the body it came from, for
every relation between frames that the two ways of reaching the places in scope respect. Where they
respect it only for some accesses to parameters, it does so as long as the body makes no others.
-/

namespace HotPath

namespace Run

variable {α β : Type} {Related : Frame → Frame → Prop}

/-- Two ends of runs: the same value or the same stop, on related frames. -/
inductive SameEnd (Related : Frame → Frame → Prop) :
    EStateM.Result Stop Frame α → EStateM.Result Stop Frame α → Prop where
  | ok (value : α) {first second : Frame} (frames : Related first second) :
      SameEnd Related (.ok value first) (.ok value second)
  | error (stop : Stop) {first second : Frame} (frames : Related first second) :
      SameEnd Related (.error stop first) (.error stop second)

/-- From related frames the two runs end alike, on related frames. -/
def Simulates (Related : Frame → Frame → Prop) (first second : Run α) : Prop :=
  ∀ left right, Related left right → SameEnd Related (first left) (second right)

theorem Simulates.pure (value : α) : Simulates Related (pure value) (pure value) :=
  fun _ _ frames => .ok value frames

theorem Simulates.throw (stop : Stop) :
    Simulates (α := α) Related (throw stop) (throw stop) :=
  fun _ _ frames => .error stop frames

theorem Simulates.ofOperator (result : Except Fault α) :
    Simulates Related (Run.ofOperator result) (Run.ofOperator result) := by
  cases result with
  | error fault => exact .throw (.faulted fault)
  | ok value => exact .pure value

/-- From related frames on which the first run touches only what is fine, the two
runs end alike, on related frames. -/
def SimulatesOn (fine : Touch → Prop) (Related : Frame → Frame → Prop)
    (touches : Frame → List Touch) (first second : Run α) : Prop :=
  ∀ left right, Related left right → (∀ touch ∈ touches left, fine touch) →
    SameEnd Related (first left) (second right)

variable {fine : Touch → Prop} {touches : Frame → List Touch}

theorem Simulates.on {first second : Run α} (same : Simulates Related first second) :
    SimulatesOn fine Related touches first second :=
  fun left right frames _ => same left right frames

theorem Simulates.ofOn {first second : Run α}
    (same : SimulatesOn (fun _ => True) Related touches first second) :
    Simulates Related first second :=
  fun left right frames => same left right frames fun _ _ => trivial

namespace SimulatesOn

theorem bind {later : α → Frame → List Touch} {first second : Run α} {next next' : α → Run β}
    (head : SimulatesOn fine Related touches first second)
    (tail : ∀ value, SimulatesOn fine Related (later value) (next value) (next' value)) :
    SimulatesOn fine Related (chain touches first later) (first >>= next) (second >>= next') := by
  intro left right frames allowed
  obtain ⟨before, afterwards⟩ := List.forall_mem_append.mp allowed
  have ends := head left right frames before
  simp only [Bind.bind, EStateM.bind]
  generalize first left = firstEnd at ends afterwards ⊢
  generalize second right = secondEnd at ends ⊢
  cases ends with
  | ok value frames => exact tail value _ _ frames afterwards
  | error stop frames => exact .error stop frames

theorem andThen {first second : Run α} {next next' : α → Run β}
    (head : SimulatesOn fine Related touches first second)
    (tail : ∀ value, Simulates Related (next value) (next' value)) :
    SimulatesOn fine Related touches (first >>= next) (second >>= next') := by
  have whole : SimulatesOn fine Related (chain touches first fun _ _ => []) (first >>= next)
      (second >>= next') := head.bind fun value => (tail value).on
  simpa only [chain_nil] using whole

theorem whileTrue {ofTest ofBody : Frame → List Touch} {test test' : Run Bool}
    {body body' : Run Value} (sameTest : SimulatesOn fine Related ofTest test test')
    (sameBody : SimulatesOn fine Related ofBody body body') (rounds : Nat) :
    SimulatesOn fine Related (touchesWhile test body ofTest ofBody rounds)
      (Run.whileTrue test body rounds) (Run.whileTrue test' body' rounds) := by
  induction rounds with
  | zero => exact (Simulates.throw .exhausted).on
  | succ rounds ih =>
    apply sameTest.bind
    intro holds
    cases holds with
    | false => exact (Simulates.pure Value.unit).on
    | true => exact sameBody.bind fun _ => ih

end SimulatesOn

theorem Simulates.bind {first second : Run α} {next next' : α → Run β}
    (head : Simulates Related first second)
    (tail : ∀ value, Simulates Related (next value) (next' value)) :
    Simulates Related (first >>= next) (second >>= next') :=
  .ofOn (head.on.andThen tail : SimulatesOn (fun _ => True) Related (fun _ => []) _ _)

/-! Places that both runs reach in the same way. -/

section Places

variable {binding binding' : Binding} {slot : Nat} {left right : Frame}

theorem SameEnd.readParam (frames : Related left right) {index : Nat}
    (same : right.params[index]? = left.params[index]?) :
    SameEnd Related (Run.readParam index left) (Run.readParam index right) := by
  simp only [Run.readParam, same]
  cases left.params[index]? with
  | none => exact .error .missingSlot frames
  | some value => exact .ok value frames

theorem SameEnd.writeParam (frames : Related left right) {index : Nat} {value : Value}
    (same : right.params.length = left.params.length)
    (kept : Related { left with params := left.params.set index value }
      { right with params := right.params.set index value }) :
    SameEnd Related (Run.writeParam index value left) (Run.writeParam index value right) := by
  simp only [Run.writeParam, same]
  split
  · exact .ok () kept
  · exact .error .missingSlot frames

theorem Simulates.readLocal
    (same : ∀ left right, Related left right → right.locals = left.locals) (index : Nat) :
    Simulates Related (Run.readLocal index) (Run.readLocal index) := by
  intro left right frames
  simp only [Run.readLocal, same left right frames]
  cases left.locals[index]? with
  | none => exact .error .missingSlot frames
  | some value => exact .ok value frames

theorem Simulates.writeLocal
    (same : ∀ left right, Related left right → right.locals = left.locals)
    (kept : ∀ left right, Related left right → ∀ locals,
      Related { left with locals } { right with locals }) (index : Nat) (value : Value) :
    Simulates Related (Run.writeLocal index value) (Run.writeLocal index value) := by
  intro left right frames
  simp only [Run.writeLocal, same left right frames]
  split
  · exact .ok () (kept left right frames _)
  · exact .error .missingSlot frames

theorem Simulates.readCapture (sameCell : binding'[slot]? = binding[slot]?)
    (same : ∀ left right, Related left right → ∀ cell,
      right.store.readCell cell = left.store.readCell cell) :
    Simulates Related (Run.readCapture binding slot) (Run.readCapture binding' slot) := by
  intro left right frames
  simp only [Run.readCapture, sameCell, same left right frames]
  cases binding[slot]? with
  | none => exact .error _ frames
  | some cell => exact .ok _ frames

theorem Simulates.writeCapture (sameCell : binding'[slot]? = binding[slot]?) {value : Value}
    (kept : ∀ left right, Related left right → ∀ cell,
      Related { left with store := left.store.writeCell cell value }
        { right with store := right.store.writeCell cell value }) :
    Simulates Related (Run.writeCapture binding slot value)
      (Run.writeCapture binding' slot value) := by
  intro left right frames
  simp only [Run.writeCapture, sameCell]
  cases binding[slot]? with
  | none => exact .error _ frames
  | some cell => exact .ok () (kept left right frames cell)

end Places

/-- Bodies that end alike when they can start give two replies with one outcome, from frames that
are related. -/
theorem onFrame_alike {first second : Run Value} {locals : Nat} {params params' : List Value}
    {store store' : Store}
    (start : Related ⟨params, List.replicate locals .unit, store⟩
      ⟨params', List.replicate locals .unit, store'⟩)
    (ends : ¬ maxLocals < locals →
      SameEnd Related (first ⟨params, List.replicate locals .unit, store⟩)
        (second ⟨params', List.replicate locals .unit, store'⟩)) :
    ∃ outcome left right, Related left right ∧
      Run.onFrame first locals params store = ⟨outcome, left.params, left.store⟩ ∧
      Run.onFrame second locals params' store' = ⟨outcome, right.params, right.store⟩ := by
  by_cases overflows : maxLocals < locals
  · exact ⟨_, _, _, start, Run.onFrame_of_overflow _ _ _ overflows,
      Run.onFrame_of_overflow _ _ _ overflows⟩
  · have alike := ends overflows
    rw [Run.onFrame_of_fits _ _ _ overflows, Run.onFrame_of_fits _ _ _ overflows]
    generalize first _ = firstEnd at alike ⊢
    generalize second _ = secondEnd at alike ⊢
    cases alike with
    | ok value frames => exact ⟨_, _, _, frames, rfl, rfl⟩
    | error stop frames => exact ⟨_, _, _, frames, rfl, rfl⟩

end Run

open Run (Simulates SimulatesOn chain)

/-- The two ways of reaching each place in scope do the same on related frames:
the plain one of the interpreter, and the one that compiled code was given. -/
structure SameAccess (Related : Frame → Frame → Prop) (scope : Scope) (binding binding' : Binding)
    (param : Nat → Access) : Prop where
  readParam : ∀ index, scope.Has (.param index) →
    Simulates Related (Run.readParam index) ((param index).load binding')
  writeParam : ∀ index, scope.Has (.param index) → ∀ value,
    Simulates Related (Run.writeParam index value) ((param index).store binding' value)
  readLocal : ∀ index, Simulates Related (Run.readLocal index) (Run.readLocal index)
  writeLocal : ∀ index value,
    Simulates Related (Run.writeLocal index value) (Run.writeLocal index value)
  readCapture : ∀ slot, scope.Has (.capture slot) →
    Simulates Related (Run.readCapture binding slot) (Run.readCapture binding' slot)
  writeCapture : ∀ slot, scope.Has (.capture slot) → ∀ value,
    Simulates Related (Run.writeCapture binding slot value) (Run.writeCapture binding' slot value)

/-- The same as long as the first run touches only what is fine. -/
structure SameAccessOn (fine : Touch → Prop) (Related : Frame → Frame → Prop) (scope : Scope)
    (binding binding' : Binding) (param : Nat → Access) : Prop where
  readParam : ∀ index, scope.Has (.param index) →
    SimulatesOn fine Related (fun frame => [frame.touch index]) (Run.readParam index)
      ((param index).load binding')
  writeParam : ∀ index, scope.Has (.param index) → ∀ value,
    SimulatesOn fine Related (fun frame => [frame.touch index]) (Run.writeParam index value)
      ((param index).store binding' value)
  readLocal : ∀ index, Simulates Related (Run.readLocal index) (Run.readLocal index)
  writeLocal : ∀ index value,
    Simulates Related (Run.writeLocal index value) (Run.writeLocal index value)
  readCapture : ∀ slot, scope.Has (.capture slot) →
    Simulates Related (Run.readCapture binding slot) (Run.readCapture binding' slot)
  writeCapture : ∀ slot, scope.Has (.capture slot) → ∀ value,
    Simulates Related (Run.writeCapture binding slot value) (Run.writeCapture binding' slot value)

theorem Scope.outside?_eq_none {scope : Scope} {place : Place} :
    scope.outside? place = none ↔ scope.Has place := by
  unfold Scope.outside?
  split <;> simp_all

theorem orElse_eq_none_iff {α : Type} {first second : Option α} :
    (first <|> second) = none ↔ first = none ∧ second = none := by
  rw [Option.orElse_eq_orElse, Option.orElse_eq_or, Option.or_eq_none_iff]

variable {fine : Touch → Prop} {Related : Frame → Frame → Prop} {scope : Scope}
  {binding binding' : Binding} {param : Nat → Access}

theorem SameAccess.on (same : SameAccess Related scope binding binding' param) :
    SameAccessOn fine Related scope binding binding' param where
  readParam index inside := (same.readParam index inside).on
  writeParam index inside value := (same.writeParam index inside value).on
  readLocal := same.readLocal
  writeLocal := same.writeLocal
  readCapture := same.readCapture
  writeCapture := same.writeCapture

namespace Expr

mutual

/-- A body without stray places and its lowering do the same on related frames, as long as
the body touches only what is fine. -/
theorem lower_simulatesOn (same : SameAccessOn fine Related scope binding binding' param)
    (rounds : Nat) : ∀ e : Expr, e.stray? scope = none →
      SimulatesOn fine Related (e.touches rounds binding) (e.eval rounds binding)
        ((e.lower param).exec rounds binding')
  | .const value, _ => (Simulates.pure value).on
  | .readParam index, inside => same.readParam index (Scope.outside?_eq_none.mp inside)
  | .readLocal index, _ => (same.readLocal index).on
  | .readCapture slot, inside => (same.readCapture slot (Scope.outside?_eq_none.mp inside)).on
  | .writeParam index e, inside => by
    obtain ⟨place, part⟩ := orElse_eq_none_iff.mp inside
    refine (lower_simulatesOn same rounds e part).bind fun value => ?_
    exact (same.writeParam index (Scope.outside?_eq_none.mp place) value).andThen
      fun _ => .pure value
  | .writeLocal index e, inside => by
    obtain ⟨_, part⟩ := orElse_eq_none_iff.mp inside
    refine (lower_simulatesOn same rounds e part).andThen fun value => ?_
    exact Simulates.bind (same.writeLocal index value) fun _ => .pure value
  | .writeCapture slot e, inside => by
    obtain ⟨place, part⟩ := orElse_eq_none_iff.mp inside
    refine (lower_simulatesOn same rounds e part).andThen fun value => ?_
    exact Simulates.bind (same.writeCapture slot (Scope.outside?_eq_none.mp place) value)
      fun _ => .pure value
  | .unary op e, inside =>
    (lower_simulatesOn same rounds e inside).andThen fun _ => .ofOperator _
  | .binary op a b, inside => by
    obtain ⟨left, right⟩ := orElse_eq_none_iff.mp inside
    refine (lower_simulatesOn same rounds a left).bind fun _ => ?_
    exact (lower_simulatesOn same rounds b right).andThen fun _ => .ofOperator _
  | .ifElse test yes no, inside => by
    obtain ⟨first, branches⟩ := orElse_eq_none_iff.mp inside
    obtain ⟨second, third⟩ := orElse_eq_none_iff.mp branches
    have tested := (lower_simulatesOn same rounds test first).andThen
      fun value => .ofOperator (Value.condition .ifElse value)
    -- The touches take a test and its condition for one run, so the binds are regrouped.
    simp only [eval, lower, Code.exec, ← bind_assoc]
    refine tested.bind fun holds => ?_
    cases holds with
    | false => exact lower_simulatesOn same rounds no third
    | true => exact lower_simulatesOn same rounds yes second
  | .whileLoop test body, inside => by
    obtain ⟨first, second⟩ := orElse_eq_none_iff.mp inside
    refine .whileTrue ?_ (lower_simulatesOn same rounds body second) rounds
    exact (lower_simulatesOn same rounds test first).andThen fun _ => .ofOperator _
  | .block [], _ => (Simulates.pure Value.unit).on
  | .block (e :: rest), inside => by
    obtain ⟨first, others⟩ := orElse_eq_none_iff.mp inside
    exact lowerBlock_simulatesOn same rounds rest others (lower_simulatesOn same rounds e first)
  | .ret e, inside =>
    (lower_simulatesOn same rounds e inside).andThen fun value => .throw (.returned value)
  | .raise e, inside =>
    (lower_simulatesOn same rounds e inside).andThen fun value => .throw (.faulted (.raised value))

/-- Chaining keeps the order: a block goes on after its first part as the chain
goes on after the code of that part. -/
theorem lowerBlock_simulatesOn (same : SameAccessOn fine Related scope binding binding' param)
    (rounds : Nat) : ∀ (rest : List Expr), strayIn? scope rest = none →
      ∀ {touches : Frame → List Touch} {first : Run Value} {code : Code},
        SimulatesOn fine Related touches first (code.exec rounds binding') →
          SimulatesOn fine Related (chain touches first fun _ => touchesAll rounds binding rest)
            (first >>= fun last => evalBlock rounds binding last rest)
            ((lowerBlock param code rest).exec rounds binding')
  | [], _, touches, first, code, head => by
    simpa only [touchesAll, Run.chain_nil, evalBlock, bind_pure, lowerBlock] using head
  | e :: rest, inside, touches, first, code, head => by
    obtain ⟨item, others⟩ := orElse_eq_none_iff.mp inside
    exact head.bind fun _ =>
      lowerBlock_simulatesOn same rounds rest others (lower_simulatesOn same rounds e item)

end

theorem lower_simulates (same : SameAccess Related scope binding binding' param) (rounds : Nat)
    (e : Expr) (inside : e.stray? scope = none) :
    Simulates Related (e.eval rounds binding) ((e.lower param).exec rounds binding') :=
  .ofOn (lower_simulatesOn same.on rounds e inside)

end Expr

end HotPath

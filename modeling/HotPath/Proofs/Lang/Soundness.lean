import HotPath.Lang.Interpreter
import HotPath.Proofs.Lang.Places
import HotPath.Proofs.Lang.Simulation

/-!
A body without stray places never reaches for a slot that its frame does not have, nor does its
lowering for a parameter that is not declared. Its errors are its own: it stops for want of a cell
only at a captured variable that its closure really lacks, and never complains about its arguments.
-/

namespace HotPath

/-- A frame has the slots that a scope promises. -/
structure Frame.Sized (scope : Scope) (frame : Frame) : Prop where
  params : frame.params.length = scope.params
  locals : frame.locals.length = scope.locals

def Stop.Sound (scope : Scope) (binding : Binding) : Stop → Prop
  | .missingSlot => False
  | .faulted (.unboundCapture slot) => scope.Has (.capture slot) ∧ binding.length ≤ slot
  | _ => True

/-- The stops that any body can come to: none of them complains about its arguments. -/
def Stop.Served : Stop → Prop
  | .faulted (.arity ..) => False
  | _ => True

def Fault.OfOperator : Fault → Prop
  | .divisionByZero | .overflow _ | .operands .. | .operand .. => True
  | .raised _ | .arity .. | .unboundCapture _ => False

namespace Run

variable {α β : Type} {scope : Scope} {binding : Binding} {holds : Frame → Prop}
  {allowed : Stop → Prop}

/-- What holds of the frame before the run holds of the frame after it, and the run
stops in no other ways than the allowed ones. -/
def Keeps (holds : Frame → Prop) (allowed : Stop → Prop) (run : Run α) : Prop :=
  ∀ frame, holds frame →
    match run frame with
    | .ok _ after => holds after
    | .error stop after => allowed stop ∧ holds after

theorem Keeps.pure (value : α) : Keeps holds allowed (pure value) := fun _ before => before

theorem Keeps.throw {stop : Stop} (allows : allowed stop) :
    Keeps (α := α) holds allowed (throw stop) := fun _ before => ⟨allows, before⟩

theorem Keeps.bind {run : Run α} {next : α → Run β} (head : Keeps holds allowed run)
    (tail : ∀ value, Keeps holds allowed (next value)) : Keeps holds allowed (run >>= next) := by
  intro frame before
  have first := head frame before
  simp only [Bind.bind, EStateM.bind]
  generalize run frame = ended at first ⊢
  cases ended with
  | ok value after => exact tail value after first
  | error stop after => exact first

theorem Keeps.whileTrue {test : Run Bool} {body : Run Value} (exhausts : allowed .exhausted)
    (tests : Keeps holds allowed test) (bodies : Keeps holds allowed body) (rounds : Nat) :
    Keeps holds allowed (Run.whileTrue test body rounds) := by
  induction rounds with
  | zero => exact .throw exhausts
  | succ rounds ih =>
    apply tests.bind
    intro continues
    cases continues with
    | false => exact .pure Value.unit
    | true => exact bodies.bind fun _ => ih

theorem Keeps.ofOperator {result : Except Fault α}
    (allows : ∀ fault, result = .error fault → allowed (.faulted fault)) :
    Keeps holds allowed (Run.ofOperator result) := by
  cases result with
  | ok value => exact .pure value
  | error fault => exact .throw (allows fault rfl)

/-- From a frame of the right size the run keeps the size, and any stop is sound. -/
def Safe (scope : Scope) (binding : Binding) (run : Run α) : Prop :=
  ∀ frame, frame.Sized scope →
    match run frame with
    | .ok _ after => after.Sized scope
    | .error stop after => stop.Sound scope binding ∧ after.Sized scope

theorem readParam_safe {index : Nat} (inside : scope.Has (.param index)) :
    Safe scope binding (Run.readParam index) := by
  intro frame sized
  have present : index < frame.params.length := by rw [sized.params]; exact inside
  simpa [Run.readParam, List.getElem?_eq_getElem present] using sized

theorem writeParam_safe {index : Nat} (inside : scope.Has (.param index)) (value : Value) :
    Safe scope binding (Run.writeParam index value) := by
  intro frame sized
  have present : index < frame.params.length := by rw [sized.params]; exact inside
  simp only [Run.writeParam, if_pos present]
  exact ⟨by simpa using sized.params, sized.locals⟩

theorem readLocal_safe {index : Nat} (inside : scope.Has (.frameLocal index)) :
    Safe scope binding (Run.readLocal index) := by
  intro frame sized
  have present : index < frame.locals.length := by rw [sized.locals]; exact inside
  simpa [Run.readLocal, List.getElem?_eq_getElem present] using sized

theorem writeLocal_safe {index : Nat} (inside : scope.Has (.frameLocal index)) (value : Value) :
    Safe scope binding (Run.writeLocal index value) := by
  intro frame sized
  have present : index < frame.locals.length := by rw [sized.locals]; exact inside
  simp only [Run.writeLocal, if_pos present]
  exact ⟨sized.params, by simpa using sized.locals⟩

theorem readCapture_safe {slot : Nat} (inside : scope.Has (.capture slot)) :
    Safe scope binding (Run.readCapture binding slot) := by
  intro frame sized
  unfold Run.readCapture
  cases found : binding[slot]? with
  | none => exact ⟨⟨inside, List.getElem?_eq_none_iff.mp found⟩, sized⟩
  | some cell => exact sized

theorem writeCapture_safe {slot : Nat} (inside : scope.Has (.capture slot)) (value : Value) :
    Safe scope binding (Run.writeCapture binding slot value) := by
  intro frame sized
  unfold Run.writeCapture
  cases found : binding[slot]? with
  | none => exact ⟨⟨inside, List.getElem?_eq_none_iff.mp found⟩, sized⟩
  | some cell => exact ⟨sized.params, sized.locals⟩

end Run

namespace Value

variable {fault : Fault}

theorem unary_fault {op : UnaryOp} {operand : Value}
    (failed : Value.unary op operand = .error fault) : fault.OfOperator := by
  unfold Value.unary at failed
  split at failed
  · split at failed
    · cases failed
      trivial
    · cases failed
  all_goals
    cases failed
    try trivial

theorem condition_fault {construct : Construct} {value : Value}
    (failed : Value.condition construct value = .error fault) : fault.OfOperator := by
  cases value <;> cases failed <;> trivial

theorem arithmetic_fault {op : Arithmetic} {left right : Value}
    (failed : Value.arithmetic op left right = .error fault) : fault.OfOperator := by
  unfold Value.arithmetic at failed
  split at failed
  · unfold Arithmetic.onInts at failed
    split at failed
    · cases failed
      trivial
    · split at failed
      · cases failed
        trivial
      · cases failed
  · cases failed
  · cases failed
  · cases failed
  · split at failed
    · cases failed
    · cases failed
      trivial
  · cases failed
    trivial

theorem comparison_fault {op : Comparison} {left right : Value}
    (failed : Value.comparison op left right = .error fault) : fault.OfOperator := by
  unfold Value.comparison at failed
  split at failed
  · cases failed
  · cases failed
    trivial

theorem binary_fault {op : BinaryOp} {left right : Value}
    (failed : Value.binary op left right = .error fault) : fault.OfOperator := by
  cases op with
  | add | sub | mul | div | rem => exact arithmetic_fault failed
  | lt | le | gt | ge => exact comparison_fault failed
  | eq | ne => cases failed

end Value

open Run (Keeps Safe)

/-- What a body keeps on some cells that uses and assigns to some places only: reaching for
these keeps it, and the ways in which an expression stops by itself are allowed. -/
structure Upholds (uses assigns : Place → Prop) (binding : Binding) (holds : Frame → Prop)
    (allowed : Stop → Prop) : Prop where
  readParam : ∀ {index}, uses (.param index) → Keeps holds allowed (Run.readParam index)
  writeParam : ∀ {index}, assigns (.param index) → ∀ value,
    Keeps holds allowed (Run.writeParam index value)
  readLocal : ∀ {index}, uses (.frameLocal index) → Keeps holds allowed (Run.readLocal index)
  writeLocal : ∀ {index}, assigns (.frameLocal index) → ∀ value,
    Keeps holds allowed (Run.writeLocal index value)
  readCapture : ∀ {slot}, uses (.capture slot) →
    Keeps holds allowed (Run.readCapture binding slot)
  writeCapture : ∀ {slot}, assigns (.capture slot) → ∀ value,
    Keeps holds allowed (Run.writeCapture binding slot value)
  operator : ∀ {fault : Fault}, fault.OfOperator → allowed (.faulted fault)
  raised : ∀ value, allowed (.faulted (.raised value))
  returned : ∀ value, allowed (.returned value)
  exhausted : allowed .exhausted

namespace Expr

section

variable {scope : Scope} {param table : Nat → Access}

mutual

/-- Lowering a body without stray places looks up declared parameters only. -/
theorem lower_congr (same : ∀ index, scope.Has (.param index) → table index = param index) :
    ∀ e : Expr, e.stray? scope = none → e.lower table = e.lower param
  | .const _, _ | .readLocal _, _ | .readCapture _, _ => rfl
  | .readParam index, inside => by
    simp only [lower, same index (Scope.outside?_eq_none.mp inside)]
  | .writeParam index e, inside => by
    obtain ⟨place, part⟩ := orElse_eq_none_iff.mp inside
    simp only [lower, same index (Scope.outside?_eq_none.mp place), lower_congr same e part]
  | .writeLocal _ e, inside | .writeCapture _ e, inside => by
    obtain ⟨_, part⟩ := orElse_eq_none_iff.mp inside
    simp only [lower, lower_congr same e part]
  | .unary _ e, inside | .ret e, inside | .raise e, inside => by
    simp only [lower, lower_congr same e inside]
  | .binary _ a b, inside | .whileLoop a b, inside => by
    obtain ⟨left, right⟩ := orElse_eq_none_iff.mp inside
    simp only [lower, lower_congr same a left, lower_congr same b right]
  | .ifElse test yes no, inside => by
    obtain ⟨first, branches⟩ := orElse_eq_none_iff.mp inside
    obtain ⟨second, third⟩ := orElse_eq_none_iff.mp branches
    simp only [lower, lower_congr same test first, lower_congr same yes second,
      lower_congr same no third]
  | .block [], _ => rfl
  | .block (e :: rest), inside => by
    obtain ⟨first, others⟩ := orElse_eq_none_iff.mp inside
    simp only [lower, lower_congr same e first]
    exact lowerBlock_congr same rest others _

theorem lowerBlock_congr (same : ∀ index, scope.Has (.param index) → table index = param index) :
    ∀ rest : List Expr, strayIn? scope rest = none → ∀ first : Code,
      lowerBlock table first rest = lowerBlock param first rest
  | [], _, _ => rfl
  | e :: rest, inside, first => by
    obtain ⟨item, others⟩ := orElse_eq_none_iff.mp inside
    simp only [lowerBlock, lower_congr same e item]
    exact congrArg _ (lowerBlock_congr same rest others _)

end

end

variable {uses assigns : Place → Prop} {binding : Binding} {holds : Frame → Prop}
  {allowed : Stop → Prop} {rounds : Nat}

theorem evalBlock_keeps {items : List Expr}
    (each : ∀ e ∈ items, Keeps holds allowed (e.eval rounds binding)) (last : Value) :
    Keeps holds allowed (evalBlock rounds binding last items) := by
  induction items generalizing last with
  | nil => exact .pure last
  | cons e rest ih =>
    obtain ⟨first, others⟩ := List.forall_mem_cons.mp each
    exact first.bind fun value => ih others value

/-- A body keeps what its places keep. -/
theorem eval_keeps (upholds : Upholds uses assigns binding holds allowed) (rounds : Nat) (e : Expr)
    (used : ∀ place ∈ e.places, uses place) (assigned : ∀ place ∈ e.assigned, assigns place) :
    Keeps holds allowed (e.eval rounds binding) := by
  induction e using Expr.inductionOnParts with
  | node e ih =>
    have parts : ∀ part ∈ e.parts, Keeps holds allowed (part.eval rounds binding) :=
      fun part member => ih part member
        (fun place within => used place (places_subset member within))
        (fun place within => assigned place (assigned_subset member within))
    have use {place : Place} (own : e.place? = some place) := used place (mem_places_of_place? own)
    have assign {place : Place} (own : e.assigns? = some place) :=
      assigned place (mem_assigned_of_assigns? own)
    -- The parts keep what they should, so each constructor answers for its own step only.
    clear ih used assigned
    cases e with
    | const value => exact .pure value
    | readParam => exact upholds.readParam (use rfl)
    | readLocal => exact upholds.readLocal (use rfl)
    | readCapture => exact upholds.readCapture (use rfl)
    | writeParam _ e =>
      refine (parts e (by simp [Expr.parts])).bind fun value => ?_
      exact (upholds.writeParam (assign rfl) value).bind fun _ => .pure value
    | writeLocal _ e =>
      refine (parts e (by simp [Expr.parts])).bind fun value => ?_
      exact (upholds.writeLocal (assign rfl) value).bind fun _ => .pure value
    | writeCapture _ e =>
      refine (parts e (by simp [Expr.parts])).bind fun value => ?_
      exact (upholds.writeCapture (assign rfl) value).bind fun _ => .pure value
    | unary op e =>
      refine (parts e (by simp [Expr.parts])).bind fun _ => ?_
      exact .ofOperator fun _ failed => upholds.operator (Value.unary_fault failed)
    | binary op a b =>
      refine (parts a (by simp [Expr.parts])).bind fun _ => ?_
      refine (parts b (by simp [Expr.parts])).bind fun _ => ?_
      exact .ofOperator fun _ failed => upholds.operator (Value.binary_fault failed)
    | ifElse test yes no =>
      refine (parts test (by simp [Expr.parts])).bind fun _ => ?_
      refine Keeps.bind (.ofOperator fun _ failed =>
        upholds.operator (Value.condition_fault failed)) fun holds => ?_
      cases holds with
      | false => exact parts no (by simp [Expr.parts])
      | true => exact parts yes (by simp [Expr.parts])
    | whileLoop test body =>
      refine .whileTrue upholds.exhausted ?_ (parts body (by simp [Expr.parts])) rounds
      exact (parts test (by simp [Expr.parts])).bind fun _ =>
        .ofOperator fun _ failed => upholds.operator (Value.condition_fault failed)
    | block items => exact evalBlock_keeps parts .unit
    | ret e =>
      refine (parts e (by simp [Expr.parts])).bind fun value => ?_
      exact .throw (upholds.returned value)
    | raise e =>
      refine (parts e (by simp [Expr.parts])).bind fun value => ?_
      exact .throw (upholds.raised value)

end Expr

theorem Upholds.sound (scope : Scope) (binding : Binding) :
    Upholds scope.Has scope.Has binding (Frame.Sized scope) (Stop.Sound scope binding) where
  readParam := Run.readParam_safe
  writeParam := Run.writeParam_safe
  readLocal := Run.readLocal_safe
  writeLocal := Run.writeLocal_safe
  readCapture := Run.readCapture_safe
  writeCapture := Run.writeCapture_safe
  operator {fault} fails := by
    cases fault with
    | unboundCapture slot => exact fails.elim
    | _ => trivial
  raised _ := trivial
  returned _ := trivial
  exhausted := trivial

theorem Upholds.served (scope : Scope) (binding : Binding) :
    Upholds scope.Has scope.Has binding (fun _ => True) Stop.Served where
  readParam {index} _ frame _ := by
    unfold Run.readParam
    cases frame.params[index]? <;> trivial
  writeParam {index} _ value frame _ := by
    by_cases made : index < frame.params.length <;> simp [Run.writeParam, made, Stop.Served]
  readLocal {index} _ frame _ := by
    unfold Run.readLocal
    cases frame.locals[index]? <;> trivial
  writeLocal {index} _ value frame _ := by
    by_cases made : index < frame.locals.length <;> simp [Run.writeLocal, made, Stop.Served]
  readCapture {slot} _ frame _ := by
    unfold Run.readCapture
    cases binding[slot]? <;> trivial
  writeCapture {slot} _ value frame _ := by
    unfold Run.writeCapture
    cases binding[slot]? <;> trivial
  operator {fault} fails := by
    cases fault with
    | arity expected got => exact fails.elim
    | _ => trivial
  raised _ := trivial
  returned _ := trivial
  exhausted := trivial

/-! ## Calls -/

namespace Definition

theorem noStray (definition : Definition) :
    definition.body.stray? definition.draft.scope = none := by
  have sound := definition.sound
  unfold Draft.defect? at sound
  split at sound
  · simp at sound
  · have body := (orElse_eq_none_iff.mp (orElse_eq_none_iff.mp sound).2).2
    simpa [Definition.body] using body

variable (definition : Definition) (rounds : Nat) {args : List Value} {closure : Option Binding}

/-- A call with the right number of arguments ends as its body does, if its frame has room. -/
theorem interpret_keeps (store : Store) {holds : Frame → Prop} {allowed : Stop → Prop}
    (roomy : ¬ definition.Oversized)
    (upholds : Upholds definition.draft.scope.Has definition.draft.scope.Has (closure.getD []) holds
      allowed)
    (start : holds ⟨args, List.replicate definition.locals .unit, store⟩)
    (fits : args.length = definition.signature.arity) :
    match (definition.interpret rounds args closure store).outcome with
    | .value _ => True
    | .fault fault => allowed (.faulted fault)
    | .crash _ => allowed .missingSlot
    | .exhausted => allowed .exhausted := by
  have declared := Expr.stray?_eq_none.mp definition.noStray
  have assigned : ∀ place ∈ definition.body.assigned, definition.draft.scope.Has place :=
    fun place member => declared place (definition.body.assigned_subset_places member)
  have keeps := definition.body.eval_keeps upholds rounds declared assigned _ start
  simp only [interpret, fits, ne_eq, not_true_eq_false, ↓reduceIte,
    Run.onFrame_of_fits _ _ _ roomy]
  generalize definition.body.eval rounds (closure.getD []) _ = ended at keeps ⊢
  cases ended with
  | ok value after => cases definition.signature.isVoid <;> trivial
  | error stop after =>
    obtain ⟨stops, -⟩ := keeps
    cases stop with
    | returned value => cases definition.signature.isVoid <;> trivial
    | _ => cases definition.signature.isVoid <;> exact stops

/-- The frame in which a call starts has the slots that its function declares. -/
theorem sized_start (fits : args.length = definition.signature.arity) (store : Store) :
    Frame.Sized definition.draft.scope ⟨args, List.replicate definition.locals .unit, store⟩ :=
  ⟨fits, List.length_replicate⟩

theorem interpret_of_oversized (oversized : definition.Oversized)
    (fits : args.length = definition.signature.arity) (closure : Option Binding) (store : Store) :
    (definition.interpret rounds args closure store).outcome = .crash .frameOverflow := by
  simp only [interpret, fits, ne_eq, not_true_eq_false, ↓reduceIte,
    Run.onFrame_of_overflow _ _ _ oversized]
  cases definition.signature.isVoid <;> rfl

/-- An interpreted call crashes exactly if it is to run in a frame that has no room. -/
theorem interpret_crash_iff (args : List Value) (closure : Option Binding) (store : Store)
    (cause : Crash) :
    (definition.interpret rounds args closure store).outcome = .crash cause ↔
      cause = .frameOverflow ∧ args.length = definition.signature.arity ∧
        definition.Oversized := by
  by_cases fits : args.length = definition.signature.arity
  · by_cases oversized : definition.Oversized
    · rw [definition.interpret_of_oversized rounds oversized fits, Outcome.crash.injEq]
      exact ⟨fun same => ⟨same.symm, fits, oversized⟩, fun crashed => crashed.1.symm⟩
    · have sound := Upholds.sound definition.draft.scope (closure.getD [])
      have start := definition.sized_start fits store
      have ends := definition.interpret_keeps rounds store oversized sound start fits
      refine ⟨fun crashed => ?_, fun overflow => absurd overflow.2.2 oversized⟩
      rw [crashed] at ends
      exact ends.elim
  · simp [interpret, fits]

theorem interpret_arity (args : List Value) (closure : Option Binding) (store : Store)
    (expected got : Nat) :
    (definition.interpret rounds args closure store).outcome = .fault (.arity expected got) ↔
      args.length ≠ definition.signature.arity ∧ expected = definition.signature.arity ∧
        got = args.length := by
  constructor
  · intro refused
    by_cases fits : args.length = definition.signature.arity
    · by_cases oversized : definition.Oversized
      · rw [definition.interpret_of_oversized rounds oversized fits] at refused
        cases refused
      · have served := Upholds.served definition.draft.scope (closure.getD [])
        have ends := definition.interpret_keeps rounds store oversized served trivial fits
        rw [refused] at ends
        exact ends.elim
    · simp only [interpret, ne_eq, fits, not_false_eq_true, ↓reduceIte, Outcome.fault.injEq,
        Fault.arity.injEq] at refused
      exact ⟨fits, refused.1.symm, refused.2.symm⟩
  · rintro ⟨misfits, rfl, rfl⟩
    simp [interpret, misfits]

theorem captures_bound {definition : Definition} {closure : Option Binding}
    (closes : definition.checkClosure closure = .ok ()) :
    definition.captures.length ≤ (closure.getD []).length := by
  unfold checkClosure at closes
  split at closes
  · simp_all
  · simp_all
  · cases closes
  · split at closes
    · simp_all
    · cases closes

/-- With a closure that fits, an interpreted call never lacks a cell. -/
theorem interpret_ne_unbound (closes : definition.checkClosure closure = .ok ())
    (args : List Value) (store : Store) (slot : Nat) :
    (definition.interpret rounds args closure store).outcome ≠ .fault (.unboundCapture slot) := by
  intro unbound
  by_cases fits : args.length = definition.signature.arity
  · by_cases oversized : definition.Oversized
    · rw [definition.interpret_of_oversized rounds oversized fits] at unbound
      cases unbound
    · have sound := Upholds.sound definition.draft.scope (closure.getD [])
      have start := definition.sized_start fits store
      have ends := definition.interpret_keeps rounds store oversized sound start fits
      rw [unbound] at ends
      obtain ⟨inside, lacks⟩ := ends
      exact absurd (Nat.lt_of_lt_of_le inside (captures_bound closes)) (Nat.not_lt.mpr lacks)
  · simp [interpret, fits] at unbound

end Definition

end HotPath

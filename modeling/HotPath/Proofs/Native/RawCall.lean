import HotPath.Proofs.Native.ReferenceCode

/-!
Raw calls of uniform code, without an adapter. A caller lends boxes of its own in by-reference
positions. The code keeps those parameters in the boxes it was lent, where the interpreter keeps
them in plain slots, and leaves every other box alone.
-/

namespace HotPath

def Value.box? : Value → Option BoxId
  | .ref box => some box
  | _ => none

theorem Value.eq_ref_of_box? {value : Value} {box : BoxId} (isBox : value.box? = some box) :
    value = .ref box := by
  cases value with
  | ref other => exact congrArg Value.ref (Option.some.inj isBox)
  | _ => exact nomatch isBox

namespace Signature

/-- The box that is lent to a call in a by-reference position, if the caller passes
one there. -/
def lent (signature : Signature) (args : List Value) (index : Nat) : Option BoxId :=
  if signature.modes[index]? = some .byRef then args[index]?.bind Value.box? else none

/-- The boxes that are lent to a call have been made, and each is lent only once. -/
structure Lendable (signature : Signature) (args : List Value) (store : Store) : Prop where
  made : ∀ index box, signature.lent args index = some box → store.HasBox box
  once : ∀ first second box, signature.lent args first = some box →
    signature.lent args second = some box → first = second

/-- Arguments with every lent box replaced by what it holds. -/
def opened (signature : Signature) (store : Store) (args : List Value) : List Value :=
  args.mapIdx fun index arg => ((signature.lent args index).map store.readBox).getD arg

/-- A by-reference parameter for which no box was lent has none in its slot when it
is touched. -/
def NoForeignBox (signature : Signature) (args : List Value) (touch : Touch) : Prop :=
  signature.modes[touch.index]? = some .byRef → signature.lent args touch.index = none →
    touch.held.bind Value.box? = none

instance (signature : Signature) (args : List Value) (touch : Touch) :
    Decidable (signature.NoForeignBox args touch) :=
  inferInstanceAs (Decidable (_ → _))

variable {signature : Signature} {args : List Value} {store : Store} {index : Nat} {box : BoxId}

theorem byRef_of_lent (found : signature.lent args index = some box) :
    signature.modes[index]? = some .byRef := by
  unfold lent at found
  split at found
  · assumption
  · exact nomatch found

theorem getElem?_of_lent (found : signature.lent args index = some box) :
    args[index]? = some (.ref box) := by
  rw [lent, if_pos (byRef_of_lent found)] at found
  obtain ⟨value, passed, isBox⟩ := Option.bind_eq_some_iff.mp found
  rw [passed, Value.eq_ref_of_box? isBox]

@[simp] theorem length_opened : (signature.opened store args).length = args.length := by
  simp [opened]

theorem getElem?_opened_of_lent (found : signature.lent args index = some box) :
    (signature.opened store args)[index]? = some (store.readBox box) := by
  simp [opened, List.getElem?_mapIdx, found, getElem?_of_lent found]

theorem getElem?_opened_of_unlent (found : signature.lent args index = none) :
    (signature.opened store args)[index]? = args[index]? := by
  simp [opened, List.getElem?_mapIdx, found]

theorem accesses_uniform_index (arity : Nat) (returns : Bool) :
    signature.accesses (.uniform arity returns) index =
      if signature.modes[index]? = some .byRef then .boxedSlot index else .slot index := by
  rw [signature.accesses_uniform arity 0 returns]
  simp [Mirrors.access, Adapter.boxOf_isSome]

theorem selectShape_uniform {arity : Nat} {returns : Bool}
    (selected : signature.selectShape.shape = .uniform arity returns) :
    arity = signature.arity ∧ returns = !signature.isVoid := by
  rcases signature.selectShape_cases with ⟨direct, -⟩ | ⟨direct, -⟩ | uniform
  · rw [direct] at selected
    exact nomatch selected
  · rw [direct] at selected
    split at selected <;> exact nomatch selected
  · rw [uniform] at selected
    cases selected
    exact ⟨rfl, rfl⟩

theorem getElem?_writeBack {α : Type} {modes : List PassMode} {args finals : List α}
    (fits : args.length = modes.length) (whole : finals.length = modes.length) {index : Nat}
    (byRef : modes[index]? = some .byRef) :
    (writeBack modes args finals)[index]? = finals[index]? := by
  induction modes generalizing args finals index with
  | nil => exact nomatch byRef
  | cons mode modes ih =>
    obtain ⟨arg, args, rfl⟩ := List.exists_cons_of_length_eq_add_one fits
    obtain ⟨final, finals, rfl⟩ := List.exists_cons_of_length_eq_add_one whole
    have fewer : args.length = modes.length := Nat.succ.inj fits
    have others : finals.length = modes.length := Nat.succ.inj whole
    cases index with
    | zero =>
      obtain rfl : mode = .byRef := Option.some.inj byRef
      rfl
    | succ index =>
      have rest := ih fewer others (byRef : modes[index]? = some .byRef)
      cases mode <;> exact rest

end Signature

/-- Frames of an interpreted call on opened arguments and of a raw call on the
arguments themselves, which began on the memory `before`. -/
structure Lends (signature : Signature) (args : List Value) (before : Store)
    (plain passed : Frame) : Prop where
  arity : plain.params.length = args.length
  length : passed.params.length = args.length
  locals : passed.locals = plain.locals
  cells : passed.store.cells = plain.store.cells
  slot : ∀ index, signature.lent args index = none → passed.params[index]? = plain.params[index]?
  box : ∀ index box, signature.lent args index = some box →
    passed.params[index]? = some (.ref box)
  made : ∀ index box, signature.lent args index = some box → passed.store.HasBox box
  contents : ∀ index box, signature.lent args index = some box →
    plain.params[index]? = some (passed.store.readBox box)
  others : ∀ box, (∀ index, signature.lent args index ≠ some box) →
    passed.store.readBox box = before.readBox box

namespace Lends

variable {signature : Signature} {args : List Value} {before : Store} {plain passed : Frame}
  {arity : Nat} {returns : Bool}

theorem start (lendable : signature.Lendable args before) (locals : Nat) :
    Lends signature args before
      ⟨signature.opened before args, List.replicate locals .unit, before⟩
      ⟨args, List.replicate locals .unit, before⟩ where
  arity := Signature.length_opened
  length := rfl
  locals := rfl
  cells := rfl
  slot _ unlent := (Signature.getElem?_opened_of_unlent unlent).symm
  box _ _ found := Signature.getElem?_of_lent found
  made := lendable.made
  contents _ _ found := Signature.getElem?_opened_of_lent found
  others _ _ := rfl

theorem writeSlot (frames : Lends signature args before plain passed) {index : Nat}
    (unlent : signature.lent args index = none) (value : Value) :
    Lends signature args before { plain with params := plain.params.set index value }
      { passed with params := passed.params.set index value } where
  arity := by simpa using frames.arity
  length := by simpa using frames.length
  locals := frames.locals
  cells := frames.cells
  slot other free := by
    simp only [List.getElem?_set, frames.slot other free, frames.length, frames.arity]
  box other box found := by
    have apart : index ≠ other := by rintro rfl; simp [unlent] at found
    rw [List.getElem?_set_ne apart]
    exact frames.box other box found
  made := frames.made
  contents other box found := by
    have apart : index ≠ other := by rintro rfl; simp [unlent] at found
    rw [List.getElem?_set_ne apart]
    exact frames.contents other box found
  others := frames.others

theorem writeBox (frames : Lends signature args before plain passed)
    (lendable : signature.Lendable args before) {index : Nat} {box : BoxId}
    (found : signature.lent args index = some box) (value : Value) :
    Lends signature args before { plain with params := plain.params.set index value }
      { passed with store := passed.store.writeBox box value } where
  arity := by simpa using frames.arity
  length := frames.length
  locals := frames.locals
  cells := by simpa using frames.cells
  slot other free := by
    have apart : index ≠ other := by rintro rfl; simp [found] at free
    rw [List.getElem?_set_ne apart]
    exact frames.slot other free
  box := frames.box
  made other its owned := by simpa using frames.made other its owned
  contents other its owned := by
    by_cases same : index = other
    · subst other
      obtain rfl : box = its := Option.some.inj (found.symm.trans owned)
      have present := (List.getElem?_eq_some_iff.mp (frames.contents index box found)).1
      rw [Store.readBox_writeBox_self (frames.made index box found), List.getElem?_set_self present]
    · have apart : box ≠ its := by
        rintro rfl
        exact same (lendable.once index other box found owned)
      rw [List.getElem?_set_ne same, Store.readBox_writeBox_of_ne _ apart]
      exact frames.contents other its owned
  others other foreign := by
    have apart : box ≠ other := by
      rintro rfl
      exact foreign index found
    rw [Store.readBox_writeBox_of_ne _ apart]
    exact frames.others other foreign

theorem writeCell (frames : Lends signature args before plain passed) (cell : CellId)
    (value : Value) :
    Lends signature args before { plain with store := plain.store.writeCell cell value }
      { passed with store := passed.store.writeCell cell value } where
  arity := frames.arity
  length := frames.length
  locals := frames.locals
  cells := by simp only [Store.writeCell, frames.cells]
  slot := frames.slot
  box := frames.box
  made := frames.made
  contents := frames.contents
  others := frames.others

theorem noForeignBox (frames : Lends signature args before plain passed) {index : Nat}
    (unlent : signature.lent args index = none)
    (fine : signature.NoForeignBox args (plain.touch index)) :
    signature.modes[index]? = some .byRef → ∀ box, passed.params[index]? ≠ some (.ref box) := by
  intro byRef box holds
  have empty : plain.params[index]?.bind Value.box? = none := fine byRef unlent
  rw [← frames.slot index unlent, holds] at empty
  exact nomatch empty

private theorem readParam (binding : Binding) (index : Nat) :
    Run.SimulatesOn (signature.NoForeignBox args) (Lends signature args before)
      (fun frame => [frame.touch index]) (Run.readParam index)
      ((signature.accesses (.uniform arity returns) index).load binding) := by
  intro plain passed frames allowed
  rw [Signature.accesses_uniform_index]
  cases found : signature.lent args index with
  | some box =>
    simp only [Signature.byRef_of_lent found, ↓reduceIte, Run.readParam,
      frames.contents index box found, Access.load_boxedSlot (frames.box index box found)]
    exact .ok _ frames
  | none =>
    -- Code looks for a box in a by-reference slot at run time, and finds none.
    have noBox := frames.noForeignBox found (allowed _ (List.mem_singleton_self _))
    have loaded : (if signature.modes[index]? = some .byRef then Access.boxedSlot index
        else .slot index).load binding passed = Run.readParam index passed := by
      split
      · exact Access.load_boxedSlot_of_plain (noBox ‹_›)
      · rfl
    rw [loaded]
    exact .readParam frames (frames.slot index found)

private theorem writeParam (lendable : signature.Lendable args before) (binding : Binding)
    (index : Nat) (value : Value) :
    Run.SimulatesOn (signature.NoForeignBox args) (Lends signature args before)
      (fun frame => [frame.touch index]) (Run.writeParam index value)
      ((signature.accesses (.uniform arity returns) index).store binding value) := by
  intro plain passed frames allowed
  rw [Signature.accesses_uniform_index]
  cases found : signature.lent args index with
  | some box =>
    have present : index < plain.params.length :=
      (List.getElem?_eq_some_iff.mp (frames.contents index box found)).1
    simp only [Signature.byRef_of_lent found, ↓reduceIte, Run.writeParam, present,
      Access.store_boxedSlot (frames.box index box found)]
    exact .ok () (frames.writeBox lendable found value)
  | none =>
    have noBox := frames.noForeignBox found (allowed _ (List.mem_singleton_self _))
    have stored : (if signature.modes[index]? = some .byRef then Access.boxedSlot index
        else .slot index).store binding value passed = Run.writeParam index value passed := by
      split
      · exact Access.store_boxedSlot_of_plain (noBox ‹_›) value
      · rfl
    rw [stored]
    exact .writeParam frames (frames.length.trans frames.arity.symm)
      (frames.writeSlot found value)

/-- Every place in scope is reached alike as long as no parameter meets a foreign box. -/
theorem sameAccess (lendable : signature.Lendable args before) {scope : Scope}
    {binding binding' : Binding}
    (sameCells : ∀ slot, scope.Has (.capture slot) → binding'[slot]? = binding[slot]?) :
    SameAccessOn (signature.NoForeignBox args) (Lends signature args before) scope binding binding'
      (signature.accesses (.uniform arity returns)) where
  readParam index _ := readParam binding' index
  writeParam index _ value := writeParam lendable binding' index value
  readLocal := .readLocal fun _ _ frames => frames.locals
  writeLocal := .writeLocal (fun _ _ frames => frames.locals)
    fun _ _ frames _ => { frames with locals := rfl }
  readCapture slot inside := .readCapture (sameCells slot inside)
    fun _ _ frames cell => by simp only [Store.readCell, frames.cells]
  writeCapture slot inside value := .writeCapture (sameCells slot inside)
    fun _ _ frames cell => frames.writeCell cell value

end Lends

/-- A raw call does what an interpreted call on opened arguments does. What the latter
writes back is in the lent boxes, and nothing has happened to any other box. -/
structure Mimics (lent : Nat → Option BoxId) (before : Store) (interpreted compiled : Reply) :
    Prop where
  outcome : compiled.outcome = interpreted.outcome
  cells : compiled.store.cells = interpreted.store.cells
  writtenBack : ∀ index box, lent index = some box →
    interpreted.slots[index]? = some (compiled.store.readBox box)
  others : ∀ box, (∀ index, lent index ≠ some box) →
    compiled.store.readBox box = before.readBox box

namespace Definition

variable {definition : Definition} {closure : Option Binding} {binding : Binding}
  {args : List Value} {store : Store}

theorem native_mimics {arity : Nat} {returns : Bool}
    (selected : definition.signature.selectShape.shape = .uniform arity returns)
    (sameCells : definition.SameCells (closure.getD []) binding)
    (fits : args.length = definition.signature.arity)
    (lendable : definition.signature.Lendable args store) (rounds : Nat)
    (fine : ∀ touch ∈ definition.touches rounds (definition.signature.opened store args) closure
      store, definition.signature.NoForeignBox args touch) :
    Mimics (definition.signature.lent args) store
      (definition.interpret rounds (definition.signature.opened store args) closure store)
      ((definition.native binding).callRaw rounds args store) := by
  have access : SameAccessOn (definition.signature.NoForeignBox args)
      (Lends definition.signature args store) definition.draft.scope (closure.getD []) binding
      (definition.signature.accesses (.uniform arity returns)) :=
    Lends.sameAccess lendable sameCells
  -- The two runs stay alike as long as the interpreted one writes no box of the caller.
  have start := Lends.start lendable definition.locals
  obtain ⟨outcome, left, right, frames, plain, passed⟩ := Run.onFrame_alike start
    fun (roomy : ¬ definition.Oversized) =>
      definition.body.lower_simulatesOn access rounds definition.noStray _ _ start (by
        rwa [touches, if_neg roomy] at fine)
  have interpreted : definition.interpret rounds (definition.signature.opened store args) closure
      store = ⟨if definition.signature.isVoid then outcome.map fun _ => .unit else outcome,
        Signature.writeBack definition.signature.modes (definition.signature.opened store args)
          left.params, left.store⟩ := by
    simp only [interpret, Signature.length_opened, fits, ne_eq, not_true_eq_false, ↓reduceIte,
      plain]
  have compiled : (definition.native binding).callRaw rounds args store =
      ⟨if definition.signature.isVoid then outcome.map fun _ => .unit else outcome, args,
        right.store⟩ := by
    obtain ⟨-, rfl⟩ := Signature.selectShape_uniform selected
    simp only [native, procedure, selected, Procedure.entryPoint, NativeFn.callRaw, Procedure.run,
      passed]
    cases definition.signature.isVoid <;> rfl
  rw [interpreted, compiled]
  refine ⟨rfl, frames.cells, fun index box found => ?_, frames.others⟩
  have declared : args.length = definition.signature.modes.length :=
    fits.trans definition.signature.length_modes.symm
  rw [Signature.getElem?_writeBack (Signature.length_opened.trans declared)
    (frames.arity.trans declared) (Signature.byRef_of_lent found)]
  exact frames.contents index box found

/-- A raw call of uniform code mimics an interpreted call on opened arguments, under every
allowance of loop tests under which the latter meets no foreign box. -/
theorem raw_call_mimics (definition : Definition) {arity : Nat} {returns : Bool}
    (selected : definition.signature.selectShape.shape = .uniform arity returns)
    {closure : Option Binding} (bound : closure = none → definition.hasClosure = false)
    {args : List Value} (fits : args.length = definition.signature.arity) {store : Store}
    (lendable : definition.signature.Lendable args store) :
    (∃ code, definition.generated (Compiler.reference none) = .ok code) ∧
      ∀ nodeLimit code, definition.generated (Compiler.reference nodeLimit) = .ok code →
        ∃ native, code.entryPoint? closure = some native ∧
          ∀ rounds,
            (∀ touch ∈ definition.touches rounds (definition.signature.opened store args) closure
              store, definition.signature.NoForeignBox args touch) →
            Mimics (definition.signature.lent args) store
              (definition.interpret rounds (definition.signature.opened store args) closure store)
              (native.callRaw rounds args store) ∧
            ∀ cause, (native.callRaw rounds args store).outcome = .crash cause ↔
              cause = .frameOverflow ∧ definition.Oversized := by
  refine ⟨⟨_, definition.generated_reference⟩, ?_⟩
  intro nodeLimit code published
  obtain rfl := generated_faithful (Compiler.faithful_reference nodeLimit) published
  obtain ⟨binding, sameCells, entryPoint⟩ := entryPoint?_referenceCode bound
  refine ⟨_, entryPoint, ?_⟩
  intro rounds fine
  have mimics := native_mimics selected sameCells fits lendable rounds fine
  refine ⟨mimics, ?_⟩
  intro cause
  rw [mimics.outcome, definition.interpret_crash_iff, Signature.length_opened]
  simp only [fits, true_and]

/-- A function that adds a step to a total, makes the total the next step and hands back
twice the total. -/
def accumulate : Definition where
  id := 0
  draft := {
    name := "accumulate"
    signature := ⟨[⟨"total", .byRef⟩, ⟨"step", .byRef⟩], .value⟩
    captures := []
    locals := 0
    body := .block [
      .writeParam 0 (.binary .add (.readParam 0) (.readParam 1)),
      .writeParam 1 (.readParam 0),
      .binary .mul (.readParam 0) (.const (.int 2))] }
  sound := by decide

/-- A caller that lends a box for the total and passes a plain step. -/
theorem raw_call_mimics_accumulate :
    let args : List Value := [.ref (.host 0), .int 5]
    let store : Store := { hostBoxes := #[.int 10] }
    accumulate.signature.selectShape.shape = .uniform 2 true ∧
      ((none : Option Binding) = none → accumulate.hasClosure = false) ∧
      args.length = accumulate.signature.arity ∧
      accumulate.signature.Lendable args store ∧
      (∀ touch ∈ accumulate.touches 1 (accumulate.signature.opened store args) none store,
        accumulate.signature.NoForeignBox args touch) ∧
      ∃ native, accumulate.referenceCode.entryPoint? none = some native ∧
        (native.callRaw 1 args store).outcome = .value (.int 30) ∧
        (native.callRaw 1 args store).store.readBox (.host 0) = .int 15 := by
  intro args store
  have lends : ∀ index box, accumulate.signature.lent args index = some box →
      index = 0 ∧ box = .host 0 := by
    intro index box found
    match index with
    | 0 => exact ⟨rfl, (Option.some.inj found).symm⟩
    | 1 => exact nomatch found
    | _ + 2 => exact nomatch found
  have lendable : accumulate.signature.Lendable args store := by
    constructor
    · intro index box found
      obtain ⟨-, rfl⟩ := lends index box found
      decide
    · intro first second box one other
      exact (lends first box one).1.trans (lends second box other).1.symm
  have selected : accumulate.signature.selectShape.shape = .uniform 2 true := rfl
  have bound : (none : Option Binding) = none → accumulate.hasClosure = false := fun _ => rfl
  have fits : args.length = accumulate.signature.arity := rfl
  have fine : ∀ touch ∈ accumulate.touches 1 (accumulate.signature.opened store args) none store,
      accumulate.signature.NoForeignBox args touch := by decide
  obtain ⟨_, raw⟩ := raw_call_mimics accumulate selected bound fits lendable
  obtain ⟨native, entryPoint, mimics⟩ := raw none _ accumulate.generated_reference
  obtain ⟨same, -⟩ := mimics 1 fine
  exact ⟨selected, bound, fits, lendable, fine, native, entryPoint, same.outcome,
    (Option.some.inj (same.writtenBack 0 _ rfl)).symm⟩

/-- A function that puts its second argument into its first, and then a number. -/
def relay : Definition where
  id := 0
  draft := {
    name := "relay"
    signature := ⟨[⟨"target", .byRef⟩, ⟨"source", .byValue⟩], .value⟩
    captures := []
    locals := 0
    body := .block [.writeParam 0 (.readParam 1), .writeParam 0 (.const (.int 7))] }
  sound := by decide

/-- Once the first slot of `relay` holds the box that came by value, compiled code puts the
number into that box, which nobody lent. -/
theorem relay_reaches_foreign_box :
    let args : List Value := [.int 1, .ref (.host 0)]
    let store : Store := { hostBoxes := #[.int 10] }
    relay.signature.selectShape.shape = .uniform 2 true ∧ relay.hasClosure = false ∧
      args.length = relay.signature.arity ∧
      relay.signature.Lendable args store ∧
      ∃ code native, relay.generated (Compiler.reference none) = .ok code ∧
        code.entryPoint? none = some native ∧
        ∀ rounds, ¬ Mimics (relay.signature.lent args) store
          (relay.interpret rounds (relay.signature.opened store args) none store)
          (native.callRaw rounds args store) := by
  intro args store
  have nothing : ∀ index box, relay.signature.lent args index ≠ some box := by
    intro index box found
    match index with
    | 0 => exact nomatch found
    | 1 => exact nomatch found
    | _ + 2 => exact nomatch found
  have lendable : relay.signature.Lendable args store :=
    ⟨fun index box found => absurd found (nothing index box),
      fun first _ box found => absurd found (nothing first box)⟩
  refine ⟨rfl, rfl, rfl, lendable, _, _, relay.generated_reference, rfl, ?_⟩
  intro rounds mimics
  have kept : Value.int 7 = .int 10 := mimics.others (.host 0) fun index => nothing index _
  injection kept with numbers
  exact absurd numbers (by decide)

end Definition

end HotPath

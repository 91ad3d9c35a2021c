import HotPath.Native.Entry
import HotPath.Proofs.Lang.Simulation

/-!
By-reference arguments in boxes. While a call runs, a plain slot of the interpreter and a frame box
of compiled code stand for the same argument; at the end the box is emptied into the slot.
-/

namespace HotPath

/-- Two stores that a host cannot tell apart: they differ in boxes of frames only. -/
structure Store.Alike (first second : Store) : Prop where
  cells : second.cells = first.cells
  hostBoxes : second.hostBoxes = first.hostBoxes

namespace Store

theorem Alike.refl (store : Store) : store.Alike store := ⟨rfl, rfl⟩

theorem Alike.symm {first second : Store} (alike : first.Alike second) : second.Alike first :=
  ⟨alike.cells.symm, alike.hostBoxes.symm⟩

theorem Alike.trans {first second third : Store} (alike : first.Alike second)
    (next : second.Alike third) : first.Alike third :=
  ⟨next.cells.trans alike.cells, next.hostBoxes.trans alike.hostBoxes⟩

theorem Alike.readCell {first second : Store} (alike : first.Alike second) (cell : CellId) :
    second.readCell cell = first.readCell cell := by
  simp only [Store.readCell, alike.cells]

theorem Alike.writeCell {first second : Store} (alike : first.Alike second) (cell : CellId)
    (value : Value) : (first.writeCell cell value).Alike (second.writeCell cell value) :=
  ⟨by simp only [Store.writeCell, alike.cells], alike.hostBoxes⟩

theorem Alike.newCell {first second : Store} (alike : first.Alike second) (value : Value) :
    (first.newCell value).2.Alike (second.newCell value).2 :=
  ⟨by simp only [Store.newCell, alike.cells], alike.hostBoxes⟩

theorem Alike.newHostBox {first second : Store} (alike : first.Alike second) (value : Value) :
    (first.newHostBox value).2.Alike (second.newHostBox value).2 :=
  ⟨alike.cells, by simp only [Store.newHostBox, alike.hostBoxes]⟩

theorem Alike.writeBox {first second : Store} (alike : first.Alike second) (box : BoxId)
    (value : Value) : (first.writeBox box value).Alike (second.writeBox box value) := by
  cases box with
  | host index => exact ⟨alike.cells, by simp only [Store.writeBox, alike.hostBoxes]⟩
  | frame index => exact ⟨alike.cells, alike.hostBoxes⟩

theorem alike_writeFrameBox (store : Store) (index : Nat) (value : Value) :
    store.Alike (store.writeBox (.frame index) value) := ⟨rfl, rfl⟩

@[simp] theorem frameBoxes_size_writeBox (store : Store) (index : Nat) (value : Value) :
    (store.writeBox (.frame index) value).frameBoxes.size = store.frameBoxes.size := by
  simp [writeBox]

end Store

namespace Adapter

/-- The frame box in which the argument at a position travels, if it is passed by
reference; the boxes of a call are numbered on from `base`. -/
def boxOf (base : Nat) : List PassMode → Nat → Option Nat
  | [], _ => none
  | .byValue :: _, 0 => none
  | .byRef :: _, 0 => some base
  | .byValue :: modes, index + 1 => boxOf base modes index
  | .byRef :: modes, index + 1 => boxOf (base + 1) modes index

theorem boxOf_isSome (base : Nat) (modes : List PassMode) (index : Nat) :
    (boxOf base modes index).isSome = (modes[index]? == some .byRef) := by
  induction modes generalizing base index with
  | nil => simp [boxOf]
  | cons mode modes ih =>
    cases index with
    | zero => cases mode <;> rfl
    | succ index => cases mode <;> simpa [boxOf] using ih _ index

theorem le_of_boxOf {base made index : Nat} {modes : List PassMode}
    (boxed : boxOf base modes index = some made) : base ≤ made := by
  induction modes generalizing base index with
  | nil => simp [boxOf] at boxed
  | cons mode modes ih =>
    cases index with
    | zero => cases mode <;> simp_all [boxOf]
    | succ index =>
      cases mode with
      | byValue => exact ih boxed
      | byRef => exact Nat.le_of_succ_le (ih boxed)

theorem boxOf_injective {base made first second : Nat} {modes : List PassMode}
    (one : boxOf base modes first = some made) (other : boxOf base modes second = some made) :
    first = second := by
  induction modes generalizing base first second with
  | nil => simp [boxOf] at one
  | cons mode modes ih =>
    cases mode with
    | byValue =>
      cases first with
      | zero => simp [boxOf] at one
      | succ first =>
        cases second with
        | zero => simp [boxOf] at other
        | succ second => exact congrArg (· + 1) (ih one other)
    | byRef =>
      cases first with
      | zero =>
        cases second with
        | zero => rfl
        | succ second =>
          have later : base + 1 ≤ made := le_of_boxOf (show boxOf _ modes second = _ from other)
          have start : base = made := Option.some.inj one
          omega
      | succ first =>
        cases second with
        | zero =>
          have later : base + 1 ≤ made := le_of_boxOf (show boxOf _ modes first = _ from one)
          have start : base = made := Option.some.inj other
          omega
        | succ second => exact congrArg (· + 1) (ih one other)

end Adapter

/-- The slots and memory of an interpreted call beside those of a compiled one. A
slot with a box holds that box, whose contents the plain slot holds. -/
structure Boxed (boxes : Nat → Option Nat) (plain : List Value) (memory : Store)
    (passed : List Value) (store : Store) : Prop where
  alike : memory.Alike store
  length : passed.length = plain.length
  slot : ∀ index, boxes index = none → passed[index]? = plain[index]?
  box : ∀ index made, boxes index = some made → passed[index]? = some (.ref (.frame made))
  made : ∀ index made, boxes index = some made → made < store.frameBoxes.size
  contents : ∀ index made, boxes index = some made →
    plain[index]? = some (store.readBox (.frame made))

namespace Boxed

variable {boxes : Nat → Option Nat} {plain passed : List Value} {memory store : Store}

theorem writeSlot (boxed : Boxed boxes plain memory passed store) {index : Nat}
    (unboxed : boxes index = none) (value : Value) :
    Boxed boxes (plain.set index value) memory (passed.set index value) store where
  alike := boxed.alike
  length := by simp [boxed.length]
  slot other free := by simp only [List.getElem?_set, boxed.length, boxed.slot other free]
  box other made found := by
    have apart : index ≠ other := by rintro rfl; simp [unboxed] at found
    rw [List.getElem?_set_ne apart]
    exact boxed.box other made found
  made := boxed.made
  contents other made found := by
    have apart : index ≠ other := by rintro rfl; simp [unboxed] at found
    rw [List.getElem?_set_ne apart]
    exact boxed.contents other made found

theorem writeBox (boxed : Boxed boxes plain memory passed store)
    (injective : ∀ first second made, boxes first = some made → boxes second = some made →
      first = second)
    {index made : Nat} (found : boxes index = some made) (value : Value) :
    Boxed boxes (plain.set index value) memory passed (store.writeBox (.frame made) value) where
  alike := boxed.alike.trans (store.alike_writeFrameBox made value)
  length := by simp [boxed.length]
  slot other free := by
    have apart : index ≠ other := by rintro rfl; simp [found] at free
    rw [List.getElem?_set_ne apart]
    exact boxed.slot other free
  box := boxed.box
  made other its owned := by simpa using boxed.made other its owned
  contents other its owned := by
    by_cases same : index = other
    · subst other
      obtain rfl : made = its := Option.some.inj (found.symm.trans owned)
      have present : index < plain.length := by
        have held := boxed.contents index made found
        exact (List.getElem?_eq_some_iff.mp held).1
      have owns : store.HasBox (.frame made) := boxed.made index made found
      rw [Store.readBox_writeBox_self owns, List.getElem?_set_self present]
    · have apart : BoxId.frame made ≠ .frame its := by
        rintro ⟨⟩
        exact same (injective index other made found owned)
      rw [List.getElem?_set_ne same, Store.readBox_writeBox_of_ne store apart]
      exact boxed.contents other its owned

theorem writeCell (boxed : Boxed boxes plain memory passed store) (cell : CellId)
    (value : Value) :
    Boxed boxes plain (memory.writeCell cell value) passed (store.writeCell cell value) where
  alike := boxed.alike.writeCell cell value
  length := boxed.length
  slot := boxed.slot
  box := boxed.box
  made := boxed.made
  contents := boxed.contents

/-- Without boxes the slots are the same on both sides. -/
theorem ofAlike (alike : memory.Alike store) (unboxed : ∀ index, boxes index = none) :
    Boxed boxes plain memory plain store where
  alike := alike
  length := rfl
  slot _ _ := rfl
  box index made found := by simp [unboxed] at found
  made index made found := by simp [unboxed] at found
  contents index made found := by simp [unboxed] at found

theorem ofMemory {earlier : Store} (alike : earlier.Alike memory)
    (boxed : Boxed boxes plain memory passed store) : Boxed boxes plain earlier passed store :=
  ⟨alike.trans boxed.alike, boxed.length, boxed.slot, boxed.box, boxed.made, boxed.contents⟩

/-! One argument more in front, by value or by reference. -/

variable {base : Nat} {modes : List PassMode} {value : Value}

theorem consValue (boxed : Boxed (Adapter.boxOf base modes) plain memory passed store) :
    Boxed (Adapter.boxOf base (.byValue :: modes)) (value :: plain) memory (value :: passed)
      store where
  alike := boxed.alike
  length := congrArg (· + 1) boxed.length
  slot index free := by
    cases index with
    | zero => rfl
    | succ index => exact boxed.slot index free
  box index made found := by
    cases index with
    | zero => simp [Adapter.boxOf] at found
    | succ index => exact boxed.box index made found
  made index made found := by
    cases index with
    | zero => simp [Adapter.boxOf] at found
    | succ index => exact boxed.made index made found
  contents index made found := by
    cases index with
    | zero => simp [Adapter.boxOf] at found
    | succ index => exact boxed.contents index made found

theorem consRef (boxed : Boxed (Adapter.boxOf (base + 1) modes) plain memory passed store)
    (made : base < store.frameBoxes.size) :
    Boxed (Adapter.boxOf base (.byRef :: modes)) (store.readBox (.frame base) :: plain) memory
      (.ref (.frame base) :: passed) store where
  alike := boxed.alike
  length := congrArg (· + 1) boxed.length
  slot index free := by
    cases index with
    | zero => simp [Adapter.boxOf] at free
    | succ index => exact boxed.slot index free
  box index made found := by
    cases index with
    | zero => cases Option.some.inj found; rfl
    | succ index => exact boxed.box index made found
  made index its found := by
    cases index with
    | zero => exact Option.some.inj found ▸ made
    | succ index => exact boxed.made index its found
  contents index made found := by
    cases index with
    | zero => cases Option.some.inj found; rfl
    | succ index => exact boxed.contents index made found

theorem tailValue {value' : Value}
    (boxed : Boxed (Adapter.boxOf base (.byValue :: modes)) (value :: plain) memory
      (value' :: passed) store) :
    Boxed (Adapter.boxOf base modes) plain memory passed store where
  alike := boxed.alike
  length := Nat.succ.inj boxed.length
  slot index free := boxed.slot (index + 1) free
  box index made found := boxed.box (index + 1) made found
  made index made found := boxed.made (index + 1) made found
  contents index made found := boxed.contents (index + 1) made found

theorem tailRef {value' : Value}
    (boxed : Boxed (Adapter.boxOf base (.byRef :: modes)) (value :: plain) memory
      (value' :: passed) store) :
    Boxed (Adapter.boxOf (base + 1) modes) plain memory passed store where
  alike := boxed.alike
  length := Nat.succ.inj boxed.length
  slot index free := boxed.slot (index + 1) free
  box index made found := boxed.box (index + 1) made found
  made index made found := boxed.made (index + 1) made found
  contents index made found := boxed.contents (index + 1) made found

/-- Emptying a box made before those of the remaining arguments leaves these alone. -/
theorem emptyEarlier (boxed : Boxed (Adapter.boxOf (base + 1) modes) plain memory passed store) :
    Boxed (Adapter.boxOf (base + 1) modes) plain memory passed
      (store.writeBox (.frame base) .unit) where
  alike := boxed.alike.trans (store.alike_writeFrameBox base .unit)
  length := boxed.length
  slot := boxed.slot
  box := boxed.box
  made index made found := by simpa using boxed.made index made found
  contents index made found := by
    have later := Adapter.le_of_boxOf found
    have apart : BoxId.frame base ≠ .frame made := by
      rintro ⟨⟩
      omega
    rw [Store.readBox_writeBox_of_ne store apart]
    exact boxed.contents index made found

end Boxed

namespace Adapter

theorem boxArgs_frameBoxes (store : Store) (modes : List PassMode) (args : List Value) :
    ∃ made : Array Value, (boxArgs store modes args).2 =
      { store with frameBoxes := store.frameBoxes ++ made } := by
  induction modes generalizing store args with
  | nil => exact ⟨#[], by simp [boxArgs]⟩
  | cons mode modes ih =>
    cases args with
    | nil => exact ⟨#[], by cases mode <;> simp [boxArgs]⟩
    | cons arg args =>
      cases mode with
      | byValue => exact ih store args
      | byRef =>
        obtain ⟨made, rest⟩ := ih (store.newFrameBox arg).2 args
        refine ⟨#[arg] ++ made, ?_⟩
        simp only [boxArgs, rest]
        simp only [Store.newFrameBox, Array.push_eq_append, Array.append_assoc]

theorem boxArgs_boxed (store : Store) (modes : List PassMode) (args : List Value)
    (fits : args.length = modes.length) :
    Boxed (boxOf store.frameBoxes.size modes) args store (boxArgs store modes args).1
      (boxArgs store modes args).2 := by
  induction modes generalizing store args with
  | nil =>
    obtain rfl : args = [] := List.length_eq_zero_iff.mp fits
    exact .ofAlike (.refl store) fun index => by simp [boxOf]
  | cons mode modes ih =>
    cases args with
    | nil => simp at fits
    | cons arg args =>
      have rest : args.length = modes.length := Nat.succ.inj fits
      cases mode with
      | byValue => exact (ih store args rest).consValue
      | byRef =>
        have size : (store.newFrameBox arg).2.frameBoxes.size = store.frameBoxes.size + 1 := by
          simp [Store.newFrameBox]
        have alike : store.Alike (store.newFrameBox arg).2 := ⟨rfl, rfl⟩
        have tail := ih (store.newFrameBox arg).2 args rest
        obtain ⟨made, after⟩ := boxArgs_frameBoxes (store.newFrameBox arg).2 modes args
        rw [after, size] at tail
        have whole := (tail.ofMemory alike).consRef (by simp [size]; omega)
        have holds : Store.readBox { (store.newFrameBox arg).2 with
            frameBoxes := (store.newFrameBox arg).2.frameBoxes ++ made }
            (.frame store.frameBoxes.size) = arg := by
          simp [Store.newFrameBox, Store.readBox, Array.getElem?_append]
        rw [holds, ← after] at whole
        exact whole

/-- Emptying the boxes that were sent puts what the interpreter would write back
into the slots. -/
theorem unboxArgs_eq {base : Nat} {modes : List PassMode} {args plain passed slots : List Value}
    {before memory sender store : Store}
    (sent : Boxed (boxOf base modes) args before passed sender)
    (boxed : Boxed (boxOf base modes) plain memory slots store)
    (fits : args.length = modes.length) (whole : plain.length = modes.length) :
    (unboxArgs store modes passed args).1 = Signature.writeBack modes args plain ∧
      memory.Alike (unboxArgs store modes passed args).2 := by
  induction modes generalizing base args plain passed slots store with
  | nil =>
    obtain rfl : args = [] := List.length_eq_zero_iff.mp fits
    exact ⟨rfl, boxed.alike⟩
  | cons mode modes ih =>
    obtain ⟨arg, args, rfl⟩ := List.exists_cons_of_length_eq_add_one fits
    obtain ⟨value, plain, rfl⟩ := List.exists_cons_of_length_eq_add_one whole
    obtain ⟨sending, passed, rfl⟩ := List.exists_cons_of_length_eq_add_one sent.length
    obtain ⟨slot, slots, rfl⟩ := List.exists_cons_of_length_eq_add_one boxed.length
    have fewer : args.length = modes.length := Nat.succ.inj fits
    have others : plain.length = modes.length := Nat.succ.inj whole
    cases mode with
    | byValue =>
      obtain ⟨rest, alike⟩ := ih sent.tailValue boxed.tailValue fewer others
      exact ⟨by simp only [unboxArgs, Signature.writeBack, rest], alike⟩
    | byRef =>
      obtain rfl : sending = .ref (.frame base) := Option.some.inj (sent.box 0 base rfl)
      obtain rfl : value = store.readBox (.frame base) :=
        Option.some.inj (boxed.contents 0 base rfl)
      obtain ⟨rest, alike⟩ := ih sent.tailRef boxed.tailRef.emptyEarlier fewer others
      exact ⟨by simp only [unboxArgs, Signature.writeBack, Store.takeBox, rest], alike⟩

end Adapter

/-! A boxed parameter is reached through the box in its slot, and as a plain one without a box. -/

namespace Access

variable {binding : Binding} {frame : Frame} {index : Nat}

theorem load_boxedSlot {box : BoxId} (holds : frame.params[index]? = some (.ref box)) :
    (boxedSlot index).load binding frame = .ok (frame.store.readBox box) frame := by
  simp only [load, Run.readParam, Bind.bind, EStateM.bind, holds, Run.readBox]

theorem store_boxedSlot {box : BoxId} (holds : frame.params[index]? = some (.ref box))
    (value : Value) :
    (boxedSlot index).store binding value frame =
      .ok () { frame with store := frame.store.writeBox box value } := by
  simp only [store, Run.readParam, Bind.bind, EStateM.bind, holds, Run.writeBox]

theorem load_boxedSlot_of_plain (plain : ∀ box, frame.params[index]? ≠ some (.ref box)) :
    (boxedSlot index).load binding frame = Run.readParam index frame := by
  simp only [load, Run.readParam, Bind.bind, EStateM.bind]
  cases held : frame.params[index]? with
  | none => rfl
  | some value =>
    cases value with
    | ref box => exact absurd held (plain box)
    | _ => rfl

theorem store_boxedSlot_of_plain (plain : ∀ box, frame.params[index]? ≠ some (.ref box))
    (value : Value) :
    (boxedSlot index).store binding value frame = Run.writeParam index value frame := by
  simp only [store, Run.readParam, Bind.bind, EStateM.bind]
  cases held : frame.params[index]? with
  | none => simp [Run.writeParam, List.getElem?_eq_none_iff.mp held]
  | some value =>
    cases value with
    | ref box => exact absurd held (plain box)
    | _ => rfl

end Access

/-- Frames of an interpreted and a compiled run of one body. -/
structure Mirrors (arity : Nat) (boxes : Nat → Option Nat) (plain boxed : Frame) : Prop where
  arity : plain.params.length = arity
  locals : boxed.locals = plain.locals
  params : Boxed boxes plain.params plain.store boxed.params boxed.store

namespace Mirrors

variable {arity : Nat} {boxes : Nat → Option Nat}

def access (boxes : Nat → Option Nat) (index : Nat) : Access :=
  if (boxes index).isSome then .boxedSlot index else .slot index

private theorem readParam (binding : Binding) (index : Nat) :
    Run.Simulates (Mirrors arity boxes) (Run.readParam index)
      ((access boxes index).load binding) := by
  intro plain boxed frames
  cases found : boxes index with
  | none =>
    simp only [access, found, Option.isSome_none, Bool.false_eq_true, ↓reduceIte, Access.load]
    exact .readParam frames (frames.params.slot index found)
  | some made =>
    simp only [access, found, Option.isSome_some, ↓reduceIte, Run.readParam,
      Access.load_boxedSlot (frames.params.box index made found),
      frames.params.contents index made found]
    exact .ok _ frames

private theorem writeParam (injective : ∀ first second made,
      boxes first = some made → boxes second = some made → first = second)
    (binding : Binding) (index : Nat) (value : Value) :
    Run.Simulates (Mirrors arity boxes) (Run.writeParam index value)
      ((access boxes index).store binding value) := by
  intro plain boxed frames
  cases found : boxes index with
  | none =>
    simp only [access, found, Option.isSome_none, Bool.false_eq_true, ↓reduceIte, Access.store]
    have slots := frames.params.writeSlot found value
    exact .writeParam frames frames.params.length
      ⟨by simpa using frames.arity, frames.locals, slots⟩
  | some made =>
    have present : index < plain.params.length :=
      (List.getElem?_eq_some_iff.mp (frames.params.contents index made found)).1
    simp only [access, found, Option.isSome_some, ↓reduceIte, Run.writeParam, present,
      Access.store_boxedSlot (frames.params.box index made found)]
    have slots := frames.params.writeBox injective found value
    exact .ok () ⟨by simpa using frames.arity, frames.locals, slots⟩

/-- On mirrored frames every place in scope is reached alike, if the closures
agree on the captured slots in scope. -/
theorem sameAccess (injective : ∀ first second made,
      boxes first = some made → boxes second = some made → first = second)
    {scope : Scope} {binding binding' : Binding}
    (sameCells : ∀ slot, scope.Has (.capture slot) → binding'[slot]? = binding[slot]?) :
    SameAccess (Mirrors arity boxes) scope binding binding' (access boxes) where
  readParam index _ := readParam binding' index
  writeParam index _ value := writeParam injective binding' index value
  readLocal := .readLocal fun _ _ frames => frames.locals
  writeLocal := .writeLocal (fun _ _ frames => frames.locals)
    fun _ _ frames _ => ⟨frames.arity, rfl, frames.params⟩
  readCapture slot inside := .readCapture (sameCells slot inside)
    fun _ _ frames => frames.params.alike.readCell
  writeCapture slot inside value := .writeCapture (sameCells slot inside)
    fun _ _ frames cell => ⟨frames.arity, frames.locals, frames.params.writeCell cell value⟩

end Mirrors

end HotPath

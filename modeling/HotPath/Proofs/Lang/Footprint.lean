import HotPath.Proofs.Lang.Soundness

/-!
A body reaches no cells but those bound to its captured variables. Of these it takes only what they
hold and which of them are one, so it does the same on any other cells of which both are the same.
-/

namespace HotPath

namespace Store

def contents (store : Store) (binding : Binding) : List (Option Value) :=
  binding.map (store.cells[·]?)

theorem cells_writeCell_of_ne (store : Store) {cell written : CellId} (apart : cell ≠ written)
    (value : Value) : (store.writeCell written value).cells[cell]? = store.cells[cell]? := by
  simp [writeCell, Array.getElem?_setIfInBounds_ne (Ne.symm apart)]

theorem cells_writeCell_self {store : Store} {cell : CellId} (made : cell < store.cells.size)
    (value : Value) : (store.writeCell cell value).cells[cell]? = some value := by
  simp [writeCell, Array.getElem?_setIfInBounds_self_of_lt made]

@[simp] theorem size_writeCell (store : Store) (cell : CellId) (value : Value) :
    (store.writeCell cell value).cells.size = store.cells.size := by
  simp [writeCell]

theorem contents_congr {store store' : Store} {binding : Binding}
    (same : ∀ cell ∈ binding, store'.cells[cell]? = store.cells[cell]?) :
    store'.contents binding = store.contents binding :=
  List.map_congr_left same

theorem getElem?_contents (store : Store) (binding : Binding) (slot : Nat) :
    (store.contents binding)[slot]? = (binding[slot]?).map (store.cells[·]?) :=
  List.getElem?_map

end Store

/-- Closures over cells that exist in two memories and hold the same there. Slots that
share a cell in one closure share one in the other. -/
structure Lookalike (binding binding' : Binding) (store store' : Store) : Prop where
  sharing : ∀ first second : Nat,
    binding[first]? = binding[second]? ↔ binding'[first]? = binding'[second]?
  contents : store.contents binding = store'.contents binding'
  made : ∀ cell ∈ binding, cell < store.cells.size
  made' : ∀ cell ∈ binding', cell < store'.cells.size

namespace Lookalike

variable {binding binding' : Binding} {store store' : Store}

theorem refl (made : ∀ cell ∈ binding, cell < store.cells.size) :
    Lookalike binding binding store store :=
  ⟨fun _ _ => .rfl, rfl, made, made⟩

theorem slot (same : Lookalike binding binding' store store') (slot : Nat) :
    (binding[slot]?).map (store.cells[·]?) = (binding'[slot]?).map (store'.cells[·]?) := by
  rw [← Store.getElem?_contents, same.contents, Store.getElem?_contents]

theorem cell (same : Lookalike binding binding' store store') {slot : Nat} {cell : CellId}
    (bound : binding[slot]? = some cell) :
    ∃ cell', binding'[slot]? = some cell' ∧ store.readCell cell = store'.readCell cell' := by
  have alike := same.slot slot
  rw [bound] at alike
  obtain ⟨cell', bound', holds⟩ := Option.map_eq_some_iff.mp alike.symm
  refine ⟨cell', bound', ?_⟩
  simp only [Store.readCell, Array.getD_eq_getD_getElem?, holds]

theorem writeCell (same : Lookalike binding binding' store store') {slot : Nat}
    {cell cell' : CellId} (bound : binding[slot]? = some cell)
    (bound' : binding'[slot]? = some cell') (value : Value) :
    Lookalike binding binding' (store.writeCell cell value) (store'.writeCell cell' value) where
  sharing := same.sharing
  contents := by
    apply List.ext_getElem?
    intro other
    have alike := same.slot other
    have shared := same.sharing other slot
    rw [Store.getElem?_contents, Store.getElem?_contents]
    rw [bound, bound'] at shared
    cases held : binding[other]? with
    | none =>
      rw [held] at alike
      rw [Option.map_eq_none_iff.mp alike.symm]
      rfl
    | some here =>
      rw [held] at alike shared
      obtain ⟨there, held', holds⟩ := Option.map_eq_some_iff.mp alike.symm
      rw [held'] at shared ⊢
      simp only [Option.map_some, Option.some.injEq] at shared ⊢
      by_cases its : here = cell
      · obtain rfl := its
        obtain rfl := shared.mp rfl
        rw [Store.cells_writeCell_self (same.made here (List.mem_of_getElem? bound)),
          Store.cells_writeCell_self (same.made' there (List.mem_of_getElem? bound'))]
      · rw [Store.cells_writeCell_of_ne store its,
          Store.cells_writeCell_of_ne store' (fun it => its (shared.mpr it)), holds]
  made other member := by
    rw [Store.size_writeCell]
    exact same.made other member
  made' other member := by
    rw [Store.size_writeCell]
    exact same.made' other member

theorem kept (same : Lookalike binding binding' store store') {later : Store}
    (kept : ∀ cell ∈ binding', later.cells[cell]? = store'.cells[cell]?) :
    Lookalike binding binding' store later where
  sharing := same.sharing
  contents := same.contents.trans (Store.contents_congr kept).symm
  made := same.made
  made' cell member := by
    have present := Array.getElem?_eq_getElem (same.made' cell member)
    rw [← kept cell member] at present
    exact (Array.getElem?_eq_some_iff.mp present).1

end Lookalike

/-! ## Bodies -/

namespace Run

variable {α : Type} {Related : Frame → Frame → Prop}

/-- Runs that end alike on equal frames are one run. -/
theorem Simulates.eq {first second : Run α} (same : Simulates Eq first second) :
    first = second := by
  funext frame
  have ends := same frame frame rfl
  generalize first frame = firstEnd at ends ⊢
  generalize second frame = secondEnd at ends ⊢
  cases ends with
  | ok value frames => rw [frames]
  | error stop frames => rw [frames]

theorem Simulates.refl (run : Run α) : Simulates Eq run run := by
  rintro frame _ rfl
  cases run frame with
  | ok value after => exact .ok value rfl
  | error stop after => exact .error stop rfl

end Run

open Run (Simulates)

/-- A body does the same under two closures, if reaching for its places does. -/
theorem Expr.eval_simulates {Related : Frame → Frame → Prop} {scope : Scope}
    {binding binding' : Binding} (same : SameAccess Related scope binding binding' .slot)
    (rounds : Nat) {e : Expr} (inside : e.stray? scope = none) :
    Simulates Related (e.eval rounds binding) (e.eval rounds binding') := by
  have own : SameAccess Eq scope binding' binding' .slot :=
    ⟨fun _ _ => .refl _, fun _ _ _ => .refl _, fun _ => .refl _, fun _ _ => .refl _,
      fun _ _ => .refl _, fun _ _ _ => .refl _⟩
  rw [(e.lower_simulates own rounds inside).eq]
  exact e.lower_simulates same rounds inside

/-- Frames that differ at most in which cells their closures are made of. -/
structure Frame.Lookalike (binding binding' : Binding) (left right : Frame) : Prop where
  params : left.params = right.params
  locals : left.locals = right.locals
  store : HotPath.Lookalike binding binding' left.store right.store

/-- The same frame twice, in which only cells of a closure differ from those of before. -/
structure Frame.Undisturbed (binding : Binding) (before : Store) (left right : Frame) : Prop where
  same : left = right
  outside : ∀ cell ∉ binding, left.store.cells[cell]? = before.cells[cell]?

theorem Frame.Lookalike.sameAccess (scope : Scope) (binding binding' : Binding) :
    SameAccess (Frame.Lookalike binding binding') scope binding binding' .slot where
  readParam index _ left right frames := .readParam frames (by rw [frames.params])
  writeParam index _ value left right frames := .writeParam frames (by rw [frames.params])
    ⟨by rw [frames.params], frames.locals, frames.store⟩
  readLocal := .readLocal fun _ _ frames => frames.locals.symm
  writeLocal := .writeLocal (fun _ _ frames => frames.locals.symm)
    fun _ _ frames _ => ⟨frames.params, rfl, frames.store⟩
  readCapture slot _ left right frames := by
    unfold Run.readCapture
    cases bound : binding[slot]? with
    | none =>
      have unbound := frames.store.slot slot
      rw [bound] at unbound
      rw [Option.map_eq_none_iff.mp unbound.symm]
      exact .error _ frames
    | some cell =>
      obtain ⟨cell', bound', same⟩ := frames.store.cell bound
      simp only [bound', same]
      exact .ok _ frames
  writeCapture slot _ value left right frames := by
    unfold Run.writeCapture
    cases bound : binding[slot]? with
    | none =>
      have unbound := frames.store.slot slot
      rw [bound] at unbound
      rw [Option.map_eq_none_iff.mp unbound.symm]
      exact .error _ frames
    | some cell =>
      obtain ⟨cell', bound', -⟩ := frames.store.cell bound
      rw [bound']
      exact .ok () ⟨frames.params, frames.locals, frames.store.writeCell bound bound' value⟩

theorem Frame.Undisturbed.sameAccess (scope : Scope) (binding : Binding) (before : Store) :
    SameAccess (Frame.Undisturbed binding before) scope binding binding .slot where
  readParam index _ left right frames := .readParam frames (by rw [frames.same])
  writeParam index _ value left right frames := .writeParam frames (by rw [frames.same])
    ⟨by rw [frames.same], frames.outside⟩
  readLocal := .readLocal fun _ _ frames => congrArg Frame.locals frames.same.symm
  writeLocal := by
    refine .writeLocal (fun _ _ frames => congrArg Frame.locals frames.same.symm) ?_
    rintro left _ ⟨rfl, outside⟩ locals
    exact ⟨rfl, outside⟩
  readCapture slot _ := .readCapture rfl fun _ _ frames cell => by rw [frames.same]
  writeCapture slot _ value left right frames := by
    obtain ⟨rfl, outside⟩ := id frames
    unfold Run.writeCapture
    cases bound : binding[slot]? with
    | none => exact .error _ frames
    | some written =>
      refine .ok () ⟨rfl, fun cell foreign => ?_⟩
      have apart : cell ≠ written := by
        rintro rfl
        exact foreign (List.mem_of_getElem? bound)
      exact (Store.cells_writeCell_of_ne _ apart value).trans (outside cell foreign)

/-! ## Calls -/

namespace Definition

variable (definition : Definition) (rounds : Nat) (args : List Value)

theorem interpret_lookalike {closure closure' : Option Binding} {store store' : Store}
    (same : Lookalike (closure.getD []) (closure'.getD []) store store') :
    (definition.interpret rounds args closure store).outcome =
        (definition.interpret rounds args closure' store').outcome ∧
      (definition.interpret rounds args closure store).slots =
        (definition.interpret rounds args closure' store').slots ∧
      Lookalike (closure.getD []) (closure'.getD [])
        (definition.interpret rounds args closure store).store
        (definition.interpret rounds args closure' store').store := by
  unfold interpret
  by_cases fits : args.length = definition.signature.arity
  · have access := Frame.Lookalike.sameAccess definition.draft.scope (closure.getD [])
      (closure'.getD [])
    have runs := Expr.eval_simulates access rounds definition.noStray
    have start : Frame.Lookalike (closure.getD []) (closure'.getD [])
        ⟨args, List.replicate definition.locals .unit, store⟩
        ⟨args, List.replicate definition.locals .unit, store'⟩ := ⟨rfl, rfl, same⟩
    obtain ⟨outcome, left, right, frames, first, second⟩ :=
      Run.onFrame_alike start fun _ => runs _ _ start
    simp only [fits, ne_eq, not_true_eq_false, ↓reduceIte, first, second, frames.params, true_and]
    exact frames.store
  · simp only [ne_eq, fits, not_false_eq_true, ↓reduceIte, true_and]
    exact same

/-- A call leaves every cell alone that is not of its closure. -/
theorem interpret_outside {closure : Option Binding} (store : Store) {cell : CellId}
    (foreign : cell ∉ closure.getD []) :
    (definition.interpret rounds args closure store).store.cells[cell]? = store.cells[cell]? := by
  unfold interpret
  by_cases fits : args.length = definition.signature.arity
  · have access := Frame.Undisturbed.sameAccess definition.draft.scope (closure.getD []) store
    have runs := Expr.eval_simulates access rounds definition.noStray
    have start : Frame.Undisturbed (closure.getD []) store
        ⟨args, List.replicate definition.locals .unit, store⟩
        ⟨args, List.replicate definition.locals .unit, store⟩ := ⟨rfl, fun _ _ => rfl⟩
    obtain ⟨outcome, left, right, frames, first, -⟩ :=
      Run.onFrame_alike start fun _ => runs _ _ start
    simp only [fits, ne_eq, not_true_eq_false, ↓reduceIte, first]
    exact frames.outside cell foreign
  · simp only [ne_eq, fits, not_false_eq_true, ↓reduceIte]

end Definition

end HotPath

import HotPath.Proofs.Lang.Footprint

/-!
What an interpreted call may change: the slots of by-reference parameters that the body assigns to,
and the cells bound to captured variables that it assigns to. Nothing else changes, however the call
ends.
-/

namespace HotPath

/-- A frame that differs from an earlier one in nothing but locals, parameters among the
given places, and cells bound to captured variables among them. -/
structure Frame.Confined (assigned : List Place) (binding : Binding) (start frame : Frame) :
    Prop where
  length : frame.params.length = start.params.length
  params : ∀ index, .param index ∉ assigned → frame.params[index]? = start.params[index]?
  cells : ∀ cell, (∀ slot, .capture slot ∈ assigned → binding[slot]? ≠ some cell) →
    frame.store.cells[cell]? = start.store.cells[cell]?
  hostBoxes : frame.store.hostBoxes = start.store.hostBoxes
  frameBoxes : frame.store.frameBoxes = start.store.frameBoxes

namespace Frame.Confined

variable {assigned : List Place} {binding : Binding} {start frame : Frame}

theorem refl (assigned : List Place) (binding : Binding) (frame : Frame) :
    Confined assigned binding frame frame :=
  ⟨rfl, fun _ _ => rfl, fun _ _ => rfl, rfl, rfl⟩

theorem writeParam (confined : Confined assigned binding start frame) {index : Nat}
    (member : .param index ∈ assigned) (value : Value) :
    Confined assigned binding start { frame with params := frame.params.set index value } where
  length := by simpa using confined.length
  params other spared := by
    have apart : index ≠ other := by
      rintro rfl
      exact spared member
    rw [List.getElem?_set_ne apart]
    exact confined.params other spared
  cells := confined.cells
  hostBoxes := confined.hostBoxes
  frameBoxes := confined.frameBoxes

theorem writeLocals (confined : Confined assigned binding start frame) (locals : List Value) :
    Confined assigned binding start { frame with locals } :=
  ⟨confined.length, confined.params, confined.cells, confined.hostBoxes, confined.frameBoxes⟩

theorem writeCell (confined : Confined assigned binding start frame) {slot : Nat} {cell : CellId}
    (member : .capture slot ∈ assigned) (bound : binding[slot]? = some cell) (value : Value) :
    Confined assigned binding start { frame with store := frame.store.writeCell cell value } where
  length := confined.length
  params := confined.params
  cells other spared := by
    have apart : other ≠ cell := by
      rintro rfl
      exact spared slot member bound
    rw [Store.cells_writeCell_of_ne _ apart]
    exact confined.cells other spared
  hostBoxes := confined.hostBoxes
  frameBoxes := confined.frameBoxes

end Frame.Confined

/-- A body reads what it likes, and confines itself to the places that it assigns to. -/
theorem Upholds.confined (assigned : List Place) (binding : Binding) (start : Frame) :
    Upholds (fun _ => True) (· ∈ assigned) binding (Frame.Confined assigned binding start)
      (fun _ => True) where
  readParam {index} _ frame confined := by
    unfold Run.readParam
    cases frame.params[index]? with
    | none => exact ⟨trivial, confined⟩
    | some value => exact confined
  writeParam {index} member value frame confined := by
    unfold Run.writeParam
    by_cases made : index < frame.params.length
    · rw [if_pos made]
      exact confined.writeParam member value
    · rw [if_neg made]
      exact ⟨trivial, confined⟩
  readLocal {index} _ frame confined := by
    unfold Run.readLocal
    cases frame.locals[index]? with
    | none => exact ⟨trivial, confined⟩
    | some value => exact confined
  writeLocal {index} _ value frame confined := by
    unfold Run.writeLocal
    by_cases made : index < frame.locals.length
    · rw [if_pos made]
      exact confined.writeLocals _
    · rw [if_neg made]
      exact ⟨trivial, confined⟩
  readCapture {slot} _ frame confined := by
    unfold Run.readCapture
    cases binding[slot]? with
    | none => exact ⟨trivial, confined⟩
    | some cell => exact confined
  writeCapture {slot} member value frame confined := by
    unfold Run.writeCapture
    cases bound : binding[slot]? with
    | none => exact ⟨trivial, confined⟩
    | some cell => exact confined.writeCell member bound value
  operator _ := trivial
  raised _ := trivial
  returned _ := trivial
  exhausted := trivial

namespace Signature

variable {α : Type} {modes : List PassMode} {args finals : List α} {index : Nat}

end Signature

/-- What a call leaves alone: slots of parameters by value or not assigned to, cells that are not
bound to a captured variable assigned to, and all boxes. -/
structure Definition.Confines (definition : Definition) (closure : Option Binding)
    (args slots : List Value) (before after : Store) : Prop where
  length : slots.length = args.length
  byValue : ∀ index : Nat, definition.signature.modes[index]? = some .byValue →
    slots[index]? = args[index]?
  unassigned : ∀ index : Nat, .param index ∉ definition.body.assigned →
    slots[index]? = args[index]?
  cells : ∀ cell : CellId, (∀ slot : Nat, .capture slot ∈ definition.body.assigned →
    (closure.getD [])[slot]? ≠ some cell) → after.cells[cell]? = before.cells[cell]?
  boxes : ∀ box, before.HasBox box → after.readBox box = before.readBox box

namespace Definition

theorem Confines.refl (definition : Definition) (closure : Option Binding) (args : List Value)
    (store : Store) : definition.Confines closure args args store store :=
  ⟨rfl, fun _ _ => rfl, fun _ _ => rfl, fun _ _ => rfl, fun _ _ => rfl⟩

end Definition

end HotPath

import HotPath.Value

/-!
The mutable memory of a run: the cells of captured variables, the boxes made by the host, and the
boxes made by call frames. Nothing is ever removed, so an identity stays valid for a whole run.
-/

namespace HotPath

abbrev CellId := Nat

/-- The cells bound to the captured variables of a function, in slot order. One
cell may be bound to several slots. -/
abbrev Binding := List CellId

structure Store where
  cells : Array Value := #[]
  hostBoxes : Array Value := #[]
  frameBoxes : Array Value := #[]
  deriving Inhabited

namespace Store

def newCell (store : Store) (value : Value) : CellId × Store :=
  (store.cells.size, { store with cells := store.cells.push value })

def readCell (store : Store) (cell : CellId) : Value :=
  store.cells.getD cell .unit

def writeCell (store : Store) (cell : CellId) (value : Value) : Store :=
  { store with cells := store.cells.setIfInBounds cell value }

def newCells (store : Store) : List Value → Binding × Store
  | [] => ([], store)
  | value :: rest =>
    let (cell, store) := store.newCell value
    let (cells, store) := store.newCells rest
    (cell :: cells, store)

def newHostBox (store : Store) (value : Value) : BoxId × Store :=
  (.host store.hostBoxes.size, { store with hostBoxes := store.hostBoxes.push value })

def newFrameBox (store : Store) (value : Value) : BoxId × Store :=
  (.frame store.frameBoxes.size, { store with frameBoxes := store.frameBoxes.push value })

def readBox (store : Store) : BoxId → Value
  | .host index => store.hostBoxes.getD index .unit
  | .frame index => store.frameBoxes.getD index .unit

def writeBox (store : Store) (box : BoxId) (value : Value) : Store :=
  match box with
  | .host index => { store with hostBoxes := store.hostBoxes.setIfInBounds index value }
  | .frame index => { store with frameBoxes := store.frameBoxes.setIfInBounds index value }

/-- The contents of a box, which is left holding unit. -/
def takeBox (store : Store) (box : BoxId) : Value × Store :=
  (store.readBox box, store.writeBox box .unit)

def HasBox (store : Store) : BoxId → Prop
  | .host index => index < store.hostBoxes.size
  | .frame index => index < store.frameBoxes.size

instance (store : Store) (box : BoxId) : Decidable (store.HasBox box) := by
  cases box <;> exact inferInstanceAs (Decidable (_ < _))

@[simp] theorem cells_writeBox (store : Store) (box : BoxId) (value : Value) :
    (store.writeBox box value).cells = store.cells := by
  cases box <;> rfl

@[simp] theorem hasBox_writeBox (store : Store) (box other : BoxId) (value : Value) :
    (store.writeBox box value).HasBox other ↔ store.HasBox other := by
  cases box <;> cases other <;> simp [HasBox, writeBox]

theorem readBox_writeBox_self {store : Store} {box : BoxId} (made : store.HasBox box)
    (value : Value) : (store.writeBox box value).readBox box = value := by
  cases box <;> simp_all [HasBox, readBox, writeBox]

theorem readBox_writeBox_of_ne (store : Store) {box other : BoxId} (distinct : box ≠ other)
    (value : Value) : (store.writeBox box value).readBox other = store.readBox other := by
  cases box with
  | host made =>
    cases other with
    | host index =>
      have apart : made ≠ index := fun same => distinct (congrArg BoxId.host same)
      simp [readBox, writeBox, Array.getD_eq_getD_getElem?, Array.getElem?_setIfInBounds_ne apart]
    | frame index => rfl
  | frame made =>
    cases other with
    | host index => rfl
    | frame index =>
      have apart : made ≠ index := fun same => distinct (congrArg BoxId.frame same)
      simp [readBox, writeBox, Array.getD_eq_getD_getElem?, Array.getElem?_setIfInBounds_ne apart]

end Store

end HotPath

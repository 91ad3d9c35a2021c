import HotPath.Session.Names
import HotPath.Value.Printer

/-!
Scripts on bare memory: named cells, boxes and closure bindings. The names of the three kinds are
separate, and two names may share one cell, box or binding.
-/

namespace HotPath

/-- A store with names for what is in it. -/
structure Memory where
  store : Store := {}
  cells : Names CellId := []
  boxes : Names BoxId := []
  bindings : Names Binding := []

namespace Memory

inductive Holder where
  | cell | box
  deriving DecidableEq, Repr

inductive Step where
  | make (holder : Holder) (name : String) (value : Value)
  /-- Give a second name to a place. -/
  | share (holder : Holder) (name old : String)
  | read (holder : Holder) (name : String)
  | write (holder : Holder) (name : String) (value : Value)
  /-- Read a box and leave unit in it. -/
  | take (name : String)
  | areSame (holder : Holder) (first second : String)
  | inspect (holder : Holder) (name : String)
  | bind (name : String) (cells : List String)
  /-- Bind fresh cells. -/
  | bindValues (name : String) (values : List Value)
  | shareBinding (name old : String)
  | bindingSize (name : String)
  | readSlot (name : String) (slot : Nat)
  | writeSlot (name : String) (slot : Nat) (value : Value)
  /-- Give a name to the cell bound to a slot. -/
  | nameSlot (cell name : String) (slot : Nat)
  | readAll (name : String)
  | inspectBinding (name : String)

inductive Answer where
  | missing
  | done
  /-- The binding has no such slot. -/
  | absent
  | value (value : Value)
  | slotValue (value : Value)
  | values (values : List Value)
  | truth (b : Bool)
  | text (text : String)
  | size (count : Nat) (empty : Bool)

/-- The place of a name as two operations on the store. -/
def place? (memory : Memory) (holder : Holder) (name : String) :
    Option (CellId ⊕ BoxId) :=
  match holder with
  | .cell => (memory.cells.lookup name).map .inl
  | .box => (memory.boxes.lookup name).map .inr

def readPlace (store : Store) : CellId ⊕ BoxId → Value
  | .inl cell => store.readCell cell
  | .inr box => store.readBox box

def writePlace (store : Store) (value : Value) : CellId ⊕ BoxId → Store
  | .inl cell => store.writeCell cell value
  | .inr box => store.writeBox box value

def putPlace (memory : Memory) (name : String) : CellId ⊕ BoxId → Memory
  | .inl cell => { memory with cells := memory.cells.put name cell }
  | .inr box => { memory with boxes := memory.boxes.put name box }

def inspectPlace (store : Store) : CellId ⊕ BoxId → String
  | .inl cell => Value.inspectCell store cell
  | .inr box => Value.inspectBox store box

def newPlace (store : Store) (value : Value) : Holder → (CellId ⊕ BoxId) × Store
  | .cell => (store.newCell value).map .inl id
  | .box => (store.newHostBox value).map .inr id

def step (memory : Memory) : Step → Answer × Memory
  | .make holder name value =>
    let (place, store) := newPlace memory.store value holder
    (.done, putPlace { memory with store } name place)
  | .share holder name old =>
    match memory.place? holder old with
    | some place => (.done, memory.putPlace name place)
    | none => (.missing, memory)
  | .read holder name =>
    match memory.place? holder name with
    | some place => (.value (readPlace memory.store place), memory)
    | none => (.missing, memory)
  | .write holder name value =>
    match memory.place? holder name with
    | some place => (.done, { memory with store := writePlace memory.store value place })
    | none => (.missing, memory)
  | .take name =>
    match memory.boxes.lookup name with
    | some box =>
      let (value, store) := memory.store.takeBox box
      (.value value, { memory with store })
    | none => (.missing, memory)
  | .areSame holder first second =>
    match memory.place? holder first, memory.place? holder second with
    | some first, some second => (.truth (first == second), memory)
    | _, _ => (.missing, memory)
  | .inspect holder name =>
    match memory.place? holder name with
    | some place => (.text (inspectPlace memory.store place), memory)
    | none => (.missing, memory)
  | .bind name cells =>
    match cells.mapM fun cell => memory.cells.lookup cell with
    | some binding => (.done, { memory with bindings := memory.bindings.put name binding })
    | none => (.missing, memory)
  | .bindValues name values =>
    let (binding, store) := memory.store.newCells values
    (.done, { memory with store, bindings := memory.bindings.put name binding })
  | .shareBinding name old =>
    match memory.bindings.lookup old with
    | some binding => (.done, { memory with bindings := memory.bindings.put name binding })
    | none => (.missing, memory)
  | .bindingSize name =>
    match memory.bindings.lookup name with
    | some binding => (.size binding.length binding.isEmpty, memory)
    | none => (.missing, memory)
  | .readSlot name slot =>
    match memory.bindings.lookup name with
    | none => (.missing, memory)
    | some binding =>
      match binding[slot]? with
      | some cell => (.slotValue (memory.store.readCell cell), memory)
      | none => (.absent, memory)
  | .writeSlot name slot value =>
    match memory.bindings.lookup name with
    | none => (.missing, memory)
    | some binding =>
      match binding[slot]? with
      | some cell => (.done, { memory with store := memory.store.writeCell cell value })
      | none => (.absent, memory)
  | .nameSlot cell name slot =>
    match memory.bindings.lookup name with
    | none => (.missing, memory)
    | some binding =>
      match binding[slot]? with
      | some id => (.done, { memory with cells := memory.cells.put cell id })
      | none => (.absent, memory)
  | .readAll name =>
    match memory.bindings.lookup name with
    | some binding => (.values (binding.map memory.store.readCell), memory)
    | none => (.missing, memory)
  | .inspectBinding name =>
    match memory.bindings.lookup name with
    | some binding => (.text (Value.inspectBinding memory.store binding), memory)
    | none => (.missing, memory)

end Memory

end HotPath

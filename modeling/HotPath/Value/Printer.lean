import HotPath.Number.Shortest
import HotPath.Store
import HotPath.Text.Quoted

/-!
The two texts of a value: the one used in messages, and the one used for inspection, which names the
kind of every part. A box is written with what it holds.
-/

namespace HotPath.Store

/-- Follow at most `fuel` boxes, `passed` of them having been passed before. -/
def chaseWithin (store : Store) : Nat → Nat → Value → Nat × Value
  | fuel + 1, passed, .ref box => store.chaseWithin fuel (passed + 1) (store.readBox box)
  | _, passed, value => (passed, value)

/-- Follow boxes to a value that is no box, counting the boxes passed. A chain
without a repeated box is no longer than the number of boxes. -/
def chase (store : Store) (value : Value) : Nat × Value :=
  store.chaseWithin (store.hostBoxes.size + store.frameBoxes.size + 1) 0 value

end HotPath.Store

namespace HotPath.Value

def repeated (text : String) (count : Nat) : String :=
  String.join (List.replicate count text)

/-- Message text of a value that is no box; the text of a string is not escaped. -/
def bareDisplay : Value → String
  | .unit => "()"
  | .bool b => toString b
  | .int n => toString n.toInt
  | .float x => Number.plainText x
  | .str s => "\"" ++ s ++ "\""
  | .ref _ => ""

/-- Message text of a value: each box in front of the contents is an ampersand. -/
def display (store : Store) (value : Value) : String :=
  let (boxes, contents) := store.chase value
  repeated "&" boxes ++ contents.bareDisplay

def bareInspect : Value → String
  | .unit => "Unit"
  | .bool b => "Bool(" ++ toString b ++ ")"
  | .int n => "Int(" ++ toString n.toInt ++ ")"
  | .float x => "Float(" ++ Number.inspectText x ++ ")"
  | .str s => "Str(" ++ Text.quote s ++ ")"
  | .ref _ => ""

def inspect (store : Store) (value : Value) : String :=
  let (boxes, contents) := store.chase value
  repeated "Ref(RefBox(" boxes ++ contents.bareInspect ++ repeated "))" boxes

def inspectBox (store : Store) (box : BoxId) : String :=
  "RefBox(" ++ (store.readBox box).inspect store ++ ")"

def inspectCell (store : Store) (cell : CellId) : String :=
  "ClosureCell(" ++ (store.readCell cell).inspect store ++ ")"

def inspectBinding (store : Store) (binding : Binding) : String :=
  "ClosureBinding \x7b cells: [" ++ ", ".intercalate (binding.map (inspectCell store)) ++ "] \x7d"

end HotPath.Value

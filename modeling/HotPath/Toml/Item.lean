/-!
TOML data. A table remembers how it came about, because that decides what may still be added to it.
Contents that no reader of this library looks at (floats, dates, times) are kept as their kind only.
-/

namespace HotPath.Toml

/-- How a table came about. -/
inductive TableKind where
  /-- Opened by a header of its own. -/
  | header
  /-- Implied by the header of a table below it. -/
  | parent
  /-- Implied by a dotted key. -/
  | dotted
  /-- Written in braces. -/
  | inlined
  deriving DecidableEq, Repr

inductive Item where
  | string (text : String)
  | integer (n : Int)
  | float
  | boolean (b : Bool)
  /-- A date, a time or both. -/
  | moment
  | array (items : List Item)
  | table (kind : TableKind) (entries : List (String × Item))
  /-- The tables opened by array headers of one name, the latest last. -/
  | tables (elements : List (List (String × Item)))
  deriving Inhabited

abbrev Table := List (String × Item)

namespace Table

def put (table : Table) (key : String) (item : Item) : Table :=
  if (table.lookup key).isSome then
    table.map fun entry => if entry.1 = key then (key, item) else entry
  else table ++ [(key, item)]

/-- Add the value of a dotted key, whose `path` leads to the table that takes `key`: the table at
hand (`takesKeys`) or one made by dotted keys, where no key is given twice. -/
def addKey? (takesKeys : Bool) (key : String) (item : Item) : List String → Table → Option Table
  | [], table =>
    if takesKeys && (table.lookup key).isNone then some (table ++ [(key, item)]) else none
  | part :: path, table =>
    match table.lookup part with
    | none => do
      let inner ← addKey? true key item path []
      return table.put part (.table .dotted inner)
    | some (.table .dotted inner) => do
      let inner ← addKey? true key item path inner
      return table.put part (.table .dotted inner)
    | some (.table .parent inner) => do
      let inner ← addKey? false key item path inner
      return table.put part (.table .parent inner)
    | some (.tables elements) => do
      let inner ← addKey? false key item path (← elements.getLast?)
      return table.put part (.tables (elements.dropLast ++ [inner]))
    | _ => none

/-- Change the entry that a header path names. A missing table on the way is made;
of an array of tables the latest is meant. -/
def change? (change : Option Item → Option Item) : List String → Table → Option Table
  | [], _ => none
  | [key], table => do
    let item ← change (table.lookup key)
    return table.put key item
  | part :: path, table =>
    match table.lookup part with
    | none => do
      let inner ← change? change path []
      return table.put part (.table .parent inner)
    | some (.table .inlined _) => none
    | some (.table kind inner) => do
      let inner ← change? change path inner
      return table.put part (.table kind inner)
    | some (.tables elements) => do
      let inner ← change? change path (← elements.getLast?)
      return table.put part (.tables (elements.dropLast ++ [inner]))
    | _ => none

end Table

end HotPath.Toml

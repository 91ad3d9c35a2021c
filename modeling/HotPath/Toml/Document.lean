import HotPath.Toml.Moment
import HotPath.Toml.Number

/-!
TOML documents: a text is read into statements, one on a line, and the statements are put together
into the root table. No key and no table is defined twice.
-/

namespace HotPath.Toml

/-! ## Values -/

/-- Skip blanks, line ends and comments, as they may stand inside an array. -/
def skipTrivia : Nat → List Char → List Char
  | 0, s => s
  | fuel + 1, s =>
    let s := skipComment (skipSpace s)
    match newline? s with
    | some rest => skipTrivia fuel rest
    | none => s

def skipAllTrivia (s : List Char) : List Char := skipTrivia s.length s

/-- The elements of an array after its opening bracket; a comma may follow the last. -/
def arrayRest (element : Reader Item) : Nat → Reader (List Item)
  | 0, _ => none
  | fuel + 1, s =>
    match skipAllTrivia s with
    | ']' :: rest => some ([], rest)
    | s => do
      let (item, rest) ← element s
      match skipAllTrivia rest with
      | ',' :: rest => do
        let (items, rest) ← arrayRest element fuel rest
        return (item :: items, rest)
      | ']' :: rest => return ([item], rest)
      | _ => none

def keyValue (value : Reader Item) : Reader (List String × Item) := fun s => do
  let (path, rest) ← key s
  match rest with
  | '=' :: rest => do
    let (item, rest) ← value (skipSpace rest)
    return ((path, item), rest)
  | _ => none

def Table.define? (table : Table) (path : List String) (item : Item) : Option Table := do
  table.addKey? true (← path.getLast?) item path.dropLast

/-- The entries of an inline table, at least one; no comma follows the last. -/
def inlineRest (value : Reader Item) : Nat → Table → Reader Table
  | 0, _, _ => none
  | fuel + 1, table, s => do
    let ((path, item), rest) ← keyValue value s
    let table ← table.define? path item
    match skipSpace rest with
    | ',' :: rest => inlineRest value fuel table rest
    | '}' :: rest => return (table, rest)
    | _ => none

def scalarValue : Reader Item
  | 't' :: 'r' :: 'u' :: 'e' :: rest => some (.boolean true, rest)
  | 'f' :: 'a' :: 'l' :: 's' :: 'e' :: rest => some (.boolean false, rest)
  | s =>
    match string s with
    | some (text, rest) => some (.string text, rest)
    | none => moment s <|> number s

/-- Read a value with at most `depth` arrays and inline tables around one another. -/
def valueWithin : (depth : Nat) → Reader Item
  | 0, s => scalarValue s
  | depth + 1, s =>
    match s with
    | '[' :: rest => do
      let (items, rest) ← arrayRest (valueWithin depth) (rest.length + 1) rest
      return (.array items, rest)
    | '{' :: rest =>
      match skipSpace rest with
      | '}' :: rest => some (.table .inlined [], rest)
      | rest => do
        let (table, rest) ← inlineRest (valueWithin depth) (rest.length + 1) [] rest
        return (.table .inlined table, rest)
    | s => scalarValue s

def value : Reader Item := valueWithin (nestingLimit - 1)

/-! ## Statements -/

inductive Statement where
  | assign (path : List String) (item : Item)
  | header (path : List String)
  | arrayHeader (path : List String)

/-- What follows the end of a line: blanks, an optional comment, and a line end or
the end of the text. -/
def lineEnd? (s : List Char) : Option (List Char) :=
  let s := skipComment (skipSpace s)
  if s.isEmpty then some [] else newline? s

def statement : Reader Statement
  | '[' :: '[' :: rest => do
    let (path, rest) ← key rest
    match rest with
    | ']' :: ']' :: rest => return (.arrayHeader path, rest)
    | _ => none
  | '[' :: rest => do
    let (path, rest) ← key rest
    match rest with
    | ']' :: rest => return (.header path, rest)
    | _ => none
  | s => do
    let ((path, item), rest) ← keyValue value s
    return (.assign path item, rest)

def statementsWithin : Nat → List Char → Option (List Statement)
  | 0, _ => none
  | fuel + 1, s =>
    let s := skipSpace s
    if s.isEmpty then some []
    else match lineEnd? s with
      | some rest => statementsWithin fuel rest
      | none => do
        let (first, rest) ← statement s
        let others ← statementsWithin fuel (← lineEnd? rest)
        return first :: others

/-- The statements of a text; a byte order mark at its start is skipped. -/
def statements (text : String) : Option (List Statement) :=
  let s := match text.toList with
    | '\ufeff' :: rest => rest
    | s => s
  statementsWithin (s.length + 1) s

/-! ## Documents -/

/-- Put the keys below one header into its table, up to the next header. -/
def fillTable : List Statement → Table → Option Table
  | .assign path item :: rest, table => do fillTable rest (← table.define? path item)
  | _, table => some table

/-- Open the table of a header that is not defined yet, and fill it. -/
def openTable (keys : List Statement) : Option Item → Option Item
  | none => (fillTable keys []).map (.table .header)
  | some (.table .parent entries) => (fillTable keys entries).map (.table .header)
  | some _ => none

def openElement (keys : List Statement) : Option Item → Option Item
  | none => (fillTable keys []).map fun table => .tables [table]
  | some (.tables elements) => (fillTable keys []).map fun table => .tables (elements ++ [table])
  | some _ => none

/-- Apply the headers of a document in order; other statements belong to the header
above them. -/
def openAll : List Statement → Table → Option Table
  | [], root => some root
  | .assign _ _ :: rest, root => openAll rest root
  | .header path :: rest, root => do openAll rest (← root.change? (openTable rest) path)
  | .arrayHeader path :: rest, root => do openAll rest (← root.change? (openElement rest) path)

def ofStatements (statements : List Statement) : Option Table := do
  openAll statements (← fillTable statements [])

def parse? (text : String) : Option Table := do ofStatements (← statements text)

end HotPath.Toml

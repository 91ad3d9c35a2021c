import HotPath.Toml.Item

/-!
The words of TOML: blanks, comments, strings and keys. A reader takes a word off the front of a text
and gives what follows, or nothing where no word of its kind stands.
-/

namespace HotPath.Toml

abbrev Reader (α : Type) := List Char → Option (α × List Char)

def isSpace (c : Char) : Bool := c == ' ' || c == '\t'

def skipSpace (s : List Char) : List Char := s.dropWhile isSpace

/-- What follows a line end, which is a line feed or a carriage return with one. -/
def newline? : List Char → Option (List Char)
  | '\n' :: rest => some rest
  | '\r' :: '\n' :: rest => some rest
  | _ => none

/-- Characters allowed in comments: no control but the tab. -/
def isCommentChar (c : Char) : Bool :=
  c == '\t' || (0x20 ≤ c.toNat && c.toNat ≤ 0x7e) || 0x80 ≤ c.toNat

def skipComment (s : List Char) : List Char :=
  match s with
  | '#' :: rest => rest.dropWhile isCommentChar
  | _ => s

/-! ## Strings -/

def isBasicChar (c : Char) : Bool := isCommentChar c && c != '\"' && c != '\\'

def isLiteralChar (c : Char) : Bool := isCommentChar c && c != '\''

def hexValue? (c : Char) : Option Nat :=
  if '0' ≤ c ∧ c ≤ '9' then some (c.toNat - '0'.toNat)
  else if 'a' ≤ c ∧ c ≤ 'f' then some (c.toNat - 'a'.toNat + 10)
  else if 'A' ≤ c ∧ c ≤ 'F' then some (c.toNat - 'A'.toNat + 10)
  else none

/-- The character with a code in hexadecimal; surrogates are no characters. -/
def scalar? (digits : List Char) : Option Char := do
  let code := (← digits.mapM hexValue?).foldl (fun n d => 16 * n + d) 0
  if code.isValidChar then some (Char.ofNat code) else none

def shortEscape? : Char → Option Char
  | 'b' => some '\x08'
  | 't' => some '\t'
  | 'n' => some '\n'
  | 'f' => some '\x0c'
  | 'r' => some '\r'
  | '\"' => some '\"'
  | '\\' => some '\\'
  | _ => none

def consChar (c : Char) (read : Option (List Char × List Char)) :
    Option (List Char × List Char) :=
  read.map fun (text, rest) => (c :: text, rest)

def basicRest : List Char → Option (List Char × List Char)
  | '\"' :: rest => some ([], rest)
  | '\\' :: 'u' :: a :: b :: c :: d :: rest => do
    consChar (← scalar? [a, b, c, d]) (basicRest rest)
  | '\\' :: 'U' :: a :: b :: c :: d :: e :: f :: g :: h :: rest => do
    consChar (← scalar? [a, b, c, d, e, f, g, h]) (basicRest rest)
  | '\\' :: e :: rest => do consChar (← shortEscape? e) (basicRest rest)
  | c :: rest => if isBasicChar c then consChar c (basicRest rest) else none
  | [] => none

def literalRest : List Char → Option (List Char × List Char)
  | '\'' :: rest => some ([], rest)
  | c :: rest => if isLiteralChar c then consChar c (literalRest rest) else none
  | [] => none

/-- The rest of a multi-line basic string; after a backslash at the end of a line all blanks and
line ends are skipped (`skipping`), and up to two quotes may stand before the closing ones. -/
def multiBasicRest (skipping : Bool) : List Char → Option (List Char × List Char)
  | '\"' :: '\"' :: '\"' :: '\"' :: '\"' :: rest => some (['\"', '\"'], rest)
  | '\"' :: '\"' :: '\"' :: '\"' :: rest => some (['\"'], rest)
  | '\"' :: '\"' :: '\"' :: rest => some ([], rest)
  | '\r' :: '\n' :: rest =>
    if skipping then multiBasicRest true rest else consChar '\n' (multiBasicRest false rest)
  | '\\' :: 'u' :: a :: b :: c :: d :: rest => do
    consChar (← scalar? [a, b, c, d]) (multiBasicRest false rest)
  | '\\' :: 'U' :: a :: b :: c :: d :: e :: f :: g :: h :: rest => do
    consChar (← scalar? [a, b, c, d, e, f, g, h]) (multiBasicRest false rest)
  | '\\' :: e :: rest =>
    if (newline? (skipSpace (e :: rest))).isSome then multiBasicRest true rest
    else do consChar (← shortEscape? e) (multiBasicRest false rest)
  | c :: rest =>
    if skipping && (isSpace c || c == '\n') then multiBasicRest true rest
    else if isBasicChar c || c == '\n' || c == '\"' then consChar c (multiBasicRest false rest)
    else none
  | [] => none

def multiLiteralRest : List Char → Option (List Char × List Char)
  | '\'' :: '\'' :: '\'' :: '\'' :: '\'' :: rest => some (['\'', '\''], rest)
  | '\'' :: '\'' :: '\'' :: '\'' :: rest => some (['\''], rest)
  | '\'' :: '\'' :: '\'' :: rest => some ([], rest)
  | '\r' :: '\n' :: rest => consChar '\n' (multiLiteralRest rest)
  | c :: rest =>
    if isCommentChar c || c == '\n' then consChar c (multiLiteralRest rest) else none
  | [] => none

/-- A line end directly after the opening quotes is not part of the string. -/
def afterOpening (s : List Char) : List Char := (newline? s).getD s

def toText (read : Option (List Char × List Char)) : Option (String × List Char) :=
  read.map fun (text, rest) => (String.ofList text, rest)

def lineString : Reader String
  | '\"' :: rest => toText (basicRest rest)
  | '\'' :: rest => toText (literalRest rest)
  | _ => none

def string : Reader String
  | '\"' :: '\"' :: '\"' :: rest => toText (multiBasicRest false (afterOpening rest))
  | '\'' :: '\'' :: '\'' :: rest => toText (multiLiteralRest (afterOpening rest))
  | s => lineString s

/-! ## Keys -/

def isBareKeyChar (c : Char) : Bool := c.isAlphanum || c == '_' || c == '-'

def keyPart : Reader String := fun s =>
  match s.takeWhile isBareKeyChar with
  | [] => lineString s
  | bare => some (String.ofList bare, s.dropWhile isBareKeyChar)

/-- Nesting of arrays, inline tables and key parts stays below this. -/
def nestingLimit : Nat := 80

def keyParts : Nat → Reader (List String)
  | 0, _ => none
  | fuel + 1, s => do
    let (part, rest) ← keyPart (skipSpace s)
    match skipSpace rest with
    | '.' :: rest => do
      let (parts, rest) ← keyParts fuel rest
      return (part :: parts, rest)
    | rest => return ([part], rest)

/-- Read a key with the blanks around it; dots separate its parts. -/
def key : Reader (List String) := keyParts (nestingLimit - 1)

end HotPath.Toml

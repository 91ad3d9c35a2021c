import HotPath.Text.Invisible

/-!
Quoted text for inspection: the text in double quotes, on one line, with every character that could
not be told by eye replaced by an escape.
-/

namespace HotPath.Text

def hexText (n : Nat) : String := String.ofList (Nat.toDigits 16 n)

/-- The quoted form of one character: the short escapes, `\u` with the code in
braces for a character without visible form, and the character itself. -/
def quoteChar (c : Char) : String :=
  match c with
  | '\x00' => "\\0"
  | '\t' => "\\t"
  | '\r' => "\\r"
  | '\n' => "\\n"
  | '\"' => "\\\""
  | '\\' => "\\\\"
  | c =>
    let visible := if c.toNat < 0x7f then 0x20 ≤ c.toNat else !isInvisible c
    if visible then c.toString else "\\u\x7b" ++ hexText c.toNat ++ "\x7d"

def quote (s : String) : String :=
  s.foldl (fun quoted c => quoted ++ quoteChar c) "\"" ++ "\""

end HotPath.Text

/-!
Blank characters, the ones with the Unicode property White_Space, and cutting them off both ends of
a text.
-/

namespace HotPath.Text

/-- The characters with the property White_Space, 25 in all. -/
def isBlank (c : Char) : Bool :=
  let code := c.toNat
  (0x09 ≤ code && code ≤ 0x0d) || code == 0x20 || code == 0x85 || code == 0xa0 ||
    code == 0x1680 || (0x2000 ≤ code && code ≤ 0x200a) || code == 0x2028 || code == 0x2029 ||
    code == 0x202f || code == 0x205f || code == 0x3000

def dropBlanksRight (s : List Char) : List Char :=
  (s.reverse.dropWhile isBlank).reverse

/-- The characters of a text without the blanks at both ends. -/
def trimChars (s : List Char) : List Char :=
  dropBlanksRight (s.dropWhile isBlank)

def trim (s : String) : String := String.ofList (trimChars s.toList)

end HotPath.Text

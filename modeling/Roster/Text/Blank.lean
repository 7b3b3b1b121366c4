/-
**Blank characters.**

Two sets of blanks are in use. White space is the Unicode property of that name: the five ASCII
controls, the next-line control and the separators. The wider set adds the four information
separators U+001C to U+001F.

* `isWhiteSpace`, `isBlank` — the two sets.
* `trimBoth` — drops the characters of a set from both ends and from nowhere else.
-/

namespace Roster.Text

/-- The Unicode property of white space. -/
def isWhiteSpace (c : Char) : Bool :=
  let code := c.toNat
  (0x09 ≤ code && code ≤ 0x0D) || code == 0x20 || code == 0x85 || code == 0xA0 || code == 0x1680
    || (0x2000 ≤ code && code ≤ 0x200A) || code == 0x2028 || code == 0x2029 || code == 0x202F
    || code == 0x205F || code == 0x3000

/-- White space and the four information separators. -/
def isBlank (c : Char) : Bool :=
  isWhiteSpace c || (0x1C ≤ c.toNat && c.toNat ≤ 0x1F)

/-- Drops the characters of a set from both ends of a text. -/
def trimBoth (drops : Char → Bool) (text : String) : String :=
  String.ofList (((text.toList.dropWhile drops).reverse.dropWhile drops).reverse)

end Roster.Text

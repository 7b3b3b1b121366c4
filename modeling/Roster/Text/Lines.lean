/-
**Lines of a text.**

A line ends with a line feed, a carriage return, both of them together, a vertical tab, a form feed, one
of three separators of information, the next-line control, or a line or paragraph separator.

* `lines` — the lines of a text, without what ends them.
* `lastLine` — the last one of them.
-/

namespace Roster.Text

/-- The character ends a line. -/
def endsLine (c : Char) : Bool :=
  let code := c.toNat
  (0x0A ≤ code && code ≤ 0x0D) || (0x1C ≤ code && code ≤ 0x1E) || code == 0x85 || code == 0x2028
    || code == 0x2029

/-- The lines of a text that goes on with some characters, of which those of the line that has begun
come first in reverse order. Nothing behind the last line end is no line. -/
def linesFrom (begun : List Char) : List Char → List String
  | [] => if begun.isEmpty then [] else [String.ofList begun.reverse]
  | '\r' :: '\n' :: rest => String.ofList begun.reverse :: linesFrom [] rest
  | c :: rest =>
    if endsLine c then String.ofList begun.reverse :: linesFrom [] rest
    else linesFrom (c :: begun) rest

/-- The lines of a text. -/
def lines (text : String) : List String := linesFrom [] text.toList

/-- The last line of a text, which is empty if there is none. -/
def lastLine (text : String) : String := (lines text).getLast?.getD ""

end Roster.Text

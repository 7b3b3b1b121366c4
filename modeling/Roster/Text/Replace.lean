/-
**Beginnings and replacements.**

* `beginsWith` — whether a text begins with another.
* `replaceFirst` — the text with the first occurrence of a part replaced, wherever it stands.
-/

namespace Roster.Text

/-- Whether a text begins with another. -/
def beginsWith (beginning text : String) : Bool :=
  beginning.toList.isPrefixOf text.toList

/-- The characters with the first occurrence of some in a row replaced. -/
def replaceFirstIn (part new : List Char) : List Char → List Char
  | [] => if part.isEmpty then new else []
  | char :: rest =>
    if part.isPrefixOf (char :: rest) then new ++ (char :: rest).drop part.length
    else char :: replaceFirstIn part new rest

/-- The text with the first occurrence of a part replaced; without one it stays as it is. -/
def replaceFirst (part new text : String) : String :=
  String.ofList (replaceFirstIn part.toList new.toList text.toList)

end Roster.Text

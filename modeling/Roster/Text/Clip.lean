/-
**Cutting texts to a limit.**

Lengths and limits count code points.

* `clip` — keeps the first code points of a text, up to a limit.
* `clipTo` — the same for a limit that may be negative; such a limit drops code points from the end.
-/

namespace Roster.Text

/-- The first `limit` code points of a text. -/
def clip (limit : Nat) (text : String) : String :=
  String.ofList (text.toList.take limit)

/-- The first `limit` code points of a text; a negative limit drops as many from the end. -/
def clipTo : (limit : Int) → (text : String) → String
  | .ofNat limit, text => clip limit text
  | .negSucc dropped, text => clip (text.length - (dropped + 1)) text

/-- A text written `count` times in a row. -/
def repeated (text : String) (count : Nat) : String :=
  String.ofList ((List.replicate count text.toList).flatten)

theorem length_clip (limit : Nat) (text : String) :
    (clip limit text).length = min limit text.length := by
  simp [clip, String.length]

end Roster.Text

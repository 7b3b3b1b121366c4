/-
**Numbers of a fixed width.**

* `padded` — a number written with at least so many decimal digits.
-/

namespace Roster

/-- A number written with at least so many decimal digits, with zeros in front. -/
def padded (width number : Nat) : String :=
  let digits := toString number
  String.ofList (List.replicate (width - digits.length) '0') ++ digits

end Roster

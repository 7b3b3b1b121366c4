/-
**Bytes in hexadecimal digits.**

A byte is written with two hexadecimal digits in either case. Blanks of the basic set may stand between
the bytes and at both ends, but not inside a byte.

* `Hexadecimal.digit?` — the value of a digit.
* `Hexadecimal.read` — the bytes of a text, or the place of the first character that does not belong.
-/

namespace Roster.Text.Hexadecimal

/-- The value of a hexadecimal digit in either case. -/
def digit? (c : Char) : Option Nat :=
  if '0' ≤ c ∧ c ≤ '9' then some (c.toNat - 0x30)
  else if 'a' ≤ c ∧ c ≤ 'f' then some (c.toNat - 0x61 + 10)
  else if 'A' ≤ c ∧ c ≤ 'F' then some (c.toNat - 0x41 + 10)
  else none

/-- The space and the five control characters that move on. -/
def isGap (c : Char) : Bool :=
  c = ' ' || (0x09 ≤ c.toNat && c.toNat ≤ 0x0D)

/-- The place of a character where a digit is missing. -/
structure ReadError where
  position : Nat
deriving DecidableEq, Repr, Inhabited

/-- The wording of a reading error. -/
def ReadError.message (error : ReadError) : String :=
  "non-hexadecimal number found in fromhex() arg at position " ++ toString error.position

/-- The bytes of the characters from a place on. A text that ends inside a byte lacks a digit at its
end. -/
def readFrom (place : Nat) : List Char → Except ReadError (List UInt8)
  | [] => .ok []
  | [c] =>
    if isGap c then .ok []
    else .error ⟨if (digit? c).isSome then place + 1 else place⟩
  | c :: next :: rest =>
    if isGap c then readFrom (place + 1) (next :: rest)
    else match digit? c, digit? next with
      | none, _ => .error ⟨place⟩
      | some _, none => .error ⟨place + 1⟩
      | some high, some low =>
        (readFrom (place + 2) rest).map (UInt8.ofNat (high * 16 + low) :: ·)

/-- Reads the bytes of a text. A character beyond the basic set is reported before all else. -/
def read (text : String) : Except ReadError (List UInt8) :=
  match text.toList.findIdx? fun c => 0x80 ≤ c.toNat with
  | some place => .error ⟨place⟩
  | none => readFrom 0 text.toList

end Roster.Text.Hexadecimal

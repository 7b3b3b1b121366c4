/-
**Writing data values.**

A value is written so that the reader of data values reads it back: texts between double quotes with
escapes, lists in brackets and tables in braces, all without blanks between the parts. Only printable
ASCII characters are used, so that a written value is always a single line.

* `Value.written` — the written form of a value.
-/

import Roster.Value.Basic

namespace Roster.Value

/-- The escape for a unit of sixteen bits. -/
def unitEscape (unit : Nat) : List Char := '\\' :: 'u' :: Text.Quoted.hexDigits 4 unit

/-- How one character of a text is written; one beyond sixteen bits takes two escapes. -/
def writtenChar (c : Char) : List Char :=
  if c = '\x22' || c = '\\' then ['\\', c]
  else if 0x20 ≤ c.toNat && c.toNat < 0x7F then [c]
  else if c.toNat < 0x10000 then unitEscape c.toNat
  else
    let rest := c.toNat - 0x10000
    unitEscape (0xD800 + rest / 0x400) ++ unitEscape (0xDC00 + rest % 0x400)

/-- A text between double quotes. -/
def writtenText (text : String) : String :=
  String.ofList ('\x22' :: text.toList.flatMap writtenChar ++ ['\x22'])

/-- A 64-bit number, with words for what is no finite number. -/
def writtenReal : Binary64 → String
  | .infinite negative => if negative then "-Infinity" else "Infinity"
  | .undefined => "NaN"
  | number => number.text

mutual

/-- The written form of a value. -/
def written : Value → String
  | .null => "null"
  | .bool value => if value then "true" else "false"
  | .int value => toString value
  | .real value => writtenReal value
  | .text value => writtenText value
  | .list items => "[" ++ writtenItems items ++ "]"
  | .table fields => "\x7b" ++ writtenFields fields ++ "\x7d"

/-- The items of a list, with commas between them. -/
def writtenItems : List Value → String
  | [] => ""
  | [item] => written item
  | item :: rest => written item ++ "," ++ writtenItems rest

/-- The fields of a table, with commas between them. -/
def writtenFields : List (String × Value) → String
  | [] => ""
  | [(name, value)] => writtenText name ++ ":" ++ written value
  | (name, value) :: rest => writtenText name ++ ":" ++ written value ++ "," ++ writtenFields rest

end

end Roster.Value

/-
**Quoted text.**

A text is quoted so that it can be read as one token in a log line: between single quotes, or
between double quotes if it holds a single quote and no double quote. The quote in use and the
backslash are escaped, line feed, carriage return and tab have escapes of their own, and every other
character that is not printable is written in hexadecimal with two, four or eight digits.

* `encode` — the quoted form.
-/

import Roster.Text.Printable

namespace Roster.Text.Quoted

/-- One hexadecimal digit, in lower case. -/
def hexDigit (digit : Nat) : Char :=
  if digit < 10 then Char.ofNat (0x30 + digit) else Char.ofNat (0x61 + (digit - 10))

/-- The last `width` hexadecimal digits of a number. -/
def hexDigits : (width number : Nat) → List Char
  | 0, _ => []
  | width + 1, number => hexDigits width (number / 16) ++ [hexDigit (number % 16)]

/-- How one character is written between the given quotes. -/
def encodeChar (quote c : Char) : List Char :=
  if c = quote ∨ c = '\\' then ['\\', c]
  else if c = '\n' then ['\\', 'n']
  else if c = '\r' then ['\\', 'r']
  else if c = '\t' then ['\\', 't']
  else if isPrintable c then [c]
  else if c.toNat < 0x100 then '\\' :: 'x' :: hexDigits 2 c.toNat
  else if c.toNat < 0x10000 then '\\' :: 'u' :: hexDigits 4 c.toNat
  else '\\' :: 'U' :: hexDigits 8 c.toNat

/-- Single quotes, unless the text holds one and no double quote. -/
def quoteFor (text : List Char) : Char :=
  if text.contains '\x27' && !text.contains '\x22' then '\x22' else '\x27'

/-- The quoted form of a text. -/
def encode (text : String) : String :=
  let quote := quoteFor text.toList
  String.ofList (quote :: text.toList.flatMap (encodeChar quote) ++ [quote])

end Roster.Text.Quoted

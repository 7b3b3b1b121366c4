/-
**Reading data values.**

A written value is a literal, a number, a quoted text, a bracketed list or a braced table, with blanks
(space, tab, line feed, carriage return) between its parts. Numbers without fraction and exponent
are whole and have a bounded count of digits; the others are 64-bit numbers, and `NaN`, `Infinity` and `-Infinity` are admitted. Of two
fields of one name the later value stays, in the earlier place.

* `Value.read?` — the value that a whole text denotes.
-/

import Roster.Number.Numeral
import Roster.Value.Basic

namespace Roster.Value

/-- Drops the blanks in front. -/
def skipBlanks (input : List Char) : List Char :=
  input.dropWhile fun c => c = ' ' || c = '\t' || c = '\n' || c = '\r'

/-- The value of a hexadecimal digit in either case. -/
def hexValue? (c : Char) : Option Nat :=
  if '0' ≤ c ∧ c ≤ '9' then some (c.toNat - 0x30)
  else if 'a' ≤ c ∧ c ≤ 'f' then some (c.toNat - 0x61 + 10)
  else if 'A' ≤ c ∧ c ≤ 'F' then some (c.toNat - 0x41 + 10)
  else none

/-- The unit written by four hexadecimal digits. -/
def unit? : List Char → Option (Nat × List Char)
  | a :: b :: c :: d :: rest => do
    some ((((← hexValue? a) * 16 + (← hexValue? b)) * 16 + (← hexValue? c)) * 16
      + (← hexValue? d), rest)
  | _ => none

/-- The character of a unit; two halves of a pair make one character, and a half that stands alone
becomes the replacement character. -/
def unitChar (high : Nat) (rest : List Char) : Char × List Char :=
  if 0xD800 ≤ high ∧ high < 0xDC00 then
    match rest with
    | '\\' :: 'u' :: tail =>
      match unit? tail with
      | some (low, tail) =>
        if 0xDC00 ≤ low ∧ low < 0xE000 then
          (Char.ofNat (0x10000 + (high - 0xD800) * 0x400 + (low - 0xDC00)), tail)
        else (Char.ofNat 0xFFFD, rest)
      | none => (Char.ofNat 0xFFFD, rest)
    | _ => (Char.ofNat 0xFFFD, rest)
  else if 0xDC00 ≤ high ∧ high < 0xE000 then (Char.ofNat 0xFFFD, rest)
  else (Char.ofNat high, rest)

/-- The character behind a backslash, with what follows. -/
def escape? : List Char → Option (Char × List Char)
  | 'u' :: rest => do
    let (unit, rest) ← unit? rest
    some (unitChar unit rest)
  | c :: rest =>
    if c = '\x22' || c = '\\' || c = '/' then some (c, rest)
    else if c = 'b' then some ('\x08', rest)
    else if c = 'f' then some ('\x0c', rest)
    else if c = 'n' then some ('\n', rest)
    else if c = 'r' then some ('\r', rest)
    else if c = 't' then some ('\t', rest)
    else none
  | [] => none

/-- The rest of a quoted text behind its opening quote; control characters are refused. -/
def quoted? : (fuel : Nat) → List Char → (read : List Char) → Option (String × List Char)
  | 0, _, _ => none
  | _ + 1, [], _ => none
  | fuel + 1, c :: rest, read =>
    if c = '\x22' then some (String.ofList read.reverse, rest)
    else if c = '\\' then
      match escape? rest with
      | some (escaped, rest) => quoted? fuel rest (escaped :: read)
      | none => none
    else if c.toNat < 0x20 then none
    else quoted? fuel rest (c :: read)

/-- The natural number of a sequence of decimal digits. -/
def digitsNat (digits : List Char) : Nat :=
  digits.foldl (fun total c => total * 10 + (c.toNat - 0x30)) 0

/-- A signed exponent behind `e` or `E`; without one the input is left as it is. -/
def exponent (input : List Char) : Option Int × List Char :=
  match input with
  | mark :: rest =>
    if mark = 'e' || mark = 'E' then
      let (negative, digits) := match rest with
        | '+' :: tail => (false, tail)
        | '-' :: tail => (true, tail)
        | tail => (false, tail)
      let power := digits.takeWhile Char.isDigit
      if power.isEmpty then (none, input)
      else
        let size : Int := (digitsNat power : Nat)
        (some (if negative then -size else size), digits.dropWhile Char.isDigit)
    else (none, input)
  | [] => (none, input)

/-- A number without a leading zero before other digits. -/
def number? (negative : Bool) (input : List Char) : Option (Value × List Char) :=
  let whole := match input with
    | '0' :: _ => ['0']
    | _ => input.takeWhile Char.isDigit
  if whole.isEmpty then none
  else
    let rest := input.drop whole.length
    let (places, rest) := match rest with
      | '.' :: tail =>
        let digits := tail.takeWhile Char.isDigit
        if digits.isEmpty then ([], rest) else (digits, tail.drop digits.length)
      | _ => ([], rest)
    let (power, rest) := exponent rest
    if places.isEmpty && power.isNone then
      let size : Int := (digitsNat whole : Nat)
      if Numeral.mostDigits < whole.length then none else some (.int (if negative then -size else size), rest)
    else
      let power : Int := power.getD 0 - places.length
      some (.real (.ofDecimal negative (digitsNat (whole ++ places)) power), rest)

/-- Takes a word off the front. -/
def word? (word : String) (input : List Char) : Option (List Char) :=
  if word.toList.isPrefixOf input then some (input.drop word.length) else none

/-- A literal or a number. -/
def scalar? (input : List Char) : Option (Value × List Char) :=
  if let some rest := word? "null" input then some (.null, rest)
  else if let some rest := word? "true" input then some (.bool true, rest)
  else if let some rest := word? "false" input then some (.bool false, rest)
  else if let some rest := word? "NaN" input then some (.real .undefined, rest)
  else if let some rest := word? "Infinity" input then some (.real (.infinite false), rest)
  else if let some rest := word? "-Infinity" input then some (.real (.infinite true), rest)
  else match input with
    | '-' :: rest => number? true rest
    | _ => number? false input

mutual

/-- A value without blanks in front. -/
def value? : (fuel : Nat) → List Char → Option (Value × List Char)
  | 0, _ => none
  | fuel + 1, input =>
    match input with
    | '\x22' :: rest => (quoted? (rest.length + 1) rest []).map fun (content, rest) => (.text content, rest)
    | '[' :: rest =>
      match skipBlanks rest with
      | ']' :: rest => some (.list [], rest)
      | rest => items? fuel rest []
    | '\x7b' :: rest =>
      match skipBlanks rest with
      | '\x7d' :: rest => some (.table [], rest)
      | rest => fields? fuel rest []
    | _ => scalar? input

/-- The items of a list up to its closing bracket. -/
def items? : (fuel : Nat) → List Char → (read : List Value) → Option (Value × List Char)
  | 0, _, _ => none
  | fuel + 1, input, read => do
    let (item, rest) ← value? fuel input
    match skipBlanks rest with
    | ',' :: rest => items? fuel (skipBlanks rest) (item :: read)
    | ']' :: rest => some (.list (item :: read).reverse, rest)
    | _ => none

/-- The fields of a table up to its closing brace. -/
def fields? : (fuel : Nat) → List Char → (read : List (String × Value)) →
    Option (Value × List Char)
  | 0, _, _ => none
  | fuel + 1, input, read =>
    match input with
    | '\x22' :: rest => do
      let (name, rest) ← quoted? (rest.length + 1) rest []
      match skipBlanks rest with
      | ':' :: rest =>
        let (value, rest) ← value? fuel (skipBlanks rest)
        match skipBlanks rest with
        | ',' :: rest => fields? fuel (skipBlanks rest) (put name value read)
        | '\x7d' :: rest => some (.table (put name value read), rest)
        | _ => none
      | _ => none
    | _ => none

end

/-- The value that a whole text denotes. Every part of a value takes a character, so twice the length
of the text bounds the depth of the reading. -/
def read? (text : String) : Option Value :=
  match value? (2 * text.length + 2) (skipBlanks text.toList) with
  | some (value, rest) => if (skipBlanks rest).isEmpty then some value else none
  | none => none

end Roster.Value

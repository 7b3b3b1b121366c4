/-
**Percent encoding.**

A character that is not safe is written as the bytes of its UTF-8 form, each behind a percent sign in
two hexadecimal digits. Letters, digits and the four marks `_ . - ~` are always safe.

* `Percent.encode`, `Percent.decode` — the encoded form and back.
* `Percent.encodeForm`, `Percent.decodeForm` — the same with a plus sign for a space.
-/

import Roster.Text.Hexadecimal
import Roster.Text.Quoted

namespace Roster.Text.Percent

/-- Letters, digits and four marks need no encoding. -/
def isPlain (c : Char) : Bool :=
  c.isAlphanum || c = '_' || c = '.' || c = '-' || c = '~'

/-- The two capital hexadecimal digits of a byte behind a percent sign. -/
def encodeByte (byte : UInt8) : List Char :=
  '%' :: (Quoted.hexDigits 2 byte.toNat).map Char.toUpper

/-- Encodes all characters but the plain ones and those of a set. -/
def encode (isSafe : Char → Bool) (text : String) : String :=
  String.ofList (text.toList.flatMap fun c =>
    if isPlain c || isSafe c then [c]
    else (String.ofList [c]).toUTF8.toList.flatMap encodeByte)

/-- Encodes a part of a form: a space becomes a plus sign. -/
def encodeForm (text : String) : String :=
  String.ofList ((encode (· = ' ') text).toList.map fun c => if c = ' ' then '+' else c)

/-- The bytes of a text in which percent signs stand for bytes; a percent sign without two digits
stands for itself. -/
def bytes : List Char → List UInt8
  | [] => []
  | '%' :: high :: low :: rest =>
    match Hexadecimal.digit? high, Hexadecimal.digit? low with
    | some high, some low => UInt8.ofNat (high * 16 + low) :: bytes rest
    | _, _ => 0x25 :: bytes (high :: low :: rest)
  | c :: rest => (String.ofList [c]).toUTF8.toList ++ bytes rest

/-- How many bytes a character takes that begins with a byte, or 1 if none does. -/
def width (first : UInt8) : Nat :=
  if first < 0xC2 then 1
  else if first < 0xE0 then 2
  else if first < 0xF0 then 3
  else if first < 0xF5 then 4
  else 1

/-- A byte may be the second one of a character. -/
def mayFollow (first second : UInt8) : Bool :=
  let least : UInt8 := if first = 0xE0 then 0xA0 else if first = 0xF0 then 0x90 else 0x80
  let greatest : UInt8 := if first = 0xED then 0x9F else if first = 0xF4 then 0x8F else 0xBF
  least ≤ second && second ≤ greatest

/-- The first bytes as far as they belong to one character. -/
def together (first : UInt8) (rest : List UInt8) : List UInt8 :=
  match rest.take (width first - 1) with
  | [] => [first]
  | second :: more =>
    if mayFollow first second then
      first :: second :: more.takeWhile fun byte => 0x80 ≤ byte && byte ≤ 0xBF
    else [first]

/-- The characters that bytes in UTF-8 denote. Bytes that belong together and are no character become
one replacement character. -/
def characters : (fuel : Nat) → List UInt8 → List Char
  | 0, _ => []
  | _ + 1, [] => []
  | fuel + 1, first :: rest =>
    let taken := together first rest
    (match String.fromUTF8? ⟨taken.toArray⟩ with
      | some text => text.toList
      | none => [Char.ofNat 0xFFFD]) ++ characters fuel (rest.drop (taken.length - 1))

/-- Reads percent signs as bytes. -/
def decode (text : String) : String :=
  let bytes := bytes text.toList
  String.ofList (characters bytes.length bytes)

/-- Reads a part of a form: a plus sign stands for a space. -/
def decodeForm (text : String) : String :=
  decode (String.ofList (text.toList.map fun c => if c = '+' then ' ' else c))

end Roster.Text.Percent

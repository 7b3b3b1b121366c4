/-
**Checking single settings.**

A setting comes as a data value, often as a text. Numbers and truth values may be written as texts;
everything else has to be what it should be.

* `Check.integer`, `Check.number`, `Check.truth`, `Check.text`, `Check.choice`, `Check.texts` — the
  values of each type, or what is wrong.
* `Check.field` — a field of a section, with the value that holds if it is missing.
-/

import Roster.Number.Numeral
import Roster.Settings.Problem
import Roster.Text.Blank
import Roster.Value.Basic

namespace Roster.Settings.Check

/-- A rule for values: it makes a checked value of a data value. -/
abbrev Rule (α : Type) := Value → Checked α

/-! ### Whole numbers -/

/-- The digits of a written number without its leading zeros, among which underscores may stand. The
first character has to be a digit or a minus sign; a minus sign may also follow the zeros. -/
def dropLeadingZeros (input : List Char) : Option (List Char) :=
  match input with
  | [] => none
  | first :: rest =>
    if first = '0' then afterZero ['0'] rest
    else if first.isDigit || first = '-' then some input
    else none
where
  /-- What follows leading zeros, of which the last character is kept in case nothing follows. -/
  afterZero (last : List Char) : List Char → Option (List Char)
    | [] => some last
    | c :: rest =>
      if c = '0' || c = '_' then afterZero [c] rest
      else if c.isDigit || c = '-' then some (c :: rest)
      else if c = '.' then some (last ++ c :: rest)
      else none

/-- Drops a decimal point behind which there are only zeros, but at least one. -/
def dropDecimalZeros (input : List Char) : List Char :=
  match input.dropWhile (· ≠ '.') with
  | _ :: '0' :: places => if places.all (· = '0') then input.takeWhile (· ≠ '.') else input
  | _ => input

/-- Drops single underscores between other characters. -/
def dropUnderscores : List Char → Option (List Char)
  | [] => some []
  | ['_'] => none
  | '_' :: '_' :: _ => none
  | c :: rest => do
    let rest ← dropUnderscores rest
    return if c = '_' then rest else c :: rest

/-- The number that decimal digits denote. -/
def digits? (input : List Char) : Option Nat :=
  if !input.isEmpty && input.all Char.isDigit then
    some (input.foldl (fun total c => total * 10 + (c.toNat - 0x30)) 0)
  else none

/-- The number that decimal digits, perhaps with a minus sign, denote. -/
def signed? : List Char → Option Int
  | '-' :: digits => (digits? digits).map fun size => -(size : Int)
  | digits => (digits? digits).map fun size => (size : Int)

/-- The digits of a written whole number, with its sign. -/
def wholeDigits? (text : String) : Option (List Char) := do
  let unsigned ← match (Text.trimBoth Text.isWhiteSpace text).toList with
    | '+' :: '-' :: _ => none
    | '+' :: rest => some rest
    | all => some all
  let digits := dropDecimalZeros (← dropLeadingZeros unsigned)
  if digits.head? = some '_' then none else dropUnderscores digits

/-- The text is no whole number. -/
def notWhole : Problem :=
  .of "int_parsing" "Input should be a valid integer, unable to parse string as an integer"

/-- A whole number is too large to be taken over. -/
def tooLarge : Problem :=
  .of "int_parsing_size" "Unable to parse input string as an integer, exceeded maximum size"

/-- A whole number from its written form. -/
def wholeText (text : String) : Checked Int :=
  match wholeDigits? text with
  | none => .problem notWhole
  | some digits =>
    if Numeral.mostDigits < (digits.filter Char.isDigit).length then .problem tooLarge
    else match signed? digits with
      | some number => .valid number
      | none => .problem notWhole

/-- A whole number from a number, which has to be strictly between -2^63 and 2^63. -/
def wholeReal (value : Binary64) : Checked Int :=
  match value, value.toInt? with
  | _, some number => if number.natAbs < Nat.pow 2 63 then .valid number else .problem tooLarge
  | .finite .., none => .problem (.of "int_from_float"
      "Input should be a valid integer, got a number with a fractional part")
  | _, none => .problem (.of "finite_number" "Input should be a finite number")

/-- A whole number. -/
def whole : Rule Int
  | .int value => .valid value
  | .bool value => .valid (if value then 1 else 0)
  | .text text => wholeText text
  | .real value => wholeReal value
  | _ => .problem (.of "int_type" "Input should be a valid integer")

/-- A whole number from a least value on, perhaps up to a greatest. -/
def integer (least : Int) (greatest : Option Int) : Rule Int := fun value =>
  (whole value).andThen fun number =>
    if number < least then
      .problem (.of "greater_than_equal"
        ("Input should be greater than or equal to " ++ toString least))
    else match greatest with
      | some greatest =>
        if greatest < number then
          .problem (.of "less_than_equal"
            ("Input should be less than or equal to " ++ toString greatest))
        else .valid number
      | none => .valid number

/-! ### Numbers -/

/-- A signed exponent of ten. -/
def exponent? : List Char → Option Int
  | '+' :: digits => (digits? digits).map fun size => (size : Int)
  | digits => signed? digits

/-- A number without its sign: digits with or without a point, and perhaps an exponent. -/
def unsignedNumber? (negative : Bool) (input : List Char) : Option Binary64 := do
  let isMark := fun c : Char => c = 'e' || c = 'E'
  let mantissa := input.takeWhile (!isMark ·)
  let power ← match input.dropWhile (!isMark ·) with
    | [] => some 0
    | _ :: power => exponent? power
  let before := mantissa.takeWhile (· ≠ '.')
  let after := (mantissa.dropWhile (· ≠ '.')).drop 1
  let digits ← digits? (before ++ after)
  return .ofDecimal negative digits (power - after.length)

/-- The words for what is no finite number. -/
def specialNumber? (negative : Bool) (input : List Char) : Option Binary64 :=
  let word := String.ofList (input.map Char.toLower)
  if word = "inf" || word = "infinity" then some (.infinite negative)
  else if word = "nan" then some .undefined
  else none

/-- A number from its characters. -/
def number? (input : List Char) : Option Binary64 :=
  let (negative, input) := match input with
    | '-' :: rest => (true, rest)
    | '+' :: rest => (false, rest)
    | all => (false, all)
  specialNumber? negative input <|> unsignedNumber? negative input

/-- A number from its written form. -/
def numberText (text : String) : Checked Binary64 :=
  let trimmed := (Text.trimBoth Text.isWhiteSpace text).toList
  let plain := if text.toList.head? = some '_' then none else dropUnderscores text.toList
  match number? trimmed <|> plain.bind number? with
  | some number => .valid number
  | none => .problem (.of "float_parsing"
      "Input should be a valid number, unable to parse string as a number")

/-- The value is of a kind that makes no number. -/
def notNumber : Problem := .of "float_type" "Input should be a valid number"

/-- A number. A whole number has to be within its bounds. -/
def anyNumber : Rule Binary64
  | .int value =>
    match Binary64.ofInt value with
    | .infinite _ => .problem notNumber
    | number => .valid number
  | .bool value => .valid (.ofInt (if value then 1 else 0))
  | .real value => .valid value
  | .text text => numberText text
  | _ => .problem notNumber

/-- A number above zero, up to a greatest value. -/
def number (greatest : Nat) : Rule Binary64 := fun value =>
  (anyNumber value).andThen fun number =>
    if !number.isAtMost greatest then
      .problem (.of "less_than_equal"
        ("Input should be less than or equal to " ++ toString greatest))
    else if number.isAtMost 0 then
      .problem (.of "greater_than" "Input should be greater than 0")
    else .valid number

/-! ### Truth values, texts and lists -/

/-- The words for false. -/
def falseWords : List String := ["0", "off", "f", "false", "n", "no"]

/-- The words for true. -/
def trueWords : List String := ["1", "on", "t", "true", "y", "yes"]

/-- The value cannot be read as a truth value. -/
def notTruth : Problem :=
  .of "bool_parsing" "Input should be a valid boolean, unable to interpret input"

/-- The value is of a kind that has no truth values. -/
def notTruthType : Problem := .of "bool_type" "Input should be a valid boolean"

/-- A truth value from a whole number: only 0 and 1 are ones. -/
def truthOfInt (number : Int) : Checked Bool :=
  if number = 0 then .valid false else if number = 1 then .valid true else .problem notTruth

/-- A truth value; numbers have to fit into 64 bits. -/
def truth : Rule Bool
  | .bool value => .valid value
  | .int value =>
    if -(Nat.pow 2 63 : Int) ≤ value ∧ value < Nat.pow 2 63 then truthOfInt value
    else .problem notTruthType
  | .real value =>
    match wholeReal value with
    | .valid number => truthOfInt number
    | .invalid _ => .problem notTruthType
  | .text text =>
    let word := String.ofList (text.toList.map Char.toLower)
    if falseWords.contains word then .valid false
    else if trueWords.contains word then .valid true
    else .problem notTruth
  | _ => .problem notTruthType

/-- A text. -/
def text : Rule String
  | .text value => .valid value
  | _ => .problem (.of "string_type" "Input should be a valid string")

/-- A list of texts. -/
def texts : Rule (List String)
  | .list values => Checked.items text 0 values
  | _ => .problem (.of "list_type" "Input should be a valid list")

/-- One word of a closed set. -/
def choice {α : Type} (all : List α) (label : α → String) (message : String) : Rule α := fun value =>
  match all.find? fun candidate => value == .text (label candidate) with
  | some found => .valid found
  | none => .problem (.of "enum" message)

/-- A field of a section, with the value that holds if it is missing. -/
def field {α : Type} (name : String) (check : Rule α) (usual : Option α)
    (fields : List (String × Value)) : Checked α :=
  match Value.lookup name fields, usual with
  | some value, _ => (check value).under (.field name)
  | none, some usual => .valid usual
  | none, none => Checked.under (.field name) (.problem (.of "missing" "Field required"))

end Roster.Settings.Check

/-
**Numeric addresses of hosts.**

Such an address has eight groups of sixteen bits. Its text gives the groups in hexadecimal digits with
colons between them. Two colons in a row stand for one or more groups of zero, which may happen once,
and the last two groups may be written as four decimal numbers with points between them.

* `HostAddress.read?` — the address that a text gives.
* `HostAddress.text` — the shortest text of an address.
-/

import Roster.Text.Hexadecimal

namespace Roster.Settings

/-- A numeric address of a host, as eight groups of sixteen bits. -/
structure HostAddress where
  groups : List Nat
deriving DecidableEq, Repr, Inhabited

namespace HostAddress

/-- How many groups an address has. -/
def size : Nat := 8

/-! ### Reading -/

/-- A group: one to four hexadecimal digits. -/
def group? (input : List Char) : Option Nat :=
  if input.isEmpty || 4 < input.length then none
  else (input.mapM Text.Hexadecimal.digit?).map fun digits =>
    digits.foldl (fun total digit => total * 16 + digit) 0

/-- A number below 256 in decimal digits without further zeros in front. -/
def octet? (input : List Char) : Option Nat :=
  if input.isEmpty || 3 < input.length || !input.all Char.isDigit
      || (input.head? = some '0' && 1 < input.length) then none
  else
    let number := input.foldl (fun total c => total * 10 + (c.toNat - 0x30)) 0
    if number < 256 then some number else none

/-- Two groups from four decimal numbers. -/
def quad? (input : List Char) : Option (List Nat) := do
  match ← (input.splitOn '.').mapM octet? with
  | [first, second, third, fourth] => return [first * 256 + second, third * 256 + fourth]
  | _ => none

/-- Groups with colons between them; none in an empty text. The last one may be two groups in decimal
numbers if the address ends here. -/
def groups? (isEnd : Bool) (input : List Char) : Option (List Nat) :=
  if input.isEmpty then some []
  else
    let parts := input.splitOn ':'
    let last := parts.getLast?.getD []
    match parts.dropLast.mapM group?, group? last, quad? last with
    | some front, some group, _ => some (front ++ [group])
    | some front, none, some pair => if isEnd then some (front ++ pair) else none
    | _, _, _ => none

/-- What stands before and behind the first two colons in a row. -/
def aroundGap? : List Char → Option (List Char × List Char)
  | ':' :: ':' :: rest => some ([], rest)
  | c :: rest => (aroundGap? rest).map fun (before, behind) => (c :: before, behind)
  | [] => none

/-- The address that a text gives. -/
def read? (input : List Char) : Option HostAddress :=
  match aroundGap? input with
  | none => do
    let groups ← groups? true input
    if groups.length = size then some ⟨groups⟩ else none
  | some (before, behind) => do
    let front ← groups? false before
    let back ← groups? true behind
    let given := front.length + back.length
    if given < size then some ⟨front ++ List.replicate (size - given) 0 ++ back⟩ else none

/-! ### Writing -/

/-- Where the first of the longest runs of zero groups begins, and how long it is. -/
def longestRun (groups : List Nat) : Nat × Nat :=
  (List.range groups.length).foldl (fun longest start =>
    let length := ((groups.drop start).takeWhile (· = 0)).length
    if longest.2 < length then (start, length) else longest) (0, 0)

/-- Groups in hexadecimal digits with colons between them. -/
def groupsText (groups : List Nat) : String :=
  ":".intercalate (groups.map fun group => String.ofList (Nat.toDigits 16 group))

/-- The shortest text of an address: the first of the longest runs of at least two zero groups is left
out. -/
def text (address : HostAddress) : String :=
  let (start, length) := longestRun address.groups
  if length < 2 then groupsText address.groups
  else groupsText (address.groups.take start) ++ "::"
    ++ groupsText (address.groups.drop (start + length))

end HostAddress

end Roster.Settings

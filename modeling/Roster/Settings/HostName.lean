/-
**Names of hosts.**

A host stands for itself, or between brackets as a numeric address of eight groups. Behind the schemes of the
web a host is the name of a domain: percent signs in it are read, and a name that ends in a number has to be
a numeric address of four bytes.

* `HostName.plain` — a host in its normal form, or what is wrong with it.
* `HostName.domain` — what is wrong with the name of a domain, if anything is.
-/

import Roster.Settings.HostAddress
import Roster.Text.Percent

namespace Roster.Settings

/-- Why a text is no address. -/
inductive AddressError where
  | empty
  | relative
  | emptyHost
  | port
  | character
  | domain
  | shortNumber
  | longNumber
deriving DecidableEq, Repr, Inhabited

/-- The wording of an address error. -/
def AddressError.message : AddressError → String
  | .empty => "input is empty"
  | .relative => "relative URL without a base"
  | .emptyHost => "empty host"
  | .port => "invalid port number"
  | .character => "invalid domain character"
  | .domain => "invalid international domain name"
  | .shortNumber => "invalid IPv4 address"
  | .longNumber => "invalid IPv6 address"

/-- Controls and characters beyond ASCII are written behind percent signs everywhere. -/
def isControl (c : Char) : Bool := c.toNat < 0x20 || 0x7E < c.toNat

/-- Writes the characters of a set behind percent signs. -/
def encoded (isEncoded : Char → Bool) (input : List Char) : String :=
  String.ofList (input.flatMap fun c =>
    if isEncoded c then (String.ofList [c]).toUTF8.toList.flatMap Text.Percent.encodeByte else [c])

namespace HostName

/-- The characters of a host up to the colon before a port; a colon between brackets is part of the
host. -/
def upToPort : (inside : Bool) → List Char → List Char
  | _, [] => []
  | inside, c :: rest =>
    if c = ':' && !inside then [] else c :: upToPort ((inside || c = '[') && c ≠ ']') rest

/-- A numeric address, whose first bracket is taken off, in its normal form. -/
def bracketed (inner : List Char) : Except AddressError String :=
  match inner.getLast?, HostAddress.read? inner.dropLast with
  | some ']', some address => .ok ("[" ++ address.text ++ "]")
  | _, _ => .error .longNumber

/-- Characters that may not stand in a host. -/
def isForbidden (c : Char) : Bool :=
  c.toNat = 0 || " #/:<>?@[\\]^|".toList.contains c

/-- A host in its normal form. -/
def plain : List Char → Except AddressError String
  | '[' :: inner => bracketed inner
  | input => if input.any isForbidden then .error .character else .ok (encoded isControl input)

/-! ### Domains -/

/-- Characters that may not stand in the name of a domain. -/
def isForbiddenInDomain (c : Char) : Bool :=
  c.toNat ≤ 0x20 || c.toNat = 0x7F || "%#/:<>?@[\\]^|".toList.contains c

/-- A number with its base: sixteen behind `0x`, eight behind a zero, otherwise ten. No digits at all behind
these marks are a zero. -/
def number? (part : List Char) : Option Nat :=
  let inBase (base : Nat) (digits : List Char) : Option Nat := do
    let values ← digits.mapM Text.Hexadecimal.digit?
    guard (values.all (· < base))
    return values.foldl (fun total value => total * base + value) 0
  match part with
  | [] => none
  | '0' :: 'x' :: digits | '0' :: 'X' :: digits => inBase 16 digits
  | '0' :: first :: digits => inBase 8 (first :: digits)
  | digits => inBase 10 digits

/-- The parts of a name between its points, without an empty one at the end. -/
def parts (name : List Char) : List (List Char) :=
  let parts := name.splitOn '.'
  if parts.getLast? = some [] then parts.dropLast else parts

/-- The last part of a name is a number, or would be one in another base. -/
def endsInNumber (name : List Char) : Bool :=
  (parts name).getLast?.any fun last =>
    (!last.isEmpty && last.all Char.isDigit) || (number? last).isSome

/-- The name is a numeric address of four bytes. There may be fewer numbers, of which the last one stands for
all bytes that are left. -/
def isByteAddress (name : List Char) : Bool :=
  match (parts name).mapM number? with
  | none => false
  | some numbers =>
    let first := numbers.dropLast
    numbers.length ≤ 4 && first.all (· < 256)
      && numbers.getLast?.any fun last => last < Nat.pow 256 (4 - first.length)

/-- The name of a domain in lower case. Characters beyond ASCII are taken for letters. -/
def domain : List Char → Except AddressError String
  | '[' :: inner => bracketed inner
  | input => do
    let bytes := Text.Percent.bytes input
    let some text := String.fromUTF8? ⟨bytes.toArray⟩ | throw .domain
    let name := text.toList.map Char.toLower
    if name.any isForbiddenInDomain then throw .domain
    if name.isEmpty then throw .emptyHost
    if endsInNumber name && !isByteAddress name then throw .shortNumber
    return String.ofList name

end HostName

end Roster.Settings

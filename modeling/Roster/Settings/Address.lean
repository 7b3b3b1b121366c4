/-
**Checking the address of the database.**

An address has a scheme, one or several hosts with or without users and ports, a path, a query and a
fragment. It is brought into a normal form: the scheme in lower case, characters that may not stand
where they do behind percent signs, ports without leading zeros, and no steps up or in place in the
path.

* `Address.check` — the normal form, or what is wrong.
-/

import Roster.Settings.HostName
import Roster.Settings.Problem
import Roster.Value.Basic

namespace Roster.Settings.Address

/-- The schemes of a database address. -/
def schemes : List String :=
  ["postgres", "postgresql", "postgresql+asyncpg", "postgresql+pg8000", "postgresql+psycopg",
    "postgresql+psycopg2", "postgresql+psycopg2cffi", "postgresql+py-postgresql",
    "postgresql+pygresql"]

/-! ### Characters -/

/-- Characters that are written behind percent signs in a query. -/
def isQueryEncoded (c : Char) : Bool :=
  isControl c || c = ' ' || c = '\x22' || c = '#' || c = '<' || c = '>'

/-- Characters that are written behind percent signs in a path. -/
def isPathEncoded (c : Char) : Bool :=
  isQueryEncoded c || c = '?' || c = '\x60' || c = '\x7b' || c = '\x7d'

/-- Characters that are written behind percent signs in the name of a user and in a password. -/
def isUserEncoded (c : Char) : Bool :=
  isPathEncoded c || "/:;=@[\\]^|".toList.contains c

/-- Characters that are written behind percent signs in a fragment. -/
def isFragmentEncoded (c : Char) : Bool :=
  isControl c || c = ' ' || c = '\x22' || c = '<' || c = '>' || c = '\x60'

/-! ### Users and ports -/

/-- A user with a password, in their normal form with an at sign behind, if there is either. -/
def user (input : List Char) : String :=
  let name := input.takeWhile (· ≠ ':')
  let password := (input.drop name.length).drop 1
  if name.isEmpty && password.isEmpty then ""
  else encoded isUserEncoded name
    ++ (if password.isEmpty then "" else ":" ++ encoded isUserEncoded password) ++ "@"

/-- What stands before the last at sign, if there is one, and what stands behind it. -/
def aroundUser (input : List Char) : Option (List Char) × List Char :=
  let behind := (input.reverse.takeWhile (· ≠ '@')).reverse
  if behind.length = input.length then (none, input)
  else (some (input.take (input.length - behind.length - 1)), behind)

/-- A port in its normal form behind a colon, and what follows it. A port of no digits is none. -/
def port : List Char → Except AddressError (String × List Char)
  | ':' :: input => do
    let digits := input.takeWhile Char.isDigit
    let rest := input.drop digits.length
    let number := digits.foldl (fun total c => total * 10 + (c.toNat - 0x30)) 0
    if 65535 < number || rest.head?.any (!"/\\?#".toList.contains ·) then throw .port
    return (if digits.isEmpty then "" else ":" ++ toString number, rest)
  | input => return ("", input)

/-! ### Paths -/

/-- A step in place, perhaps with a percent sign. -/
def isHere (step : List Char) : Bool :=
  [".", "%2e"].contains (String.ofList (step.map Char.toLower))

/-- A step up, perhaps with percent signs. -/
def isUp (step : List Char) : Bool :=
  ["..", ".%2e", "%2e.", "%2e%2e"].contains (String.ofList (step.map Char.toLower))

/-- The name of a drive: a letter with a colon or a bar. -/
def isDrive : List Char → Bool
  | [letter, mark] => letter.isAlpha && (mark = ':' || mark = '|')
  | _ => false

/-- The steps of a path without those in place and up. No step up leaves a drive. A path that ends in such
a step ends in a slash. -/
def walk : (taken : List (List Char)) → List (List Char) → List (List Char)
  | taken, [] => taken.reverse
  | taken, step :: rest =>
    let last := rest.isEmpty
    if isUp step then
      let shorter := if taken.head?.any isDrive then taken else taken.drop 1
      walk (if last then [] :: shorter else shorter) rest
    else if isHere step then walk (if last then [] :: taken else taken) rest
    else walk (step :: taken) rest

/-- A path in normal form, which begins with a slash unless it is empty. -/
def path (input : List Char) : String :=
  let steps := match input with
    | '/' :: rest => rest
    | other => other
  if input.isEmpty then ""
  else "/" ++ "/".intercalate ((walk [] (steps.splitOn '/')).map (encoded isPathEncoded))

/-- Path, query and fragment in normal form. -/
def tail (input : List Char) : String :=
  let fragment := input.dropWhile (· ≠ '#')
  let input := input.takeWhile (· ≠ '#')
  let query := input.dropWhile (· ≠ '?')
  let input := input.takeWhile (· ≠ '?')
  let marked (mark : String) (isEncoded : Char → Bool) (part : List Char) : String :=
    if part.isEmpty then "" else mark ++ encoded isEncoded (part.drop 1)
  path input ++ marked "?" isQueryEncoded query ++ marked "#" isFragmentEncoded fragment

/-! ### Sites -/

/-- A host with what surrounds it in an address: whether there is a host, and the normal form of all that
follows the two slashes. -/
structure Site where
  hasHost : Bool := false
  text : String := ""
deriving Repr, Inhabited

/-- A site behind its two slashes. A user or a port need a host, and so does an at sign unless the site ends
with it. -/
def Site.ofAuthority (input : List Char) : Except AddressError Site := do
  let authority := input.takeWhile (!"/?#".toList.contains ·)
  let beyond := input.drop authority.length
  let (before, behind) := aroundUser authority
  if before = some [] && behind.isEmpty && !beyond.isEmpty then throw .emptyHost
  let user := user (before.getD [])
  let name := HostName.upToPort false behind
  let rest := behind.drop name.length
  let host ← HostName.plain name
  if name.isEmpty && (rest.head? = some ':' || !user.isEmpty) then throw .emptyHost
  let (port, rest) ← port (rest ++ beyond)
  return { hasHost := !name.isEmpty, text := user ++ host ++ port ++ tail rest }

/-- The character is a slash of either kind. -/
def isSlash (c : Char) : Bool := c = '/' || c = '\\'

/-- A site of the web, of which only the host matters: it is in its place behind any number of slashes. -/
def Site.ofWeb (input : List Char) : Except AddressError Site := do
  let input := input.dropWhile isSlash
  let authority := input.takeWhile (!"/\\?#".toList.contains ·)
  let (_, behind) := aroundUser authority
  let name := HostName.upToPort false behind
  if name.isEmpty then throw .emptyHost
  let text ← HostName.domain name
  let _ ← port (behind.drop name.length)
  return { hasHost := true, text }

/-- A site of a file, of which only the host matters. The own host counts as none. -/
def Site.ofFile (input : List Char) : Except AddressError Site := do
  match input with
  | first :: second :: rest =>
    let name := rest.takeWhile (!"/\\?#".toList.contains ·)
    if !isSlash first || !isSlash second || name.isEmpty || isDrive name then return {}
    let text ← HostName.domain name
    return { hasHost := text ≠ "localhost", text }
  | _ => return {}

/-- The schemes of the web. -/
def webSchemes : List String := ["http", "https", "ws", "wss", "ftp"]

/-- The scheme has sites of its own kind, in which either kind of slash ends a host. -/
def isSpecial (scheme : String) : Bool := webSchemes.contains scheme || scheme = "file"

/-- The site behind the colon of a scheme. -/
def Site.read (scheme : String) (input : List Char) : Except AddressError Site :=
  if webSchemes.contains scheme then ofWeb input
  else if scheme = "file" then ofFile input
  else match input with
    | '/' :: '/' :: rest => ofAuthority rest
    | _ => return {}

/-! ### Addresses -/

/-- The characters of an address without blanks and controls at its ends, tabs and line ends. -/
def relevant (text : String) : List Char :=
  let isEdge := fun c : Char => c.toNat ≤ 0x20
  (((text.toList.dropWhile isEdge).reverse.dropWhile isEdge).reverse).filter fun c =>
    c ≠ '\t' && c ≠ '\n' && c ≠ '\r'

/-- The scheme in lower case, with what follows the colon. -/
def scheme? (input : List Char) : Option (String × List Char) :=
  let isPart := fun c : Char => c.isAlphanum || c = '+' || c = '-' || c = '.'
  let name := input.takeWhile isPart
  match name, input.drop name.length with
  | first :: _, ':' :: rest =>
    if first.isAlpha then some (String.ofList (name.map Char.toLower), rest) else none
  | _, _ => none

/-- An address taken apart: its scheme in lower case and its sites, of which the last one has the path. -/
structure Parts where
  scheme : String
  others : List Site
  last : Site
deriving Repr, Inhabited

/-- Takes an address apart. Of several hosts none may be missing; the last one, which has the slashes before
it and the path behind it, is read first. -/
def read (text : String) : Except AddressError Parts := do
  if text.isEmpty then throw .empty
  let some (scheme, input) := scheme? (relevant text) | throw .relative
  let slashes := input.takeWhile isSlash
  let input := input.drop slashes.length
  let hosts := input.takeWhile fun c => !"/?#".toList.contains c && !(c = '\\' && isSpecial scheme)
  let names := hosts.splitOn ','
  let others := names.dropLast
  if others.any (·.isEmpty) then throw .emptyHost
  let last ← Site.read scheme (slashes ++ names.getLast?.getD [] ++ input.drop hosts.length)
  if !others.isEmpty && !last.hasHost then throw .emptyHost
  let others ← others.mapM fun name => Site.read scheme ('/' :: '/' :: name)
  if others.any (!·.hasHost) then throw .emptyHost
  return { scheme, others, last }

/-- An address is not readable. -/
def unreadable (error : AddressError) : Problem :=
  .of "url_parsing" ("Input should be a valid URL, " ++ error.message)

/-- The list of words in a message, with a word before the last one. -/
def orList (words : List String) : String :=
  let quoted := words.map fun word => "\x27" ++ word ++ "\x27"
  ", ".intercalate quoted.dropLast ++ " or " ++ quoted.getLast?.getD ""

/-- The address of a database in its normal form. -/
def checkText (text : String) : Checked String :=
  match read text with
  | .error error => .problem (unreadable error)
  | .ok parts =>
    if !schemes.contains parts.scheme then
      .problem (.of "url_scheme" ("URL scheme should be " ++ orList schemes))
    else if !parts.last.hasHost then .problem (unreadable .emptyHost)
    else .valid (parts.scheme ++ "://"
      ++ ",".intercalate ((parts.others ++ [parts.last]).map Site.text))

/-- The address of a database in its normal form, from a data value. -/
def check : Value → Checked String
  | .text text => checkText text
  | _ => .problem (.of "url_type" "URL input should be a string or URL")

end Roster.Settings.Address

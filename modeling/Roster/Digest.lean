/-
**Content digests.**

The digest of a content is its 256-bit secure hash, written with 64 hexadecimal digits. The content
is padded to blocks of 64 bytes; each block is expanded to 64 words and mixed into eight words of
state; the digest is the state after the last block.

* `Digest.ofBytes`, `Digest.ofText` — the digest of bytes, and of a text through its UTF-8 form.
* `Digest.ofContent` — the digest of either.
-/

import Roster.Text.Quoted

namespace Roster.Digest

/-- The 64 round constants: the fractional parts of the cube roots of the first primes. -/
def roundConstants : Array UInt32 := #[
  0x428a2f98, 0x71374491, 0xb5c0fbcf, 0xe9b5dba5, 0x3956c25b, 0x59f111f1, 0x923f82a4, 0xab1c5ed5,
  0xd807aa98, 0x12835b01, 0x243185be, 0x550c7dc3, 0x72be5d74, 0x80deb1fe, 0x9bdc06a7, 0xc19bf174,
  0xe49b69c1, 0xefbe4786, 0x0fc19dc6, 0x240ca1cc, 0x2de92c6f, 0x4a7484aa, 0x5cb0a9dc, 0x76f988da,
  0x983e5152, 0xa831c66d, 0xb00327c8, 0xbf597fc7, 0xc6e00bf3, 0xd5a79147, 0x06ca6351, 0x14292967,
  0x27b70a85, 0x2e1b2138, 0x4d2c6dfc, 0x53380d13, 0x650a7354, 0x766a0abb, 0x81c2c92e, 0x92722c85,
  0xa2bfe8a1, 0xa81a664b, 0xc24b8b70, 0xc76c51a3, 0xd192e819, 0xd6990624, 0xf40e3585, 0x106aa070,
  0x19a4c116, 0x1e376c08, 0x2748774c, 0x34b0bcb5, 0x391c0cb3, 0x4ed8aa4a, 0x5b9cca4f, 0x682e6ff3,
  0x748f82ee, 0x78a5636f, 0x84c87814, 0x8cc70208, 0x90befffa, 0xa4506ceb, 0xbef9a3f7, 0xc67178f2
]

/-- Eight words of working state. -/
structure State where
  a : UInt32
  b : UInt32
  c : UInt32
  d : UInt32
  e : UInt32
  f : UInt32
  g : UInt32
  h : UInt32
deriving DecidableEq, Repr

/-- The state before the first block: the fractional parts of the square roots of the first primes. -/
def State.initial : State :=
  ⟨0x6a09e667, 0xbb67ae85, 0x3c6ef372, 0xa54ff53a, 0x510e527f, 0x9b05688c, 0x1f83d9ab, 0x5be0cd19⟩

/-- A word rotated to the right. -/
def rotate (word count : UInt32) : UInt32 :=
  (word >>> count) ||| (word <<< (32 - count))

/-- One round of mixing. -/
def State.round (s : State) (constant word : UInt32) : State :=
  let high := rotate s.e 6 ^^^ rotate s.e 11 ^^^ rotate s.e 25
  let choice := (s.e &&& s.f) ^^^ ((~~~ s.e) &&& s.g)
  let first := s.h + high + choice + constant + word
  let low := rotate s.a 2 ^^^ rotate s.a 13 ^^^ rotate s.a 22
  let majority := (s.a &&& s.b) ^^^ (s.a &&& s.c) ^^^ (s.b &&& s.c)
  ⟨first + low + majority, s.a, s.b, s.c, s.d + first, s.e, s.f, s.g⟩

/-- Adds two states word by word. -/
def State.add (s t : State) : State :=
  ⟨s.a + t.a, s.b + t.b, s.c + t.c, s.d + t.d, s.e + t.e, s.f + t.f, s.g + t.g, s.h + t.h⟩

/-- The word that follows sixteen or more words of a message block. -/
def nextWord (words : Array UInt32) : UInt32 :=
  let size := words.size
  let early := words.getD (size - 15) 0
  let late := words.getD (size - 2) 0
  let first := rotate early 7 ^^^ rotate early 18 ^^^ (early >>> 3)
  let second := rotate late 17 ^^^ rotate late 19 ^^^ (late >>> 10)
  words.getD (size - 16) 0 + first + words.getD (size - 7) 0 + second

/-- Extends the sixteen words of a block to 64. -/
def expand (words : Array UInt32) : Array UInt32 :=
  (List.range 48).foldl (fun words _ => words.push (nextWord words)) words

/-- Mixes one block of sixteen words into the state. -/
def State.absorb (s : State) (block : List UInt32) : State :=
  let words := expand block.toArray
  s.add ((List.range 64).foldl
    (fun state i => state.round (roundConstants.getD i 0) (words.getD i 0)) s)

/-- The big-endian words of a sequence of bytes; a rest of fewer than four bytes is dropped. -/
def words : List UInt8 → List UInt32
  | a :: b :: c :: d :: rest =>
    (a.toUInt32 <<< 24 ||| b.toUInt32 <<< 16 ||| c.toUInt32 <<< 8 ||| d.toUInt32) :: words rest
  | _ => []

/-- The big-endian bytes of a number, so many of them. -/
def bigEndian : (count number : Nat) → List UInt8
  | 0, _ => []
  | count + 1, number => bigEndian count (number / 256) ++ [UInt8.ofNat (number % 256)]

/-- The content, a one bit, zeros, and its length in bits, filling whole blocks. -/
def padding (bytes : List UInt8) : List UInt8 :=
  let length := bytes.length
  let zeros := (119 - length % 64) % 64
  bytes ++ 0x80 :: List.replicate zeros 0 ++ bigEndian 8 (length * 8)

/-- Cuts a sequence of words into `count` blocks of sixteen. -/
def blocks : (count : Nat) → List UInt32 → List (List UInt32)
  | 0, _ => []
  | count + 1, words => words.take 16 :: blocks count (words.drop 16)

/-- The eight hexadecimal digits of a word. -/
def wordDigits (word : UInt32) : List Char :=
  Text.Quoted.hexDigits 8 word.toNat

/-- The 64 hexadecimal digits of a state. -/
def State.text (s : State) : String :=
  String.ofList ([s.a, s.b, s.c, s.d, s.e, s.f, s.g, s.h].flatMap wordDigits)

/-- The digest of a sequence of bytes. -/
def ofBytes (bytes : List UInt8) : String :=
  let padded := padding bytes
  ((blocks (padded.length / 64) (words padded)).foldl State.absorb State.initial).text

/-- The digest of a text, through its UTF-8 form. -/
def ofText (text : String) : String :=
  ofBytes text.toUTF8.toList

/-- A content: a text, or bytes. -/
inductive Content where
  | text (text : String)
  | bytes (bytes : List UInt8)
deriving DecidableEq, Repr, Inhabited

/-- The digest of a content. -/
def ofContent : Content → String
  | .text text => ofText text
  | .bytes bytes => ofBytes bytes

end Roster.Digest

/-!
# UTF-8

Characters as one to four bytes. `Utf8.decode` reads bytes as text; where they are none it says how
many of them were.
-/

namespace Periapsis.Utf8

/-- A text as bytes. -/
def encode (text : List Char) : List UInt8 :=
  text.flatMap String.utf8EncodeChar

/-- The low six bits of a byte that continues a character. -/
def tail? (b : UInt8) : Option Nat :=
  if 0x80 ≤ b ∧ b ≤ 0xBF then some (b.toNat - 0x80) else none

/-- The character that a list of bytes starts with, and the number of bytes it takes. Each
character has one spelling only: none that could be shorter, no surrogate, none beyond the last. -/
def first? : List UInt8 → Option (Char × Nat)
  | [] => none
  | a :: rest =>
    if a < 0x80 then some (Char.ofNat a.toNat, 1)
    else if a < 0xC2 then none
    else if a < 0xE0 then do
      let b ← rest[0]? >>= tail?
      return (Char.ofNat ((a.toNat - 0xC0) * 0x40 + b), 2)
    else if a < 0xF0 then do
      let b ← rest[0]? >>= tail?
      let c ← rest[1]? >>= tail?
      let n := ((a.toNat - 0xE0) * 0x40 + b) * 0x40 + c
      if 0x800 ≤ n ∧ ¬ (0xD800 ≤ n ∧ n ≤ 0xDFFF) then return (Char.ofNat n, 3) else none
    else if a < 0xF5 then do
      let b ← rest[0]? >>= tail?
      let c ← rest[1]? >>= tail?
      let d ← rest[2]? >>= tail?
      let n := (((a.toNat - 0xF0) * 0x40 + b) * 0x40 + c) * 0x40 + d
      if 0x10000 ≤ n ∧ n ≤ 0x10FFFF then return (Char.ofNat n, 4) else none
    else none

/-- Reads on with the text read so far, its last character first, and its length in bytes. The
first number counts the bytes of a character that are still to be passed over. -/
def decodeFrom : Nat → List Char → Nat → List UInt8 → Except Nat (List Char)
  | _, text, _, [] => .ok text.reverse
  | skip + 1, text, length, _ :: rest => decodeFrom skip text length rest
  | 0, text, length, b :: rest =>
    match first? (b :: rest) with
    | some (c, size) => decodeFrom (size - 1) (c :: text) (length + size) rest
    | none => .error length

/-- Bytes as text, or how many of them are. -/
def decode (bytes : List UInt8) : Except Nat (List Char) :=
  decodeFrom 0 [] 0 bytes

end Periapsis.Utf8

import AccessLog.Encoding.Utf8

/-!
# UTF-16 with replacement

Two bytes make a unit, in the order that the encoding fixes, and a high surrogate followed by a low
one makes a character. A surrogate without its partner becomes one replacement character, and so
does what is left at the end of the bytes: a single byte, or a high surrogate with whatever byte
follows it.
-/

namespace AccessLog.Encoding.Utf16

/-- The unit that two neighbouring bytes make. -/
def unit (bigEndian : Bool) (a b : UInt8) : Nat :=
  if bigEndian then a.toNat * 256 + b.toNat else b.toNat * 256 + a.toNat

/-- The characters of a byte sequence, `high` being the high surrogate that was read last. -/
def decodeFrom (bigEndian : Bool) : Option Nat → List UInt8 → List Char
  | none, [] => []
  | some _, [] => [replacement]
  | _, [_] => [replacement]
  | none, a :: b :: bs =>
    let u := unit bigEndian a b
    if 0xD800 ≤ u ∧ u < 0xDC00 then decodeFrom bigEndian (some u) bs
    else if 0xDC00 ≤ u ∧ u < 0xE000 then replacement :: decodeFrom bigEndian none bs
    else Char.ofNat u :: decodeFrom bigEndian none bs
  | some high, a :: b :: bs =>
    let u := unit bigEndian a b
    if 0xDC00 ≤ u ∧ u < 0xE000 then
      Char.ofNat (0x10000 + (high - 0xD800) * 0x400 + (u - 0xDC00)) :: decodeFrom bigEndian none bs
    else if 0xD800 ≤ u ∧ u < 0xDC00 then replacement :: decodeFrom bigEndian (some u) bs
    else replacement :: Char.ofNat u :: decodeFrom bigEndian none bs

/-- The characters of a byte sequence. -/
def decode (bigEndian : Bool) (bs : List UInt8) : List Char := decodeFrom bigEndian none bs

end AccessLog.Encoding.Utf16

/-!
# UTF-8 with replacement

Bytes are read one at a time. Between characters the decoder waits for a first byte; inside a
character it knows how many continuation bytes are still owed and, for the next of them, the range
that keeps the character shortest-form, below U+110000 and out of the surrogates. A byte outside
that range ends the character unfinished: what has been read of it becomes one replacement character
and the byte is read again as a first byte. So every maximal part that no character can continue
becomes one replacement character, and a byte below 0x80 always ends up as the character it is.
-/

namespace AccessLog.Encoding

/-- The character that stands for what cannot be decoded. -/
def replacement : Char := '\uFFFD'

namespace Utf8

/-- Where the decoder stands between two bytes. -/
inductive State where
  /-- Between characters. -/
  | start
  /-- Inside a character: the value so far, the continuation bytes owed after the next one, and the
  least and greatest value of the next one. -/
  | inside (value owed low high : Nat)
deriving DecidableEq, Repr

/-- What a first byte gives: its character, if it is one on its own, and the state behind it. -/
def first (b : Nat) : List Char × State :=
  if b < 0x80 then ([Char.ofNat b], .start)
  else if b < 0xC2 then ([replacement], .start)
  else if b < 0xE0 then ([], .inside (b - 0xC0) 0 0x80 0xBF)
  else if b = 0xE0 then ([], .inside 0 1 0xA0 0xBF)
  else if b = 0xED then ([], .inside 0xD 1 0x80 0x9F)
  else if b < 0xF0 then ([], .inside (b - 0xE0) 1 0x80 0xBF)
  else if b = 0xF0 then ([], .inside 0 2 0x90 0xBF)
  else if b < 0xF4 then ([], .inside (b - 0xF0) 2 0x80 0xBF)
  else if b = 0xF4 then ([], .inside 4 2 0x80 0x8F)
  else ([replacement], .start)

/-- What one byte gives: the characters that it completes, and the state behind it. -/
def step : State → Nat → List Char × State
  | .start, b => first b
  | .inside value owed low high, b =>
    if low ≤ b ∧ b ≤ high then
      match owed with
      | 0 => ([Char.ofNat (value * 64 + (b - 0x80))], .start)
      | owed + 1 => ([], .inside (value * 64 + (b - 0x80)) owed 0x80 0xBF)
    else
      let r := first b
      (replacement :: r.1, r.2)

/-- What is left over at the end of the bytes: a replacement for an unfinished character. -/
def State.flush : State → List Char
  | .start => []
  | .inside .. => [replacement]

/-- The characters of the bytes that follow a state. -/
def decodeFrom : State → List UInt8 → List Char
  | s, [] => s.flush
  | s, b :: bs => (step s b.toNat).1 ++ decodeFrom (step s b.toNat).2 bs

/-- The characters of a byte sequence. -/
def decode (bs : List UInt8) : List Char := decodeFrom .start bs

end Utf8

end AccessLog.Encoding

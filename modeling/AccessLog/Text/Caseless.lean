import AccessLog.Text.LetterCase

/-!
# Letters compared without regard to case

Two characters count as the same letter if they have one lower-case partner, or if their partners
are among the few small letters that share a capital, such as the long s and the s. `caseKey` picks
one member of each such class, so that the comparison is an equality of keys.
-/

namespace AccessLog.Text

/-- Small letters that share a capital with another small letter, each with the least of its class.
-/
def sharedCapitals : List (Nat × Nat) :=
  [(0x131, 0x69), (0x17F, 0x73), (0x3BC, 0xB5), (0x3B9, 0x345), (0x1FBE, 0x345), (0x1FD3, 0x390),
   (0x1FE3, 0x3B0), (0x3D0, 0x3B2), (0x3F5, 0x3B5), (0x3D1, 0x3B8), (0x3F0, 0x3BA), (0x3D6, 0x3C0),
   (0x3F1, 0x3C1), (0x3C3, 0x3C2), (0x3D5, 0x3C6), (0x1C80, 0x432), (0x1C81, 0x434),
   (0x1C82, 0x43E), (0x1C83, 0x441), (0x1C84, 0x442), (0x1C85, 0x442), (0x1C86, 0x44A),
   (0x1C87, 0x463), (0xA64B, 0x1C88), (0x1E9B, 0x1E61), (0xFB06, 0xFB05)]

/-- The code point that stands for all forms of a letter. -/
def caseKey (c : Char) : Nat :=
  let n := (lowerChar c).toNat
  (sharedCapitals.lookup n).getD n

/-- Whether the two characters are forms of one letter. -/
def sameLetter (c d : Char) : Bool := caseKey c == caseKey d

end AccessLog.Text

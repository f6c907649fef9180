import AccessLog.Encoding.Utf8
import AccessLog.Encoding.Utf16
import AccessLog.Encoding.SingleByte

/-!
# Encodings and their names

The encodings that a log file can be read with. Decoding never fails: what an encoding cannot decode
becomes replacement characters.

Some encodings are written out here. The system knows many more, such as those of East Asia, and
programs can add theirs. Which codecs stand behind further names is a parameter (`Registry`), and
what is relied on is that a codec finds the line endings of a text as it goes (`Codec`).

A name is compared after normalising: its letters are taken in lower case, and every run of
characters other than ASCII letters, digits and full stops counts as one underscore, or as nothing
at either end. Each encoding has its own name and a list of further names; in a further name a full
stop may stand for an underscore. The same holds of the names of transformations, which turn bytes
into bytes or text into text, and so encode no text.
-/

namespace AccessLog

/-- A codec that is not written out here. -/
structure Codec where
  /-- The characters of a byte sequence. -/
  decode : List UInt8 → List Char
  /-- No bytes encode no characters. -/
  decode_nil : decode [] = []
  /-- The bytes up to a line ending decode to the text up to it, whatever follows. -/
  decode_take {c : Char} {bs : List UInt8} {a b : List Char} : c = '\r' ∨ c = '\n' →
    decode bs = a ++ c :: b → ∃ n, decode (bs.take n) = a ++ [c]

/-- The codecs under further names. -/
def Registry : Type := String → Option Codec

/-- No codecs but those that are written out. -/
def Registry.empty : Registry := fun _ => none

/-- The encodings of log files. -/
inductive Encoding where
  /-- UTF-8. -/
  | utf8
  /-- UTF-8 behind an optional byte order mark. -/
  | utf8Signed
  /-- ASCII. -/
  | ascii
  /-- Latin-1. -/
  | latin1
  /-- UTF-16, the low byte of a unit first. -/
  | utf16Little
  /-- UTF-16, the high byte of a unit first. -/
  | utf16Big
  /-- The Cyrillic code page 1251. -/
  | cyrillic
  /-- That of a further codec. -/
  | further (codec : Codec)

namespace Encoding

/-- The byte order mark in UTF-8. -/
def signature : List UInt8 := [0xEF, 0xBB, 0xBF]

/-- The bytes behind the byte order mark, if they begin with one. Bytes that end before the mark is
complete hold nothing else. -/
def unsigned (bs : List UInt8) : List UInt8 :=
  if signature.isPrefixOf bs then bs.drop signature.length
  else if bs.isPrefixOf signature then []
  else bs

/-- The characters of a byte sequence. -/
def decode : Encoding → List UInt8 → List Char
  | .utf8, bs => Utf8.decode bs
  | .utf8Signed, bs => Utf8.decode (unsigned bs)
  | .ascii, bs => bs.map asciiChar
  | .latin1, bs => bs.map latin1Char
  | .utf16Little, bs => Utf16.decode false bs
  | .utf16Big, bs => Utf16.decode true bs
  | .cyrillic, bs => bs.map cyrillicChar
  | .further codec, bs => codec.decode bs

/-! ## Names -/

/-- Whether the character stands for itself in a normalised name. -/
def isNameChar (c : Char) : Bool := c.isAlphanum || c == '.'

/-- The rest of a normalised name, behind its first character if `started`; `gap` says whether
characters have been passed over since the last one that was kept. -/
def normalFrom (started gap : Bool) : List Char → List Char
  | [] => []
  | c :: cs =>
    if isNameChar c then
      if started && gap then '_' :: c.toLower :: normalFrom true false cs
      else c.toLower :: normalFrom true false cs
    else normalFrom started true cs

/-- The normal form of a name. -/
def normalName (name : String) : String := String.ofList (normalFrom false false name.toList)

/-- The encodings by their own names. -/
def ownNames : List (String × Encoding) :=
  [("utf_8", .utf8), ("utf_8_sig", .utf8Signed), ("ascii", .ascii), ("latin_1", .latin1),
   ("iso8859_1", .latin1), ("utf_16_le", .utf16Little), ("utf_16_be", .utf16Big),
   ("cp1251", .cyrillic)]

/-- The encodings by their further names. -/
def furtherNames : List (String × Encoding) :=
  [("u8", .utf8), ("utf", .utf8), ("utf8", .utf8), ("utf8_ucs2", .utf8), ("utf8_ucs4", .utf8),
   ("cp65001", .utf8),
   ("646", .ascii), ("ansi_x3.4_1968", .ascii), ("ansi_x3_4_1968", .ascii),
   ("ansi_x3.4_1986", .ascii), ("cp367", .ascii), ("csascii", .ascii), ("ibm367", .ascii),
   ("iso646_us", .ascii), ("iso_646.irv_1991", .ascii), ("iso_ir_6", .ascii), ("us", .ascii),
   ("us_ascii", .ascii),
   ("8859", .latin1), ("cp819", .latin1), ("csisolatin1", .latin1), ("ibm819", .latin1),
   ("iso8859", .latin1), ("iso8859_1", .latin1), ("iso_8859_1", .latin1),
   ("iso_8859_1_1987", .latin1), ("iso_ir_100", .latin1), ("l1", .latin1), ("latin", .latin1),
   ("latin1", .latin1),
   ("unicodelittleunmarked", .utf16Little), ("utf_16le", .utf16Little),
   ("unicodebigunmarked", .utf16Big), ("utf_16be", .utf16Big),
   ("1251", .cyrillic), ("windows_1251", .cyrillic)]

/-- Transformations by their own names. -/
def ownTransformations : List String :=
  ["base64_codec", "bz2_codec", "hex_codec", "quopri_codec", "rot_13", "uu_codec", "zlib_codec"]

/-- Transformations by their further names. -/
def furtherTransformations : List String :=
  ["base64", "base_64", "bz2", "hex", "quopri", "quoted_printable", "quotedprintable", "rot13",
   "uu", "zip", "zlib"]

/-- The name for the encoding of the system, which is UTF-8; it stands for that as it is written. -/
def systemName : String := "locale"

/-- Why a name gives no encoding. -/
inductive NameFault where
  /-- A NUL stands in it. -/
  | nul
  /-- It is the name of a transformation. -/
  | transformation
  /-- It is the name of nothing. -/
  | unknown
deriving DecidableEq, Repr

/-- The wording of a fault of the given name. -/
def NameFault.message (name : String) : NameFault → String
  | .nul => "embedded null character"
  | .transformation =>
    s!"'{name}' is not a text encoding; use codecs.open() to handle arbitrary codecs"
  | .unknown => s!"unknown encoding: {name}"

/-- The encoding of a given name. A further codec is looked for where the name has no other
meaning. -/
def ofName (codecs : Registry) (name : String) : Except NameFault Encoding :=
  let n := normalName name
  let dotless := n.map fun c => if c = '.' then '_' else c
  if name.toList.contains '\x00' then .error .nul
  else if name = systemName then .ok .utf8
  else match (furtherNames.lookup n).or ((furtherNames.lookup dotless).or (ownNames.lookup n)) with
    | some e => .ok e
    | none =>
      if furtherTransformations.contains n || furtherTransformations.contains dotless ||
          ownTransformations.contains n then .error .transformation
      else
        match codecs name with
        | some codec => .ok (.further codec)
        | none => .error .unknown

end Encoding

end AccessLog

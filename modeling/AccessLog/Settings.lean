import AccessLog.Encoding.Basic
import AccessLog.Timestamp.Reading

/-!
# Settings

What a directory of logs is read with: the end of the names of its files, the text between two
fields of a line, the number of fields, the encoding of the files and the format of their
timestamps. Every setting has a default and a key, and a change sets one of them.

The name of an encoding is a setting, and what it stands for is not: the codecs that the system has
under further names stand beside the settings, without a key.
-/

namespace AccessLog

/-- What a directory of logs is read with. -/
structure Settings where
  /-- The end of the names of log files, in any case. -/
  extension : String := ".log"
  /-- The text between two fields. -/
  delimiter : String := "\t"
  /-- The number of fields of a line. -/
  fieldCount : Int := 5
  /-- The name of the encoding of log files. -/
  encoding : String := "utf-8"
  /-- The format of timestamps. -/
  dateFormat : String := Timestamp.logFormat
  /-- The codecs under the names of encodings that are not written out. -/
  codecs : Registry := .empty

namespace Settings

/-- The single settings. -/
inductive Key where
  /-- The end of the names of log files. -/
  | extension
  /-- The text between two fields. -/
  | delimiter
  /-- The number of fields. -/
  | fieldCount
  /-- The encoding. -/
  | encoding
  /-- The format of timestamps. -/
  | dateFormat
deriving DecidableEq, Repr

namespace Key

/-- All keys. -/
def all : List Key := [extension, delimiter, fieldCount, encoding, dateFormat]

/-- The name of a key. -/
def name : Key → String
  | extension => "extension"
  | delimiter => "delimiter"
  | fieldCount => "field_count"
  | encoding => "encoding"
  | dateFormat => "date_format"

/-- The name that stands for the settings themselves and can be no key. -/
def reserved : String := "self"

/-- Why a name is refused. -/
inductive NameFault where
  /-- No key has the name. -/
  | unknown (name : String)
  /-- The name is reserved. -/
  | reserved
deriving DecidableEq, Repr

/-- The wording for a name that is refused. -/
def NameFault.message : NameFault → String
  | .unknown name => s!"Settings.__init__() got an unexpected keyword argument '{name}'"
  | .reserved =>
    s!"Settings.with_overrides() got multiple values for argument '{Key.reserved}'"

/-- The key of the given name. -/
def ofName (name : String) : Except NameFault Key :=
  match all.find? fun k => k.name == name with
  | some k => .ok k
  | none => .error (.unknown name)

/-- The keys of named values. A name without a value is passed over, whether a key has it or not,
unless it is the reserved one. -/
def ofEntries {α : Type} (entries : List (String × Option α)) : Except NameFault (List (Key × α)) :=
  if entries.any fun e => e.1 == reserved then .error .reserved
  else
    (entries.filterMap fun e => e.2.map (e.1, ·)).mapM fun e => (ofName e.1).map (·, e.2)

end Key

/-- A new value for one setting. -/
inductive Change where
  /-- For the end of the names of log files. -/
  | extension (value : String)
  /-- For the text between two fields. -/
  | delimiter (value : String)
  /-- For the number of fields. -/
  | fieldCount (value : Int)
  /-- For the encoding. -/
  | encoding (value : String)
  /-- For the format of timestamps. -/
  | dateFormat (value : String)
deriving DecidableEq, Repr

/-- The settings after one change. -/
def change (s : Settings) : Change → Settings
  | .extension value => { s with extension := value }
  | .delimiter value => { s with delimiter := value }
  | .fieldCount value => { s with fieldCount := value }
  | .encoding value => { s with encoding := value }
  | .dateFormat value => { s with dateFormat := value }

/-- The settings after some changes, one after the other. -/
def changeAll (s : Settings) (cs : List Change) : Settings := cs.foldl change s

end Settings

end AccessLog

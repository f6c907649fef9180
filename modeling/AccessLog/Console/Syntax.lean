import AccessLog.Command.Options
import AccessLog.Console.Similarity

/-!
# The syntax of the command line

An option is written with its long name, or with its letter if it has one, and may stand anywhere;
its value follows as the next argument, behind an equals sign, or directly behind the letter.
Letters can share one hyphen. Two hyphens alone end the options.

`scan` sorts the arguments of a command into options and operands. It knows nothing of what the
options mean.
-/

namespace AccessLog.Console

open Command (Opt Verb)

/-- Why arguments cannot be sorted into options and operands. -/
inductive ScanFault where
  /-- There is no such option; some similar ones are named. -/
  | unknown (name : String) (similar : List String)
  /-- The value of an option is missing. -/
  | noValue (name : String)
  /-- A value is given to an option that takes none. -/
  | needlessValue (name : String)
deriving DecidableEq, Repr

/-- The wording of a fault. -/
def ScanFault.message : ScanFault → String
  | .unknown name [] => s!"No such option: {name}"
  | .unknown name [one] => s!"No such option: {name} Did you mean {one}?"
  | .unknown name similar =>
    s!"No such option: {name} (Possible options: " ++ ", ".intercalate similar ++ ")"
  | .noValue name => s!"Option '{name}' requires an argument."
  | .needlessValue name => s!"Option '{name}' does not take a value."

/-- What one argument says: the options without values that it names, and then perhaps an option
with a value, the way it is written, and its value if that is part of the argument. -/
structure OptionToken where
  /-- The options without values. -/
  flags : List Opt
  /-- The option with a value. -/
  valued : Option (Opt × String × Option String) := none
deriving DecidableEq, Repr

/-- Reads the letters behind one hyphen. -/
def readLetters (options : List Opt) : List Char → Except ScanFault OptionToken
  | [] => .ok ⟨[], none⟩
  | c :: cs =>
    let name := String.ofList ['-', c]
    match options.find? fun o => o.letter? == some c with
    | none => .error (.unknown name [])
    | some o =>
      if o.takesValue then
        .ok ⟨[], some (o, name, if cs.isEmpty then none else some (String.ofList cs))⟩
      else (readLetters options cs).map fun t => { t with flags := o :: t.flags }

/-- Reads an argument that starts with a hyphen and goes on. A long name is looked for first, also
behind a single hyphen; what follows the first equals sign is its value. -/
def readToken (options : List Opt) (arg : List Char) : Except ScanFault OptionToken :=
  let name := String.ofList (arg.takeWhile (· ≠ '='))
  let value := match arg.dropWhile (· ≠ '=') with
    | [] => none
    | _ :: cs => some (String.ofList cs)
  match options.find? fun o => o.long == name with
  | some o =>
    if o.takesValue then .ok ⟨[], some (o, name, value)⟩
    else if value.isSome then .error (.needlessValue name)
    else .ok ⟨[o], none⟩
  | none =>
    match arg with
    | '-' :: '-' :: _ => .error (.unknown name (closeNames name (options.map Opt.long)))
    | _ => readLetters options (arg.drop 1)

/-- The arguments of a command, sorted. -/
structure Scanned where
  /-- The options with their values, in order; an option without a value has an empty one. -/
  options : List (Opt × String) := []
  /-- The operands, in order. -/
  operands : List String := []
deriving DecidableEq, Repr

namespace Scanned

/-- The value of the last occurrence of an option. -/
def value? (s : Scanned) (o : Opt) : Option String :=
  (s.options.reverse.find? fun e => e.1 == o).map Prod.snd

/-- Whether an option occurs. -/
def has (s : Scanned) (o : Opt) : Bool := s.options.any fun e => e.1 == o

end Scanned

/-- Whether an argument names options. -/
def isOption : List Char → Bool
  | '-' :: _ :: _ => true
  | _ => false

/-- Adds options before those that were found. -/
def Scanned.prepend (found : List (Opt × String)) (s : Scanned) : Scanned :=
  { s with options := found ++ s.options }

/-- Sorts arguments, the first of which may be the value of an option that is named before. -/
def scanFrom (options : List Opt) (mixed : Bool) :
    Option (Opt × String) → List String → Except ScanFault Scanned
  | none, [] => .ok {}
  | some (_, name), [] => .error (.noValue name)
  | some (o, _), value :: rest =>
    (scanFrom options mixed none rest).map (Scanned.prepend [(o, value)])
  | none, arg :: rest =>
    if arg = "--" then .ok ⟨[], rest⟩
    else if isOption arg.toList then
      match readToken options arg.toList with
      | .error f => .error f
      | .ok t =>
        let flags := t.flags.map (·, "")
        match t.valued with
        | none => (scanFrom options mixed none rest).map (Scanned.prepend flags)
        | some (o, _, some value) =>
          (scanFrom options mixed none rest).map (Scanned.prepend (flags ++ [(o, value)]))
        | some (o, name, none) =>
          (scanFrom options mixed (some (o, name)) rest).map (Scanned.prepend flags)
    else if mixed then
      (scanFrom options mixed none rest).map fun s => { s with operands := arg :: s.operands }
    else .ok ⟨[], arg :: rest⟩

/-- Sorts arguments into options and operands. If `mixed` is not set, the first operand ends the
options. -/
def scan (options : List Opt) (mixed : Bool) (args : List String) : Except ScanFault Scanned :=
  scanFrom options mixed none args

end AccessLog.Console

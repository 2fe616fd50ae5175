import UserDirectory.Text.Decimal

/-!
Argument lists. A command has named options that take one value, flags, and positional arguments;
the last positional may take several values. Options and positionals mix freely; after `--` all
arguments are positional. Faults are told in the order in which reading comes upon them: the
values of an argument are judged when the next argument begins.
-/

namespace UserDirectory.Line

inductive LineError
  | invalidSubcommand
  | unknownArgument
  /-- An option without its value. -/
  | invalidValue
  | valueValidation
  | tooManyValues
  | argumentConflict
  | missingRequiredArgument
  | displayHelp
  | displayHelpOnMissingArgumentOrSubcommand
  | displayVersion
deriving DecidableEq, Repr

def LineError.name : LineError → String
  | invalidSubcommand => "InvalidSubcommand"
  | unknownArgument => "UnknownArgument"
  | invalidValue => "InvalidValue"
  | valueValidation => "ValueValidation"
  | tooManyValues => "TooManyValues"
  | argumentConflict => "ArgumentConflict"
  | missingRequiredArgument => "MissingRequiredArgument"
  | displayHelp => "DisplayHelp"
  | displayHelpOnMissingArgumentOrSubcommand => "DisplayHelpOnMissingArgumentOrSubcommand"
  | displayVersion => "DisplayVersion"

inductive ValueKind
  | text
  /-- A whole number between two bounds, both included. -/
  | integer (least most : Int)
deriving DecidableEq

def ValueKind.accepts : ValueKind → String → Bool
  | text, _ => true
  | integer least most, value =>
    (Text.readInt? value.toList).any fun n => least ≤ n && n ≤ most

inductive Role
  /-- `--name value` or `--name=value`. -/
  | option
  /-- `--name` -/
  | flag
  | positional
  /-- A positional argument of one or more values. -/
  | positionals
deriving DecidableEq

structure Parameter where
  name : String
  role : Role
  kind : ValueKind := .text
  required : Bool := false
deriving DecidableEq

structure Form where
  command : String
  parameters : List Parameter

namespace Form

def named? (form : Form) (name : String) : Option Parameter :=
  form.parameters.find? fun parameter =>
    parameter.name = name ∧ (parameter.role = .option ∨ parameter.role = .flag)

def position? (form : Form) (index : Nat) : Option Parameter :=
  (form.parameters.filter fun parameter =>
    parameter.role = .positional ∨ parameter.role = .positionals)[index]?

end Form

abbrev Given := List (String × List String)

def Given.values? (given : Given) (name : String) : Option (List String) :=
  (given.find? fun (key, _) => key = name).map (·.2)

def Given.add (given : Given) (name : String) (values : List String) : Given :=
  match given.values? name with
  | none => given ++ [(name, values)]
  | some _ => given.map fun (key, old) => if key = name then (key, old ++ values) else (key, old)

structure Progress where
  given : Given := []
  /-- The argument whose values are being collected. -/
  pending : Option (Parameter × List String) := none
  /-- The pending option still waits for its value. -/
  waiting : Bool := false
  /-- The place of the next positional argument. -/
  position : Nat := 0

/-- Takes an argument with its values, if it is complete, not a repeated option, and its values
are of its kind. -/
def Progress.take (progress : Progress) (parameter : Parameter) (values : List String) :
    Except LineError Progress :=
  if parameter.role ≠ .flag ∧ values.isEmpty then .error .invalidValue
  else if parameter.role ≠ .positionals ∧ (progress.given.values? parameter.name).isSome then
    .error .argumentConflict
  else if values.all parameter.kind.accepts then
    .ok { progress with given := progress.given.add parameter.name values }
  else .error .valueValidation

def Progress.settle (progress : Progress) : Except LineError Progress :=
  match progress.pending with
  | none => .ok progress
  | some (parameter, values) => ({ progress with pending := none }).take parameter values

def splitLong? (argument : String) : Option (String × Option String) :=
  match argument.toList with
  | '-' :: '-' :: body =>
    let name := body.takeWhile (· ≠ '=')
    some (String.ofList name,
      match body.dropWhile (· ≠ '=') with
      | [] => none
      | _ :: value => some (String.ofList value))
  | _ => none

def splitShort? (argument : String) : Option (List Char) :=
  match argument.toList with
  | '-' :: '-' :: _ => none
  | ['-'] => none
  | '-' :: letters => some letters
  | _ => none

def readLong (form : Form) (name : String) (attached : Option String) (progress : Progress) :
    Except LineError Progress :=
  if name = "help" then
    match attached with
    | some _ => .error .tooManyValues
    | none => do
      let _ ← progress.settle
      .error .displayHelp
  else
    match form.named? name, attached with
    | none, _ => .error .unknownArgument
    | some parameter, some value =>
      if parameter.role = .flag then .error .tooManyValues
      else do
        let progress ← (← progress.settle).take parameter [value]
        .ok { progress with waiting := false }
    | some parameter, none => do
      let progress ← progress.settle
      if parameter.role = .flag then
        let progress ← progress.take parameter []
        .ok { progress with waiting := false }
      else .ok { progress with pending := some (parameter, []), waiting := true }

def readPositional (form : Form) (argument : String) (progress : Progress) :
    Except LineError Progress :=
  match form.position? progress.position with
  | none => .error .unknownArgument
  | some parameter =>
    if parameter.role = .positionals then
      match progress.pending with
      | some (held, values) =>
        if held = parameter then .ok { progress with pending := some (held, values ++ [argument]) }
        else do
          let progress ← progress.settle
          .ok { progress with pending := some (parameter, [argument]), waiting := false }
      | none => .ok { progress with pending := some (parameter, [argument]), waiting := false }
    else do
      let progress ← progress.settle
      .ok { progress with
        pending := some (parameter, [argument])
        waiting := false
        position := progress.position + 1 }

def readArguments (form : Form) : Bool → List String → Progress → Except LineError Progress
  | _, [], progress => progress.settle
  | true, argument :: rest, progress => do
    readArguments form true rest (← readPositional form argument progress)
  | false, argument :: rest, progress =>
    if argument = "--" then readArguments form true rest progress
    else
      match splitLong? argument, splitShort? argument with
      | some (name, attached), _ => do
        readArguments form false rest (← readLong form name attached progress)
      | none, some letters =>
        if letters.head? = some 'h' then do
          let _ ← progress.settle
          .error .displayHelp
        else .error .unknownArgument
      | none, none =>
        match progress.waiting, progress.pending with
        | true, some (parameter, values) =>
          readArguments form false rest
            { progress with pending := some (parameter, values ++ [argument]), waiting := false }
        | _, _ => do readArguments form false rest (← readPositional form argument progress)

def Form.read (form : Form) (arguments : List String) : Except LineError Given := do
  let progress ← readArguments form false arguments {}
  if form.parameters.all fun parameter =>
      !parameter.required || (progress.given.values? parameter.name).isSome then
    .ok progress.given
  else .error .missingRequiredArgument

/-- Help about a command: its name and nothing after it. -/
def readHelp (forms : List Form) : List String → LineError
  | [] => .displayHelp
  | [name] =>
    if name = "help" ∨ forms.any (fun form => form.command = name) then .displayHelp
    else .invalidSubcommand
  | _ => .invalidSubcommand

/-- Letters of an argument before the command: only those for help and version are known. -/
def readLetters : List Char → LineError
  | 'h' :: _ => .displayHelp
  | 'V' :: _ => .displayVersion
  | _ => .unknownArgument

/-- Reads a whole command line: the command comes first, apart from calls for help or the
version. -/
def read (forms : List Form) : List String → Except LineError (String × Given)
  | [] | ["--"] => .error .displayHelpOnMissingArgumentOrSubcommand
  | "--" :: argument :: _ =>
    if argument = "help" ∨ forms.any (fun form => form.command = argument) then
      .error .unknownArgument
    else .error .invalidSubcommand
  | argument :: rest =>
    if argument = "help" then .error (readHelp forms rest)
    else
      match forms.find? fun form => form.command = argument with
      | some form => (form.read rest).map fun given => (form.command, given)
      | none =>
        match splitLong? argument, splitShort? argument with
        | some (name, attached), _ =>
          if name = "help" ∨ name = "version" then
            if attached.isSome then .error .tooManyValues
            else if name = "help" then .error .displayHelp
            else .error .displayVersion
          else .error .unknownArgument
        | none, some letters => .error (readLetters letters)
        | none, none => .error .invalidSubcommand

end UserDirectory.Line

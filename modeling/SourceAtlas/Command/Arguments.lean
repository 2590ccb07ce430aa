import SourceAtlas.Text.Split

/-!
# Argument lists

Options are written `--name`, `--name value`, `--name=value`, `-n`, `-n value`,
`-nvalue` or `-n=value`; several switches may share one dash. After `--` every
argument is positional. An option that takes a value waits for it: only when
the next option or positional comes, or the list ends, is the value taken.
-/

namespace SourceAtlas

/-- Why no command comes out of a list of arguments. -/
inductive LineStop where
  /-- No command was given. -/
  | nothingGiven
  | unknownCommand
  | unknownArgument
  /-- An option was given twice, or together with one that excludes it. -/
  | conflict
  /-- An option came without its value. -/
  | missingValue
  /-- A value is not of the right form. -/
  | invalidValue
  /-- A switch came with a value. -/
  | unexpectedValue
  /-- A positional argument is missing. -/
  | missingArgument
  /-- Help was asked for. -/
  | help
  /-- The version was asked for, of the program or of one of its commands. -/
  | version (command : Option String)
  deriving DecidableEq, Repr

/-- What an option does. -/
inductive OptionShape where
  | switch
  /-- One value of the accepted form. -/
  | single (accepts : String → Bool)
  /-- Any number of values of the accepted form. -/
  | repeated (accepts : String → Bool)
  /-- Ends reading. -/
  | stop (reason : LineStop)

/-- An option of a command. -/
structure OptionSpec where
  name : String
  letter : Option Char := none
  shape : OptionShape

/-- What a command accepts. -/
structure Grammar where
  options : List OptionSpec
  /-- The number of positional arguments, all required. -/
  positionals : Nat := 0
  /-- Pairs of options that exclude each other. -/
  exclusions : List (String × String) := []

/-- What was read of an argument list. -/
structure Arguments where
  switches : List String := []
  /-- Values with the names of their options. -/
  values : List (String × String) := []
  positionals : List String := []
  /-- The option whose value is not taken yet, with the value once it is seen. -/
  pending : Option (OptionSpec × Option String) := none

namespace Arguments

/-- Whether an option was given. -/
def has (arguments : Arguments) (name : String) : Bool :=
  arguments.switches.contains name || arguments.values.any fun value => value.1 = name

/-- The values of an option. -/
def valuesOf (arguments : Arguments) (name : String) : List String :=
  (arguments.values.filter fun value => value.1 = name).map Prod.snd

/-- The first value of an option. -/
def value? (arguments : Arguments) (name : String) : Option String :=
  (arguments.valuesOf name).head?

/-- Take a value for an option. -/
def take (arguments : Arguments) (option : OptionSpec) (value : String) :
    Except LineStop Arguments :=
  let taken := { arguments with values := arguments.values ++ [(option.name, value)] }
  match option.shape with
  | .single accepts =>
    if arguments.has option.name then .error .conflict
    else if accepts value then .ok taken
    else .error .invalidValue
  | .repeated accepts => if accepts value then .ok taken else .error .invalidValue
  | .switch => .error .unexpectedValue
  | .stop reason => .error reason

/-- Take the pending value. -/
def settle (arguments : Arguments) : Except LineStop Arguments :=
  match arguments.pending with
  | none => .ok arguments
  | some (_, none) => .error .missingValue
  | some (option, some value) => { arguments with pending := none }.take option value

/-- Set a switch. -/
def set (arguments : Arguments) (name : String) : Except LineStop Arguments :=
  if arguments.has name then .error .conflict
  else .ok { arguments with switches := arguments.switches ++ [name] }

/-- Read an option with the value attached to it, if any. -/
def readOption (arguments : Arguments) (option : OptionSpec) (attached : Option String) :
    Except LineStop Arguments :=
  match option.shape, attached with
  | .switch, none => do (← arguments.settle).set option.name
  | .stop reason, none => do
    let _ ← arguments.settle
    .error reason
  | .switch, some _ => .error .unexpectedValue
  | .stop _, some _ => .error .unexpectedValue
  | _, some value => do (← arguments.settle).take option value
  | _, none => do .ok { (← arguments.settle) with pending := some (option, none) }

/-- Read an option written by its name. -/
def readNamed (grammar : Grammar) (arguments : Arguments) (written : String) :
    Except LineStop Arguments :=
  let (name, attached) :=
    match Text.cut "=" written with
    | some (name, value) => (name, some value)
    | none => (written, none)
  match grammar.options.find? fun option => option.name = name with
  | some option => arguments.readOption option attached
  | none => .error .unknownArgument

/-- Read options written by their letters. Behind the letter of an option that takes a value
stands the value. -/
def readLetters (grammar : Grammar) : Arguments → List Char → Except LineStop Arguments
  | arguments, [] => .ok arguments
  | arguments, letter :: rest =>
    match grammar.options.find? fun option => option.letter = some letter with
    | none => .error .unknownArgument
    | some option =>
      match option.shape, rest with
      | .switch, rest => do readLetters grammar (← arguments.readOption option none) rest
      | .stop _, _ => arguments.readOption option none
      | _, [] => arguments.readOption option none
      | _, '=' :: value => arguments.readOption option (some (String.ofList value))
      | _, value => arguments.readOption option (some (String.ofList value))

/-- Read a positional argument. -/
def readPositional (grammar : Grammar) (arguments : Arguments) (argument : String) :
    Except LineStop Arguments :=
  if arguments.positionals.length < grammar.positionals then do
    let settled ← arguments.settle
    .ok { settled with positionals := settled.positionals ++ [argument] }
  else .error .unknownArgument

/-- Read one argument before `--`. -/
def readOne (grammar : Grammar) (arguments : Arguments) (argument : String) :
    Except LineStop Arguments :=
  match argument.toList with
  | '-' :: '-' :: written => arguments.readNamed grammar (String.ofList written)
  | '-' :: letter :: letters => arguments.readLetters grammar (letter :: letters)
  | _ =>
    match arguments.pending with
    | some (option, none) => .ok { arguments with pending := some (option, some argument) }
    | _ => arguments.readPositional grammar argument

/-- Read a list of arguments. -/
def readAll (grammar : Grammar) : Arguments → List String → Except LineStop Arguments
  | arguments, [] => arguments.settle
  | arguments, argument :: rest =>
    if argument = "--" then do
      (← rest.foldlM (readPositional grammar) arguments).settle
    else do readAll grammar (← arguments.readOne grammar argument) rest

/-- What a list of arguments says by a grammar. -/
def read (grammar : Grammar) (list : List String) : Except LineStop Arguments := do
  let arguments ← readAll grammar {} list
  if grammar.exclusions.any fun pair => arguments.has pair.1 && arguments.has pair.2 then
    .error .conflict
  else if arguments.positionals.length < grammar.positionals then .error .missingArgument
  else .ok arguments

end Arguments

end SourceAtlas

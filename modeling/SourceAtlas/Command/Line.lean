import SourceAtlas.Command.Arguments
import SourceAtlas.Facts
import SourceAtlas.Number.Word

/-!
# The command line

The commands of the program and their arguments.
-/

namespace SourceAtlas

/-- What the command `symbols` looks for. -/
structure SymbolRequest where
  query : String
  kinds : List SymbolKind := []
  exact : Bool := false
  caseSensitive : Bool := false
  filePattern : Option String := none
  limit : Option Nat := none
  deriving DecidableEq, Repr

/-- What the command `deps` shows. -/
structure DependencyRequest where
  entries : List String := []
  /-- The whole graph for drawing. -/
  drawing : Bool := false
  /-- One file only. -/
  file : Option String := none
  deriving DecidableEq, Repr

/-- The commands. -/
inductive Command where
  /-- Build or refresh the index. -/
  | index (force : Bool)
  /-- Search by meaning. -/
  | search (query : String) (limit : Option Nat)
  /-- Search by name. -/
  | symbols (request : SymbolRequest)
  /-- Find where a name is used. -/
  | usages (name : String) (allFiles crossReference : Bool)
  /-- Report on the import graph. -/
  | deps (request : DependencyRequest)
  /-- Show the state of the saved index. -/
  | status (exposition : Bool)
  /-- Drop the saved index. -/
  | clear
  deriving DecidableEq, Repr

namespace Command

/-- The name of the program. -/
def programName : String := "codeindex"

/-- The version of the program. -/
def programVersion : String := "0.1.0"

/-- A count of at most 64 bits, written in decimal digits that may follow a plus sign. -/
def count? (text : String) : Option Nat :=
  let digits := ((Text.afterLead "+" text).getD text).toList
  if digits.isEmpty || !digits.all Char.isDigit then none
  else
    let count := digits.foldl (fun count digit => 10 * count + (digit.toNat - '0'.toNat)) 0
    if count < Word64.count then some count else none

/-- The option for the largest number of results. -/
def limitOption : OptionSpec where
  name := "limit"
  letter := some 'l'
  shape := .single fun text => (count? text).isSome

/-- An option that takes any text. -/
def textOption (name : String) : OptionSpec := { name, shape := .single fun _ => true }

/-- A switch without letter. -/
def switchOption (name : String) : OptionSpec := { name, shape := .switch }

/-- The largest number of results. -/
def limitOf (arguments : Arguments) : Option Nat := (arguments.value? "limit").bind count?

/-- The only positional argument. -/
def subjectOf (arguments : Arguments) : String := arguments.positionals.head?.getD ""

/-- A command with its grammar and its meaning. -/
structure Spec where
  name : String
  grammar : Grammar
  meaning : Arguments → Command

/-- All commands. -/
def specs : List Spec :=
  [{ name := "index"
     grammar := { options := [{ name := "force", letter := some 'f', shape := .switch }] }
     meaning := fun arguments => .index (arguments.has "force") },
   { name := "search"
     grammar := { options := [limitOption], positionals := 1 }
     meaning := fun arguments => .search (subjectOf arguments) (limitOf arguments) },
   { name := "symbols"
     grammar :=
       { options :=
           [{ name := "kind", letter := some 'k'
              shape := .repeated fun text => (SymbolKind.ofLabel? text).isSome },
            switchOption "exact", switchOption "case-sensitive", textOption "file", limitOption]
         positionals := 1 }
     meaning := fun arguments =>
       .symbols
         { query := subjectOf arguments
           kinds := (arguments.valuesOf "kind").filterMap SymbolKind.ofLabel?
           exact := arguments.has "exact"
           caseSensitive := arguments.has "case-sensitive"
           filePattern := arguments.value? "file"
           limit := limitOf arguments } },
   { name := "usages"
     grammar := { options := [switchOption "all-files", switchOption "xref"], positionals := 1 }
     meaning := fun arguments =>
       .usages (subjectOf arguments) (arguments.has "all-files") (arguments.has "xref") },
   { name := "deps"
     grammar :=
       { options :=
           [{ name := "entry", letter := some 'e', shape := .repeated fun _ => true },
            switchOption "graph", textOption "module"]
         exclusions := [("graph", "module")] }
     meaning := fun arguments =>
       .deps
         { entries := arguments.valuesOf "entry"
           drawing := arguments.has "graph"
           file := arguments.value? "module" } },
   { name := "status"
     grammar := { options := [switchOption "prometheus"] }
     meaning := fun arguments => .status (arguments.has "prometheus") },
   { name := "clear", grammar := { options := [] }, meaning := fun _ => .clear }]

/-- The options for help and version, of the program or of a command. -/
def commonOptions (command : Option String) : List OptionSpec :=
  [{ name := "help", letter := some 'h', shape := .stop .help },
   { name := "version", letter := some 'V', shape := .stop (.version command) }]

/-- The command of a name. -/
def spec? (name : String) : Option Spec := specs.find? fun spec => spec.name = name

/-- Whether a name may stand where a command is expected. -/
def isCommandName (name : String) : Bool := name = "help" || (spec? name).isSome

/-- What `help` answers: only a single command name may follow. -/
def helpStop : List String → LineStop
  | [] => .help
  | [name] => if isCommandName name then .help else .unknownCommand
  | _ => .unknownCommand

/-- The command of a list of arguments. -/
def parse : List String → Except LineStop Command
  | [] => .error .nothingGiven
  | name :: rest =>
    match spec? name with
    | some spec => do
      let options := spec.grammar.options ++ commonOptions (some spec.name)
      return spec.meaning (← Arguments.read { spec.grammar with options } rest)
    | none =>
      if name = "help" then .error (helpStop rest)
      else if name = "--" then
        match rest with
        | [] => .error .nothingGiven
        | next :: _ => .error (if isCommandName next then .unknownArgument else .unknownCommand)
      else
        match Arguments.readOne { options := commonOptions none, positionals := 1 } {} name with
        | .error stop => .error stop
        | .ok _ => .error .unknownCommand

/-- What is shown when the version is asked for. -/
def versionText (command : Option String) : String :=
  let name :=
    match command with
    | some command => programName ++ "-" ++ command
    | none => programName
  name ++ " " ++ programVersion ++ "\n"

end Command

end SourceAtlas

import SourceAtlas.Command.Run
import SourceAtlas.Log.File

/-!
# The program

The program opens its log, reads its arguments and runs the command. Settings
that cannot be read are replaced by the defaults for the log; the command
itself reports them.
-/

namespace SourceAtlas.Command

/-- How the program ended. -/
structure Ending where
  code : UInt8
  /-- What was printed. -/
  output : String := ""
  /-- The error that was reported. -/
  report : Option String := none
  deriving DecidableEq, Repr

/-- The report of an error: its text, then its causes, numbered when there are several. -/
def errorReport : List String → String
  | [] => "Error: \n"
  | [reason] => "Error: " ++ reason ++ "\n"
  | [reason, cause] => "Error: " ++ reason ++ "\n\nCaused by:\n    " ++ cause ++ "\n"
  | reason :: causes =>
    "Error: " ++ reason ++ "\n\nCaused by:\n" ++ String.join (causes.mapIdx fun number cause =>
      Text.padLeft 5 ' ' (toString number) ++ ": " ++ cause ++ "\n")

/-- The end of a program whose arguments give no command. -/
def endingOfStop : LineStop → Ending
  | .version command => { code := 0, output := versionText command }
  | .help => { code := 0 }
  | _ => { code := 2 }

/-- The end of a program that ran a command. -/
def endingOfResult : Except CommandError String → Ending
  | .ok output => { code := 0, output }
  | .error error => { code := 1, report := some (errorReport error.chain) }

variable {σ : Type}

/-- The file system with the log opened. A log whose directory cannot be made is left out; one
whose file cannot be made stops the program. -/
def openLog (around : Surroundings σ) (files : FileSystem) (now : Int) : Except LogError FileSystem :=
  let settings := (Settings.load files around.root).toOption.getD {}
  match settings.logging.openLog files around.root now with
  | .error (.directory _) => .ok files
  | outcome => outcome

/-- Run the program. -/
def execute (around : Surroundings σ) (arguments : List String) (now : Int)
    (workspace : Workspace σ) : Ending × Workspace σ :=
  match openLog around workspace.files now with
  | .error _ => ({ code := 101 }, workspace)
  | .ok files =>
    let workspace := { workspace with files }
    match parse arguments with
    | .error stop => (endingOfStop stop, workspace)
    | .ok command =>
      let (result, workspace) := (run around now command).run workspace
      (endingOfResult result, workspace)

end SourceAtlas.Command

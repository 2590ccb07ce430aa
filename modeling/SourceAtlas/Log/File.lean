import SourceAtlas.Config.Settings
import SourceAtlas.Files.System
import SourceAtlas.Text.CharClass
import SourceAtlas.Time.Calendar

/-!
# Log files

A log is kept in a directory of its own. Its file is named by a stem and, when
the log rotates, by the time at which the file began.
-/

namespace SourceAtlas

/-- How often a new log file begins. -/
inductive LogRotation where
  | minutely
  | hourly
  | daily
  | never
  deriving DecidableEq, Repr

namespace LogRotation

/-- The rotation of a written name in any case; an unknown name means daily. -/
def ofText (text : String) : LogRotation :=
  let name := Text.lower text
  if name = "minutely" then .minutely
  else if name = "hourly" then .hourly
  else if name = "never" then .never
  else .daily

/-- The part of a file name that tells when the file began. -/
def stamp (rotation : LogRotation) (now : Int) : String :=
  let time := CalendarTime.ofMilliseconds now
  let hour := "-" ++ CalendarTime.twoDigits time.hour
  match rotation with
  | .minutely => time.dateText ++ hour ++ "-" ++ CalendarTime.twoDigits time.minute
  | .hourly => time.dateText ++ hour
  | _ => time.dateText

end LogRotation

/-- Why a log could not be opened. -/
inductive LogError where
  | directory (path : String)
  | file (path : String)
  deriving DecidableEq, Repr

/-- The text of a log error. -/
def LogError.message : LogError → String
  | .directory path => "Failed to create log directory: " ++ path
  | .file path => "Failed to create log file: " ++ path

/-- A path as seen from a directory: an absolute path stands for itself. -/
def joinedPath (directory path : String) : String :=
  if Text.startsWith "/" path then path else PathKey.below directory path

namespace LoggingSettings

/-- The name of the file that is written at a time. A file without stem is named by the time
alone. -/
def fileName (settings : LoggingSettings) (now : Int) : String :=
  let rotation := LogRotation.ofText settings.rotation
  if settings.fileStem = "" then rotation.stamp now
  else if rotation = .never then settings.fileStem
  else settings.fileStem ++ "." ++ rotation.stamp now

/-- Make sure that a file exists, with the directories above it. -/
def touchFile (files : FileSystem) (path : String) (now : Int) : Except IoFailure FileSystem :=
  if files.isFile path then .ok files
  else
    match files.write path .empty now with
    | .ok files => .ok files
    | .error _ => do (← files.makeDirectories (PathKey.directory path)).write path .empty now

/-- Open the log of a project: its directory and its file exist afterwards. Nothing happens when
the log is switched off. -/
def openLog (settings : LoggingSettings) (files : FileSystem) (root : String) (now : Int) :
    Except LogError FileSystem :=
  if !settings.enabled then .ok files
  else
    let directory := joinedPath root settings.directory
    match files.makeDirectories directory with
    | .error _ => .error (.directory directory)
    | .ok files =>
      let path := joinedPath directory (settings.fileName now)
      match touchFile files path now with
      | .error _ => .error (.file path)
      | .ok files => .ok files

end LoggingSettings

end SourceAtlas

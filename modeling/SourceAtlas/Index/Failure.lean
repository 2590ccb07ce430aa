/-!
# Failures inside a pass

A file that cannot be read or parsed, or a symbol that cannot be embedded,
does not stop a pass. It is noted with the stage at which it failed.
-/

namespace SourceAtlas

/-- The stages of a pass that can fail for one file or symbol. -/
inductive Stage where
  | read
  | parse
  | embedding
  deriving DecidableEq, Repr

namespace Stage

/-- Every stage in order. -/
def all : List Stage := [.read, .parse, .embedding]

/-- The stage as a heading. -/
def title : Stage → String
  | .read => "File Read"
  | .parse => "Parse"
  | .embedding => "Embedding"

/-- The written name of a stage. -/
def label : Stage → String
  | .read => "read"
  | .parse => "parse"
  | .embedding => "embedding"

end Stage

/-- One failure: the file, or the symbol identifier, and the reason. -/
structure Failure where
  path : String
  reason : String
  stage : Stage
  deriving DecidableEq, Repr

/-- The failures of a pass in the order they were noted. -/
structure FailureReport where
  failures : List Failure := []
  deriving DecidableEq, Repr

namespace FailureReport

/-- The number of failures. -/
def total (report : FailureReport) : Nat := report.failures.length

/-- The failures of one stage. -/
def ofStage (report : FailureReport) (stage : Stage) : List Failure :=
  report.failures.filter fun failure => failure.stage = stage

/-- The stages with failures, in order. -/
def byStage (report : FailureReport) : List (Stage × List Failure) :=
  (Stage.all.map fun stage => (stage, report.ofStage stage)).filter fun group => !group.2.isEmpty

/-- One line about the whole. -/
def summary (report : FailureReport) : String :=
  if report.failures.isEmpty then "No errors occurred during processing"
  else "Processing completed with " ++ toString report.total ++ " errors"

/-- How many failures of a stage are shown. -/
def shownPerStage : Nat := 5

/-- The lines shown for one stage. -/
def stageLines (group : Stage × List Failure) : List String :=
  let heading := "  " ++ group.1.title ++ ": " ++ toString group.2.length ++ " errors"
  let shown := (group.2.take shownPerStage).map fun failure =>
    "    - " ++ failure.path ++ ": " ++ failure.reason
  let more := if shownPerStage < group.2.length then
      ["    ... and " ++ toString (group.2.length - shownPerStage) ++ " more"]
    else []
  heading :: shown ++ more

/-- The printed summary. -/
def printed (report : FailureReport) : String :=
  let lines :=
    if report.failures.isEmpty then ["✅ " ++ report.summary]
    else ("⚠️  " ++ report.summary) :: report.byStage.flatMap stageLines
  String.join (lines.map (· ++ "\n"))

end FailureReport

end SourceAtlas

/-!
# Progress of a build

A build tells how far it is by a sequence of events.
-/

namespace SourceAtlas

/-- What a build is doing. -/
inductive BuildStep where
  | scanning
  | parsing
  | embedding
  | finalizing
  | complete
  | cancelled
  deriving DecidableEq, Repr

namespace BuildStep

/-- Every step in order. -/
def all : List BuildStep :=
  [.scanning, .parsing, .embedding, .finalizing, .complete, .cancelled]

/-- The written name of a step. -/
def label : BuildStep → String
  | .scanning => "scanning"
  | .parsing => "parsing"
  | .embedding => "embedding"
  | .finalizing => "finalizing"
  | .complete => "complete"
  | .cancelled => "cancelled"

/-- Whether nothing follows a step. -/
def isFinal : BuildStep → Bool
  | .complete => true
  | .cancelled => true
  | _ => false

end BuildStep

/-- A step with the number of items done and their total. -/
structure ProgressEvent where
  step : BuildStep
  current : Nat := 0
  total : Nat := 0
  deriving DecidableEq, Repr

end SourceAtlas

import SourceAtlas.Graph.Basic

/-!
# Import cycles

The search for cycles goes depth first from every file, in path order. It is a
machine: `step` inspects one import, opens one file or closes one file. Where a
file on the current path is imported a loop closes, which is reported from that
file on, unless a rotation of it has been reported.
-/

namespace SourceAtlas.Graph

/-- How serious a cycle is. -/
inductive Severity where
  | error
  | warning
  deriving DecidableEq, Repr

/-- Whether files import each other directly. -/
inductive CycleShape where
  | direct
  | indirect
  deriving DecidableEq, Repr

/-- The written name of a severity. -/
def Severity.label : Severity → String
  | .error => "error"
  | .warning => "warning"

/-- The written name of a shape. -/
def CycleShape.label : CycleShape → String
  | .direct => "direct"
  | .indirect => "indirect"

/-- Files each of which imports the next, the last one importing the first. -/
structure Cycle where
  files : List String
  deriving DecidableEq, Repr

namespace Cycle

/-- One or two files. -/
def isShort (cycle : Cycle) : Bool := cycle.files.length ≤ 2

/-- A cycle of at most two files is an error. -/
def severity (cycle : Cycle) : Severity := if cycle.isShort then .error else .warning

/-- A cycle of at most two files is direct. -/
def shape (cycle : Cycle) : CycleShape := if cycle.isShort then .direct else .indirect

/-- Whether a file takes part. -/
def contains (cycle : Cycle) (file : String) : Bool := cycle.files.contains file

end Cycle

/-- The least member of a list, by path order. -/
def leastFile : List String → Option String
  | [] => none
  | file :: rest =>
    match leastFile rest with
    | some least => if least < file then some least else some file
    | none => some file

/-- The rotation that starts at the least file. -/
def canonicalRotation (files : List String) : List String :=
  match leastFile files with
  | some least => files.dropWhile (· ≠ least) ++ files.takeWhile (· ≠ least)
  | none => []

/-- The files that take part in some of the given cycles. -/
def filesInCycles (cycles : List Cycle) : FileSet :=
  Std.ExtTreeSet.ofList (cycles.flatMap Cycle.files) compare

/-- How far the search is with a file. -/
inductive Mark where
  /-- The file is on the path. -/
  | visiting
  | done
  deriving DecidableEq, Repr

namespace CycleSearch

/-- An open file and its imports that are still to inspect. -/
structure Frame where
  file : String
  pending : List String
  deriving DecidableEq, Repr

end CycleSearch

/-- The state of a search for cycles. -/
structure CycleSearch where
  /-- Files to start from. -/
  roots : List String
  /-- Open files, innermost first. -/
  stack : List CycleSearch.Frame := []
  /-- The open files again, outermost first. -/
  path : List String := []
  marks : FileMap Mark := ∅
  /-- The canonical rotations of the loops reported so far. -/
  seen : List (List String) := []
  cycles : List Cycle := []

namespace CycleSearch

/-- Open a file below the current path. -/
def openFile (graph : ImportGraph) (search : CycleSearch) (file : String) : CycleSearch :=
  { search with
    stack := { file, pending := graph.neighbors file } :: search.stack
    path := search.path ++ [file]
    marks := search.marks.insert file .visiting }

/-- Close the innermost file. -/
def closeFile (search : CycleSearch) (file : String) (rest : List Frame) : CycleSearch :=
  { search with
    stack := rest
    path := search.path.dropLast
    marks := search.marks.insert file .done }

/-- Report the path from `file` on, unless a rotation of it has been reported. -/
def closeLoop (search : CycleSearch) (file : String) : CycleSearch :=
  if search.path.contains file then
    let files := search.path.dropWhile (· ≠ file)
    if search.seen.contains (canonicalRotation files) then search
    else
      { search with
        seen := canonicalRotation files :: search.seen
        cycles := search.cycles ++ [{ files }] }
  else search

/-- One step, or nothing when every file is closed. -/
def step (graph : ImportGraph) (search : CycleSearch) : Option CycleSearch :=
  match search.stack with
  | [] =>
    match search.roots with
    | [] => none
    | root :: roots =>
      if search.marks.contains root then some { search with roots }
      else some (openFile graph { search with roots, path := [] } root)
  | frame :: rest =>
    match frame.pending with
    | [] => some (search.closeFile frame.file rest)
    | file :: pending =>
      let next := { search with stack := { frame with pending } :: rest }
      match search.marks[file]? with
      | some .visiting => some (next.closeLoop file)
      | some .done => some next
      | none => some (next.openFile graph file)

end CycleSearch

end SourceAtlas.Graph

namespace SourceAtlas.ImportGraph

open SourceAtlas.Graph

/-- The search for cycles after so many steps. -/
def cycleSearch (graph : ImportGraph) (steps : Nat) : CycleSearch :=
  advance (CycleSearch.step graph) steps { roots := graph.files }

/-- The cycles in the order in which the search closes them. -/
def cycles (graph : ImportGraph) : List Cycle := (graph.cycleSearch graph.searchSteps).cycles

end SourceAtlas.ImportGraph

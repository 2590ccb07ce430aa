import SourceAtlas.Graph.Basic

/-!
# The longest chain of imports

A depth-first search with a memory of its own: a file that is closed has a known
depth, one more than that of the deepest file it imports, or zero. An import of
a file that is still open counts for nothing, so that loops are cut and not
followed.
-/

namespace SourceAtlas.Graph

/-- What is known of the depth of a file. -/
inductive Depth where
  /-- The file is open. -/
  | inProgress
  | known (depth : Nat)
  deriving DecidableEq, Repr

namespace DepthSearch

/-- An open file: its imports that are still to inspect and the depth found so far. -/
structure Frame where
  file : String
  pending : List String
  deepest : Nat := 0
  deriving DecidableEq, Repr

end DepthSearch

/-- The state of a search for the longest chain. -/
structure DepthSearch where
  /-- Files to start from. -/
  roots : List String
  /-- Open files, innermost first. -/
  stack : List DepthSearch.Frame := []
  memo : FileMap Depth := ∅
  /-- The greatest depth of a closed file. -/
  best : Nat := 0

namespace DepthSearch

/-- Open a file below the innermost one. -/
def openFile (graph : ImportGraph) (search : DepthSearch) (file : String) : DepthSearch :=
  { search with
    stack := { file, pending := graph.neighbors file } :: search.stack
    memo := search.memo.insert file .inProgress }

/-- Let the innermost open file know of an import of the given depth. -/
def deepen (depth : Nat) : List Frame → List Frame
  | [] => []
  | frame :: rest => { frame with deepest := max frame.deepest (depth + 1) } :: rest

/-- Close the innermost file. -/
def closeFile (search : DepthSearch) (frame : Frame) (rest : List Frame) : DepthSearch :=
  { search with
    stack := deepen frame.deepest rest
    memo := search.memo.insert frame.file (.known frame.deepest)
    best := max search.best frame.deepest }

/-- One step, or nothing when every file is closed. -/
def step (graph : ImportGraph) (search : DepthSearch) : Option DepthSearch :=
  match search.stack with
  | [] =>
    match search.roots with
    | [] => none
    | root :: roots =>
      if search.memo.contains root then some { search with roots }
      else some (openFile graph { search with roots } root)
  | frame :: rest =>
    match frame.pending with
    | [] => some (search.closeFile frame rest)
    | file :: pending =>
      let next := { search with stack := { frame with pending } :: rest }
      match search.memo[file]? with
      | some (.known depth) => some { next with stack := deepen depth next.stack }
      | some .inProgress => some next
      | none => some (next.openFile graph file)

end DepthSearch

end SourceAtlas.Graph

namespace SourceAtlas.ImportGraph

open SourceAtlas.Graph

/-- The search for the longest chain after so many steps. -/
def depthSearch (graph : ImportGraph) (steps : Nat) : DepthSearch :=
  advance (DepthSearch.step graph) steps { roots := graph.files }

/-- The length of the longest chain of imports, in edges. -/
def maxDepth (graph : ImportGraph) : Nat := (graph.depthSearch graph.searchSteps).best

end SourceAtlas.ImportGraph

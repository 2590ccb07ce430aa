import SourceAtlas.Graph.Depth

/-!
# The joint search

The search for cycles and the search for the longest chain are two machines.
What both do is done here once: the joint search takes the depths of the one and
notes the loops of the other, so that the two can be related through it and the
argument on loops and depths is made on one state.
-/

namespace SourceAtlas.Graph

open DepthSearch (Frame deepen)

/-- The state of a joint search. -/
structure Traversal where
  /-- Files to start from. -/
  roots : List String
  /-- Open files, innermost first. -/
  frames : List Frame := []
  marks : FileMap Depth := ∅
  /-- Loops closed so far, latest first, each from the file re-entered to the innermost file. -/
  loops : List (List String) := []

namespace Traversal

/-- The open path, outermost file first. -/
def path (state : Traversal) : List String := (state.frames.map Frame.file).reverse

/-- The loop closed by an edge to `file`: the open path from `file` on. -/
def loopFrom (state : Traversal) (file : String) : List String :=
  state.path.dropWhile (· ≠ file)

/-- Open a file below the current path. -/
def openFile (graph : ImportGraph) (state : Traversal) (file : String) : Traversal :=
  { state with
    frames := { file, pending := graph.neighbors file } :: state.frames
    marks := state.marks.insert file .inProgress }

/-- One step, or nothing when every file is closed. -/
def step (graph : ImportGraph) (state : Traversal) : Option Traversal :=
  match state.frames with
  | [] =>
    match state.roots with
    | [] => none
    | root :: roots =>
      let next := { state with roots }
      if state.marks.contains root then some next else some (next.openFile graph root)
  | frame :: rest =>
    match frame.pending with
    | [] =>
      some { state with
        frames := deepen frame.deepest rest
        marks := state.marks.insert frame.file (.known frame.deepest) }
    | file :: pending =>
      let next := { state with frames := { frame with pending } :: rest }
      match state.marks[file]? with
      | some .inProgress => some { next with loops := state.loopFrom file :: next.loops }
      | some (.known depth) =>
        some { next with frames := deepen depth next.frames }
      | none => some (next.openFile graph file)

end Traversal

end SourceAtlas.Graph

namespace SourceAtlas.ImportGraph

open SourceAtlas.Graph

/-- The joint search after so many steps. -/
def searchAt (graph : ImportGraph) (steps : Nat) : Traversal :=
  advance (Traversal.step graph) steps { roots := graph.files }

/-- The finished joint search of a graph. -/
def traversal (graph : ImportGraph) : Traversal := graph.searchAt graph.searchSteps

end SourceAtlas.ImportGraph

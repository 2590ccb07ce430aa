import SourceAtlas.Proofs.Graph.Assembly

/-!
# Updating a graph and building it anew

An update is told which nodes to put in, which files to drop, which files are
known now and whether that is another set than before (`Revision`). What a
graph was built from is a list of nodes and the known files (`Sources`). As
long as no change of the known files is kept from an update, a chain of updates
gives the very graph that a build from the revised sources gives.
-/

namespace SourceAtlas.ImportGraph

open SourceAtlas.Graph

/-- What a graph is built from. -/
structure Sources where
  nodes : List Node
  known : FileSet

/-- What an update is told. -/
structure Revision where
  upserts : List Node
  removed : List String
  known : FileSet
  fileSetChanged : Bool

/-- A list of nodes with another one put in, in place of any that has its file. -/
def putNode (nodes : List Node) (node : Node) : List Node :=
  nodes.filter (fun other => other.file ≠ node.file) ++ [node]

namespace Sources

/-- The graph of the sources. -/
def graph (resolver : Resolver) (sources : Sources) : ImportGraph :=
  build resolver sources.nodes sources.known

/-- The sources after a revision: files are dropped first, then nodes are put in. -/
def revise (sources : Sources) (revision : Revision) : Sources where
  nodes := revision.upserts.foldl putNode
    (sources.nodes.filter fun node => node.file ∉ revision.removed)
  known := revision.known

/-- Every revision of a chain says so when it changes the known files. -/
def Announced (sources : Sources) : List Revision → Prop
  | [] => True
  | revision :: rest =>
    (revision.known ≠ sources.known → revision.fileSetChanged = true) ∧
      (sources.revise revision).Announced rest

end Sources

/-- The graph after an update. -/
def afterRevision (resolver : Resolver) (graph : ImportGraph) (revision : Revision) :
    ImportGraph :=
  graph.update resolver revision.upserts revision.removed revision.known revision.fileSetChanged

variable {resolver : Resolver} {sources : Sources} {revision : Revision}

/-! ## The nodes of revised sources -/

/-- A node that is put in is found under its file, and every other file finds what it did. -/
theorem lastFor_putNode (nodes : List Node) (node : Node) (file : String) :
    lastFor Node.file (putNode nodes node) file =
      if node.file = file then some node else lastFor Node.file nodes file := by
  have others := lastFor_filter Node.file (fun other => other ≠ node.file) nodes file
  rw [putNode, lastFor_append, others]
  by_cases same : node.file = file
  · simp [lastFor_cons, same]
  · simp [lastFor_cons, same, Ne.symm same]

/-- Of the nodes put in, the last one for a file counts. -/
theorem lastFor_foldl_putNode (upserts nodes : List Node) (file : String) :
    lastFor Node.file (upserts.foldl putNode nodes) file =
      (lastFor Node.file upserts file).or (lastFor Node.file nodes file) := by
  induction upserts generalizing nodes with
  | nil => rfl
  | cons first rest inductionHypothesis =>
    rw [List.foldl_cons, inductionHypothesis, lastFor_putNode, lastFor_cons]
    cases lastFor Node.file rest file with
    | some later => rfl
    | none => by_cases same : first.file = file <;> simp [same]

/-- After a revision the sources hold what the revision says of each file. -/
theorem lastFor_revise (sources : Sources) (revision : Revision) :
    lastFor Node.file (sources.revise revision).nodes =
      revised (lastFor Node.file sources.nodes) revision.removed revision.upserts := by
  funext file
  have kept := lastFor_filter Node.file (fun other => other ∉ revision.removed)
    sources.nodes file
  rw [Sources.revise, lastFor_foldl_putNode, kept, revised]
  by_cases dropped : file ∈ revision.removed <;> simp [dropped]

/-! ## Updates -/

/-- One update of a built graph. The facts of the revised sources are the revised facts, and facts
determine the graph. -/
theorem afterRevision_graph
    (announced : revision.known ≠ sources.known → revision.fileSetChanged = true) :
    afterRevision resolver (sources.graph resolver) revision =
      (sources.revise revision).graph resolver := by
  have noticed : revision.fileSetChanged = true ∨ revision.known = sources.known := by
    by_cases same : revision.known = sources.known
    · exact .inr same
    · exact .inl (announced same)
  have updated := (assembled_build resolver sources.nodes sources.known).update
    revision.upserts revision.removed noticed
  have rebuilt := assembled_build resolver (sources.revise revision).nodes revision.known
  rw [lastFor_revise] at rebuilt
  exact updated.unique rebuilt

/-- A chain of updates of a built graph gives the graph that is built from the revised sources. -/
theorem foldl_afterRevision_graph (resolver : Resolver) (sources : Sources)
    (revisions : List Revision) (announced : sources.Announced revisions) :
    revisions.foldl (afterRevision resolver) (sources.graph resolver) =
      (revisions.foldl Sources.revise sources).graph resolver := by
  induction revisions generalizing sources with
  | nil => rfl
  | cons revision rest inductionHypothesis =>
    obtain ⟨first, others⟩ := announced
    rw [List.foldl_cons, List.foldl_cons, afterRevision_graph first]
    exact inductionHypothesis (sources.revise revision) others

/-! ## A chain: a file appears, then it is edited while its importer leaves the graph -/

/-- A file that imports the given modules and carries results from before. -/
def importer (file : String) (modules : List String) (stale : List String) : Node where
  file
  imports := modules.map fun source => { source, specifiers := [], line := 1 }
  dependencies := .ofList stale compare
  unresolved := stale
  dependents := .ofList stale compare

/-- One file, whose import finds nothing yet. -/
def loneImporter : Sources where
  nodes := [importer "a.ts" ["./b"] []]
  known := .ofList ["a.ts"] compare

/-- The missing file appears. Then it is put in twice, the last time with results that are out of
date, and the first file leaves the graph but stays known. -/
def growingRevisions : List Revision :=
  [{ upserts := [importer "b.ts" [] []]
     removed := []
     known := .ofList ["a.ts", "b.ts"] compare
     fileSetChanged := true },
   { upserts := [importer "b.ts" ["./gone"] [], importer "b.ts" ["./a", "./b"] ["z.ts"]]
     removed := ["a.ts"]
     known := .ofList ["b.ts", "a.ts"] compare
     fileSetChanged := false }]

/-- The graph after both updates is that of the one node that is left. -/
theorem growingRevisions_graph :
    loneImporter.Announced growingRevisions ∧
      growingRevisions.foldl (afterRevision (.ofExtensions ["ts"] false))
          (loneImporter.graph (.ofExtensions ["ts"] false)) =
        build (.ofExtensions ["ts"] false) [importer "b.ts" ["./a", "./b"] ["z.ts"]]
          (.ofList ["b.ts", "a.ts"] compare) := by
  have sameFiles : Std.ExtTreeSet.ofList ["b.ts", "a.ts"] compare =
      Std.ExtTreeSet.ofList ["a.ts", "b.ts"] compare := by decide +kernel
  have announced : loneImporter.Announced growingRevisions :=
    ⟨fun _ => rfl, fun changed => absurd sameFiles changed, trivial⟩
  exact ⟨announced, foldl_afterRevision_graph _ loneImporter growingRevisions announced⟩

end SourceAtlas.ImportGraph

import SourceAtlas.Path.Key
import SourceAtlas.Graph.Basic

/-!
# Reachability

The files reachable from a set of entries along imports, and the entries a
tree is assumed to have when none are given.
-/

namespace SourceAtlas.ImportGraph

/-- Add the neighbours of the waiting files until none is new. Every round with fuel left closes
one file, so the number of nodes is enough fuel. -/
def reachFrom (graph : ImportGraph) : Nat → List String → FileSet → FileSet
  | 0, _, seen => seen
  | _ + 1, [], seen => seen
  | fuel + 1, file :: waiting, seen =>
    let fresh := (graph.neighbors file).filter fun next => !seen.contains next
    reachFrom graph fuel (waiting ++ fresh) (seen.insertMany fresh)

/-- The nodes reachable from the entries that are nodes. -/
def reachable (graph : ImportGraph) (entries : List String) : FileSet :=
  let start := (entries.filter graph.contains).eraseDups
  graph.reachFrom graph.size start (Std.ExtTreeSet.ofList start compare)

/-- The nodes that no entry reaches, in order. -/
def unreachable (graph : ImportGraph) (entries : List String) : List String :=
  let seen := graph.reachable entries
  graph.files.filter fun file => !seen.contains file

/-- Stems that programs start from by convention. -/
def entryStems : List String := ["index", "main", "app", "server"]

/-- Extensions for which the stems count. -/
def entryExtensions : List String := ["ts", "tsx", "js", "jsx", "mjs", "py", "rs"]

/-- Whether a path is an entry by its name. -/
def isConventionalEntry (file : String) : Bool :=
  match Text.cutLast '.' (PathKey.fileName file) with
  | some (stem, ext) => entryStems.contains stem && entryExtensions.contains ext
  | none => false

/-- The files that nothing imports and those that are entries by name, in order. -/
def inferredEntries (graph : ImportGraph) : List String :=
  let entries : FileSet := Std.ExtTreeSet.ofList graph.entryPoints compare
  (entries.insertMany (graph.files.filter isConventionalEntry)).toList

end SourceAtlas.ImportGraph

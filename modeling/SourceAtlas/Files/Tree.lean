import SourceAtlas.Text.Split

/-!
# File trees

A tree of named entries: files with contents and a time stamp, directories,
and links that hold the path they point to. `nodeAt?` reads a place in a tree
without following links, `set` and `erase` change one.
-/

namespace SourceAtlas

/-- One entry of a file tree. -/
inductive FileNode where
  /-- A file; `modified` is in milliseconds. -/
  | file (content : ByteArray) (modified : Int)
  | directory (entries : List (String × FileNode))
  /-- A symbolic link. -/
  | link (target : String)
  deriving Inhabited

namespace FileNode

/-- A directory without entries. -/
def emptyDirectory : FileNode := .directory []

/-- Whether an entry is itself a file. -/
def isFile : FileNode → Bool
  | .file .. => true
  | _ => false

/-- Whether an entry is itself a directory. -/
def isDirectory : FileNode → Bool
  | .directory _ => true
  | _ => false

/-- The entries of a directory; other nodes have none. -/
def entries : FileNode → List (String × FileNode)
  | .directory entries => entries
  | _ => []

/-- The entry of a directory with the given name. -/
def child? (node : FileNode) (name : String) : Option FileNode :=
  (node.entries.find? fun entry => entry.1 = name).map Prod.snd

/-- The node reached by descending through the given names. -/
def nodeAt? (node : FileNode) : List String → Option FileNode
  | [] => some node
  | name :: rest =>
    match node.child? name with
    | some inner => inner.nodeAt? rest
    | none => none

/-- The entries with one name bound to a new node. A name that was free before comes first: a
directory lists its newest entry first. -/
def setEntry (name : String) (new : FileNode) (entries : List (String × FileNode)) :
    List (String × FileNode) :=
  if entries.any fun entry => entry.1 = name then
    entries.map fun entry => if entry.1 = name then (name, new) else entry
  else (name, new) :: entries

/-- Put a node at a place. Missing directories on the way are made; a place below a file stays
as it is. -/
def set (new : FileNode) : FileNode → List String → FileNode
  | _, [] => new
  | .directory entries, name :: rest =>
    let inner := (((FileNode.directory entries).child? name).getD emptyDirectory)
    .directory (setEntry name (set new inner rest) entries)
  | other, _ :: _ => other

/-- Drop the node at a place. -/
def erase : FileNode → List String → FileNode
  | .directory entries, [name] => .directory (entries.filter fun entry => entry.1 ≠ name)
  | .directory entries, name :: next :: rest =>
    match (FileNode.directory entries).child? name with
    | some inner => .directory (setEntry name (erase inner (next :: rest)) entries)
    | none => .directory entries
  | other, _ => other

mutual

/-- Every path below a node, each written behind `lead`; directories end in a slash and stand
before their entries. -/
def listing (lead : String) : FileNode → List String
  | .directory entries => listingOfEntries lead entries
  | _ => []

/-- The paths of the given entries and of all below them. -/
def listingOfEntries (lead : String) : List (String × FileNode) → List String
  | [] => []
  | (name, node) :: rest =>
    let path := if node.isDirectory then lead ++ name ++ "/" else lead ++ name
    path :: listing path node ++ listingOfEntries lead rest

end

end FileNode

end SourceAtlas

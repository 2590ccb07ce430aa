import SourceAtlas.Error
import SourceAtlas.Files.Tree
import SourceAtlas.Path.Key

/-!
# File systems

A file system is a tree read through slash-separated absolute paths. `locate`
follows links on the way, at most forty of them, and says where a path leads;
every access goes through it. A path longer than 4095 bytes or with a name
longer than 255 bytes leads nowhere.
-/

namespace SourceAtlas

/-- A tree with its root at the path `/`. -/
structure FileSystem where
  top : FileNode := .emptyDirectory
  deriving Inhabited

namespace FileSystem

/-- Where a path leads: the names from the top, free of links, and the node there. -/
inductive Place where
  | found (names : List String) (node : FileNode)
  /-- Only the last name is missing in an existing directory. -/
  | missing (names : List String)

/-- How far a path was followed: to its end, or to a link that turns to other names. -/
inductive Walked where
  | arrived (place : Place)
  | failed (failure : IoFailure)
  | turned (names pending : List String)

/-- The longest name of an entry, in bytes. -/
def maxNameBytes : Nat := 255

/-- The longest path, in bytes. -/
def maxPathBytes : Nat := 4095

/-- The number of links that one access may follow. -/
def maxLinks : Nat := 40

/-- Follow the pending segments from the directory `node` reached by `names` until they end or a
link has to be followed. A link in last position is followed only when `followLast` is set. -/
def walk (system : FileSystem) (followLast : Bool) :
    List String → FileNode → List String → Walked
  | names, node, [] => .arrived (.found names node)
  | names, .directory entries, segment :: rest =>
    if segment = "" ∨ segment = "." then system.walk followLast names (.directory entries) rest
    else if segment = ".." then
      let outer := names.dropLast
      system.walk followLast outer ((system.top.nodeAt? outer).getD .emptyDirectory) rest
    else if maxNameBytes < segment.utf8ByteSize then .failed .nameTooLong
    else
      match (FileNode.directory entries).child? segment with
      | none => if rest.isEmpty then .arrived (.missing (names ++ [segment])) else .failed .notFound
      | some (.link target) =>
        if rest.isEmpty && !followLast then
          .arrived (.found (names ++ [segment]) (.link target))
        else if Text.startsWith "/" target then .turned [] (PathKey.segments target ++ rest)
        else .turned names (PathKey.segments target ++ rest)
      | some inner => system.walk followLast (names ++ [segment]) inner rest
  | _, _, _ :: _ => .failed .notDirectory

/-- Follow pending segments and at most `links` links. -/
def follow (system : FileSystem) (followLast : Bool) :
    Nat → List String → List String → Except IoFailure Place
  | links, names, pending =>
    let start := (system.top.nodeAt? names).getD .emptyDirectory
    match links, system.walk followLast names start pending with
    | _, .arrived place => .ok place
    | _, .failed failure => .error failure
    | 0, .turned .. => .error .tooManyLinks
    | left + 1, .turned names' pending' => system.follow followLast left names' pending'

/-- Where an absolute path leads; whether a link at its end is followed is up to the caller. -/
def locateWith (system : FileSystem) (followLast : Bool) (path : String) :
    Except IoFailure Place :=
  if path = "" then .error .notFound
  else if maxPathBytes < path.utf8ByteSize then .error .nameTooLong
  else system.follow followLast maxLinks [] (PathKey.segments path)

/-- Where an absolute path leads. -/
def locate (system : FileSystem) (path : String) : Except IoFailure Place :=
  system.locateWith true path

/-- Where an absolute path leads when a link at its end counts as an entry of its own. -/
def locateEntry (system : FileSystem) (path : String) : Except IoFailure Place :=
  system.locateWith false path

/-- The node a path leads to. -/
def node (system : FileSystem) (path : String) : Except IoFailure FileNode := do
  match ← system.locate path with
  | .found _ node => .ok node
  | .missing _ => .error .notFound

/-- Whether a path leads to a file. -/
def isFile (system : FileSystem) (path : String) : Bool :=
  match system.node path with
  | .ok node => node.isFile
  | .error _ => false

/-- Whether a path leads to a directory. -/
def isDirectory (system : FileSystem) (path : String) : Bool :=
  match system.node path with
  | .ok node => node.isDirectory
  | .error _ => false

/-- Whether a path leads to anything. -/
def contains (system : FileSystem) (path : String) : Bool :=
  match system.node path with
  | .ok _ => true
  | .error _ => false

/-- The absolute path of names from the top. -/
def pathOf (names : List String) : String := "/" ++ PathKey.ofSegments names

/-- The path free of links that a path leads to. -/
def canonical (system : FileSystem) (path : String) : Except IoFailure String := do
  match ← system.locate path with
  | .found names _ => .ok (pathOf names)
  | .missing _ => .error .notFound

/-- The contents of a file. -/
def read (system : FileSystem) (path : String) : Except IoFailure ByteArray := do
  match ← system.node path with
  | .file content _ => .ok content
  | _ => .error .isDirectory

/-- The text of a file. -/
def readText (system : FileSystem) (path : String) : Except IoFailure String := do
  let content ← system.read path
  match String.fromUTF8? content with
  | some text => .ok text
  | none => .error .invalidText

/-- The file system with a node at a place. -/
def put (system : FileSystem) (names : List String) (node : FileNode) : FileSystem :=
  ⟨node.set system.top names⟩

/-- Write a file at time `now`; its directory has to exist. -/
def write (system : FileSystem) (path : String) (content : ByteArray) (now : Int) :
    Except IoFailure FileSystem := do
  match ← system.locate path with
  | .found _ (.directory _) => .error .isDirectory
  | .found names _ => .ok (system.put names (.file content now))
  | .missing names => .ok (system.put names (.file content now))

/-- Make one directory. -/
def makeDirectory (system : FileSystem) (path : String) : Except IoFailure FileSystem := do
  match ← system.locateEntry (Text.trimEndMatches (· == '/') path) with
  | .found .. => .error .alreadyExists
  | .missing names => .ok (system.put names .emptyDirectory)

/-- Make a directory, given by its segments from the innermost one, and the directories above it
as far as they are missing. -/
def makeDirectoriesOf (system : FileSystem) : List String → Except IoFailure FileSystem
  | [] => .ok system
  | segment :: outer =>
    let path := pathOf (segment :: outer).reverse
    match system.makeDirectory path with
    | .ok next => .ok next
    | .error .notFound =>
      match system.makeDirectoriesOf outer with
      | .ok next =>
        match next.makeDirectory path with
        | .ok made => .ok made
        | .error failure => if next.isDirectory path then .ok next else .error failure
      | .error failure => .error failure
    | .error failure => if system.isDirectory path then .ok system else .error failure

/-- Make a directory with all missing directories above it. -/
def makeDirectories (system : FileSystem) (path : String) : Except IoFailure FileSystem :=
  if maxPathBytes < path.utf8ByteSize then .error .nameTooLong
  else system.makeDirectoriesOf ((PathKey.segments path).filter (· ≠ "")).reverse

/-- Remove a file or a link. -/
def removeFile (system : FileSystem) (path : String) : Except IoFailure FileSystem := do
  match ← system.locateEntry path with
  | .found _ (.directory _) => .error .isDirectory
  | .found names _ => .ok ⟨system.top.erase names⟩
  | .missing _ => .error .notFound

/-- Remove whatever stands at a path, with everything below it. -/
def removeAll (system : FileSystem) (path : String) : Except IoFailure FileSystem := do
  match ← system.locateEntry path with
  | .found names _ => .ok ⟨system.top.erase names⟩
  | .missing _ => .error .notFound

/-- Move a file over another file or to a free place. -/
def moveFile (system : FileSystem) (source target : String) : Except IoFailure FileSystem := do
  match ← system.locateEntry source with
  | .missing _ => .error .notFound
  | .found names node =>
    match ← system.locateEntry target with
    | .found _ (.directory _) => .error .isDirectory
    | .found names' _ => .ok ((FileSystem.mk (system.top.erase names)).put names' node)
    | .missing names' => .ok ((FileSystem.mk (system.top.erase names)).put names' node)

/-- Make a link. -/
def makeLink (system : FileSystem) (path target : String) : Except IoFailure FileSystem := do
  match ← system.locateEntry path with
  | .found .. => .error .alreadyExists
  | .missing names => .ok (system.put names (.link target))

/-- Every path below a directory, sorted; directories end in a slash. -/
def listing (system : FileSystem) (path : String) : List String :=
  match system.node path with
  | .ok node => (node.listing "").mergeSort fun a b => a ≤ b
  | .error _ => []

end FileSystem

end SourceAtlas

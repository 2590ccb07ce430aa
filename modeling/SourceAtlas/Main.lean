import SourceAtlas.Code.Language
import SourceAtlas.Command.Program
import Std.Time.DateTime.Timestamp

/-!
# The executable

Reads the working directory, runs the program on it and writes back what
changed. Everything in between is the pure function `Command.execute`.
-/

namespace SourceAtlas.Executable

/-- The milliseconds of a time stamp of the file system. -/
def millisecondsOf (time : IO.FS.SystemTime) : Int := time.sec * 1000 + time.nsec.toNat / 1000000

mutual

/-- Read an entry of a directory. A link is kept with the place it leads to. -/
partial def readEntry (entry : IO.FS.DirEntry) : IO FileNode := do
  let metadata ← entry.path.symlinkMetadata
  match metadata.type with
  | .dir => readEntries (← entry.path.readDir)
  | .symlink =>
    try return .link (← IO.FS.realPath entry.path).toString
    catch _ => return .link ""
  | _ => return .file (← IO.FS.readBinFile entry.path) (millisecondsOf metadata.modified)

/-- Read the entries of a directory; one that cannot be read is left out. -/
partial def readEntries (entries : Array IO.FS.DirEntry) : IO FileNode := do
  let mut nodes := []
  for entry in entries do
    try
      let node ← readEntry entry
      nodes := (entry.fileName, node) :: nodes
    catch _ => pure ()
  return .directory nodes

end

/-- Write what differs between two states of the entry at a path. -/
partial def writeChanges (path : String) (old new : Option FileNode) : IO Unit := do
  match old, new with
  | some (.file before _), some (.file after _) =>
    unless before = after do IO.FS.writeBinFile path after
  | _, some (.file content _) => IO.FS.writeBinFile path content
  | old, some (.directory entries) =>
    if old.isNone then IO.FS.createDirAll path
    let before := ((old.map FileNode.entries).getD [])
    for (name, node) in entries do
      writeChanges (path ++ "/" ++ name) ((before.find? (·.1 = name)).map (·.2)) (some node)
    for (name, node) in before do
      unless entries.any (·.1 = name) do writeChanges (path ++ "/" ++ name) (some node) none
  | some (.file ..), none => IO.FS.removeFile path
  | _, _ => return ()

/-- The variable that holds the key of the embedding service. -/
def readEnvironment (files : FileSystem) (root : String) : IO (String → Option String) := do
  let settings := (Settings.load files root).toOption.getD {}
  let name := settings.embeddings.service.keyVariable
  let value ← IO.getEnv name
  return fun asked => if asked = name then value else none

/-- The surroundings of a process without network and without models. -/
def surroundings (root : String) (environment : String → Option String) : Surroundings Unit where
  root
  environment
  service := fun _ _ state => (.error { reason := "the embedding service cannot be reached" }, state)
  localModel := fun name _ => .error { reason := "no local model named '" ++ name ++ "'" }
  parser := Language.parser

end SourceAtlas.Executable

open SourceAtlas SourceAtlas.Executable in
/-- Run the program in the working directory. -/
def main (arguments : List String) : IO UInt32 := do
  let here ← IO.FS.realPath (← IO.currentDir)
  let root := here.toString
  let names := (PathKey.segments root).filter (· ≠ "")
  let tree ← readEntries (← here.readDir)
  let files := FileSystem.put {} names tree
  let now := (← Std.Time.Timestamp.now).toMillisecondsSinceUnixEpoch.toInt
  let environment ← readEnvironment files root
  let (ending, workspace) :=
    Command.execute (surroundings root environment) arguments now { files, provider := () }
  writeChanges root (some tree) (workspace.files.top.nodeAt? names)
  IO.print ending.output
  if let some report := ending.report then IO.eprint report
  return ending.code.toUInt32

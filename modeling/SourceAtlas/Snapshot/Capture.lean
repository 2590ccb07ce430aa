import SourceAtlas.Config.Settings
import SourceAtlas.Files.System
import SourceAtlas.Match.IgnoreRules
import SourceAtlas.Number.Word
import SourceAtlas.Snapshot.Basic

/-!
# Capturing a tree

`capture` walks a directory and records every tracked file; `recordFile?`
records one file by the same rules. Files are left out by override patterns, by
ignore files on the way down from the root, by a name that starts with a dot,
by depth and by size. An entry that cannot be opened is listed as skipped.
-/

namespace SourceAtlas

/-- What a capture tracks and how much it reads. -/
structure CaptureOptions where
  /-- Extensions of files that get a checksum. -/
  extensions : List String
  ignorePatterns : List String
  maxDepth : Nat
  maxFileSize : Nat
  checksums : Bool
  deriving DecidableEq, Repr

/-- The options that the settings ask for. -/
def IndexerSettings.captureOptions (settings : IndexerSettings) : CaptureOptions where
  extensions := settings.extensions
  ignorePatterns := settings.ignorePatterns
  maxDepth := settings.maxDepth
  maxFileSize := settings.maxFileSize
  checksums := settings.checksums

namespace Capture

/-- The number of path components a tracked file may have: one more than the number of directory
levels, in machine arithmetic. -/
def depthLimit (options : CaptureOptions) : Nat := (options.maxDepth + 1) % Word64.count

/-- The override rules: each pattern, written as a line that keeps, marks what to leave out. -/
def overrides : List String → Except IndexError IgnoreRules
  | [] => .ok []
  | pattern :: rest =>
    let line := "!" ++ pattern
    match IgnoreRule.ofLine false line with
    | .ok rule => (overrides rest).map (rule.toList ++ ·)
    | .error fault =>
      .error (.invalidPattern pattern
        ("error parsing glob '" ++ IgnoreRule.trimmed line ++ "': " ++ fault.message))

/-- Whether the overrides leave out a path. -/
def isOverridden (rules : IgnoreRules) (isDirectory : Bool) (path : String) : Bool :=
  rules.verdict isDirectory path = .kept

/-- The ignore files of one directory, which apply to paths relative to it. -/
structure Level where
  /-- The key of the directory under the root, empty for the root. -/
  directory : String
  ignoreRules : IgnoreRules
  gitignoreRules : IgnoreRules

/-- The ignore files of a directory, highest rank first. -/
def ignoreFileNames : List String := [".ignore", ".gitignore"]

/-- The rules of an ignore file, none when it cannot be read. -/
def rulesOf (system : FileSystem) (path : String) : IgnoreRules :=
  match system.read path with
  | .ok content => IgnoreRules.ofFile content
  | .error _ => []

/-- The ignore files of the directory with the given key. -/
def levelOf (system : FileSystem) (root directory : String) : Level :=
  let path := if directory = "" then root else PathKey.below root directory
  { directory
    ignoreRules := rulesOf system (PathKey.below path ".ignore")
    gitignoreRules := rulesOf system (PathKey.below path ".gitignore") }

/-- A key relative to the directory of a level above it. -/
def Level.localPath (level : Level) (key : String) : String :=
  if level.directory = "" then key
  else (Text.afterLead (level.directory ++ "/") key).getD key

/-- The verdict of the ignore files, deepest level first: any `.ignore` file outranks all
`.gitignore` files. -/
def verdictOfLevels (levels : List Level) (isDirectory : Bool) (key : String) : Verdict :=
  let decide := fun (rules : Level → IgnoreRules) =>
    levels.foldl
      (fun found level =>
        found.orElse ((rules level).verdict isDirectory (level.localPath key)))
      Verdict.undecided
  (decide Level.ignoreRules).orElse (decide Level.gitignoreRules)

/-- Whether a walk passes over an entry. Overrides come first, then ignore files; a name that
starts with a dot is passed over unless a rule keeps it. -/
def isPassedOver (overrides : IgnoreRules) (levels : List Level) (isDirectory : Bool)
    (key name : String) : Bool :=
  match overrides.verdict isDirectory key with
  | .kept => true
  | .ignored => false
  | .undecided =>
    match verdictOfLevels levels isDirectory key with
    | .ignored => true
    | .kept => false
    | .undecided => Text.startsWith "." name

/-- Whether the contents of a file are checked. -/
def isChecked (options : CaptureOptions) (path : String) : Bool :=
  options.checksums &&
    match PathKey.extension? path with
    | some extension => options.extensions.contains extension
    | none => false

/-- The record of a file with the given contents. -/
def recordOf (options : CaptureOptions) (key path : String) (content : ByteArray)
    (modified : Int) : FileRecord where
  path := key
  absolutePath := path
  size := content.size
  modified
  checksum := if isChecked options path then some (Digest.Sha256.hex content) else none

/-- What a walk finds. -/
structure Findings where
  records : List FileRecord := []
  skipped : List SkippedEntry := []

/-- The findings of two parts of a tree. -/
def Findings.append (first second : Findings) : Findings where
  records := first.records ++ second.records
  skipped := first.skipped ++ second.skipped

/-- An entry that could not be opened or measured. -/
def unreadable (key path : String) (failure : IoFailure) : SkippedEntry where
  path := key
  reason := path ++ ": IO error for operation on " ++ path ++ ": " ++ failure.message

/-- What a walk needs to know besides the tree. -/
structure Context where
  system : FileSystem
  root : String
  options : CaptureOptions
  overrides : IgnoreRules

/-- Whether a path is too long to be opened. -/
def isTooLong (path : String) : Bool := FileSystem.maxPathBytes < path.utf8ByteSize

mutual

/-- The findings at a kept entry: its record for a file, those below it for a directory. `depth` is
the number of components of its key. -/
def walkNode (context : Context) (levels : List Level) (depth : Nat) (key : String) :
    FileNode → Findings
  | .file content modified =>
    let path := PathKey.below context.root key
    if isTooLong path then { skipped := [unreadable key path .nameTooLong] }
    else if context.options.maxFileSize < content.size then {}
    else { records := [recordOf context.options key path content modified] }
  | .directory entries =>
    let path := if key = "" then context.root else PathKey.below context.root key
    if depthLimit context.options ≤ depth then {}
    else if isTooLong path then { skipped := [unreadable key path .nameTooLong] }
    else walkEntries context (levelOf context.system context.root key :: levels) depth key entries
  | .link _ => {}

/-- The findings among the entries of the directory `key`. -/
def walkEntries (context : Context) (levels : List Level) (depth : Nat) (key : String) :
    List (String × FileNode) → Findings
  | [] => {}
  | (name, node) :: rest =>
    let inner := if key = "" then name else key ++ "/" ++ name
    let found :=
      if isPassedOver context.overrides levels node.isDirectory inner name then {}
      else walkNode context levels (depth + 1) inner node
    found.append (walkEntries context levels depth key rest)

end

/-- Whether an ignore file between the root and a file leaves the file out. The deepest directory
with a verdict decides, and `.ignore` outranks `.gitignore` there. -/
def isIgnoredFile (system : FileSystem) (root key : String) : Bool :=
  let directories := IgnoreRules.ancestors (PathKey.segments key).reverse
  let verdict := directories.foldl
    (fun found outer =>
      let level := levelOf system root (PathKey.ofSegments outer.reverse)
      let path := level.localPath key
      (found.orElse (level.ignoreRules.verdictOnAncestry path)).orElse
        (level.gitignoreRules.verdictOnAncestry path))
    Verdict.undecided
  verdict = .ignored

/-- Whether a file is left out before it is looked at. -/
def isExcludedFile (system : FileSystem) (root key : String) (options : CaptureOptions)
    (overrides : IgnoreRules) : Bool :=
  let parts := PathKey.segments key
  parts.any (Text.startsWith ".") || depthLimit options < parts.length ||
    isOverridden overrides false key || isIgnoredFile system root key

end Capture

namespace Snapshot

/-- The tracked files below a directory at time `now`. -/
def capture (system : FileSystem) (root : String) (options : CaptureOptions) (now : Int) :
    Except IndexError Snapshot := do
  match system.canonical root with
  | .error failure => .error (.access root failure)
  | .ok canonical =>
    match system.node canonical with
    | .ok (.directory entries) =>
      let overrides ← Capture.overrides options.ignorePatterns
      let context := { system, root := canonical, options, overrides : Capture.Context }
      let found := Capture.walkNode context [] 0 "" (.directory entries)
      let files := Std.ExtTreeMap.ofList (found.records.map fun record => (record.path, record))
        compare
      .ok (Snapshot.ofFiles canonical now files found.skipped)
    | _ => .error (.access canonical .rootNotDirectory)

/-- The record that a capture of `root` would hold for one file, if any. -/
def recordFile? (system : FileSystem) (root key : String) (options : CaptureOptions) :
    Except IndexError (Option FileRecord) := do
  let overrides ← Capture.overrides options.ignorePatterns
  let path := PathKey.below root key
  if Capture.isExcludedFile system root key options overrides then .ok none
  else
    match system.node path with
    | .ok (.file content modified) =>
      if options.maxFileSize < content.size then .ok none
      else .ok (some (Capture.recordOf options key path content modified))
    | .ok _ => .ok none
    | .error .notFound => .ok none
    | .error failure => .error (.access path failure)

end Snapshot

end SourceAtlas

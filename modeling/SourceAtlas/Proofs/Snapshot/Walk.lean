import SourceAtlas.Proofs.FileMap
import SourceAtlas.Proofs.Files.Descent
import SourceAtlas.Snapshot.Capture

/-!
# What a capture holds for a path

A capture walks the whole tree and leaves out what it passes over, with
everything below. `foundAt?` looks at one path only, from the root down. Both
agree: the record of a path in a capture is what `foundAt?` finds at its
segments (`exists_capture`), and it finds a record exactly where a descent
without links ends at a file and no entry on the way is passed over.
-/

namespace SourceAtlas

namespace Capture

variable {context : Context} {levels : List Level} {depth : Nat} {key name : String}
  {node : FileNode} {entries : List (String × FileNode)} {names : List String}
  {record : FileRecord} {content : ByteArray} {modified : Int}

/-- The key of an entry of the directory `key`. -/
def innerKey (key name : String) : String := if key = "" then name else key ++ "/" ++ name

/-- The key that names lead to from the directory `key`. -/
def keyBelow (key : String) (names : List String) : String := names.foldl innerKey key

/-- The path of the directory `key`. -/
def directoryPath (root key : String) : String := if key = "" then root else PathKey.below root key

/-- What a walk finds at the end of the given names. -/
def foundAt? (context : Context) (levels : List Level) (depth : Nat) (key : String) :
    FileNode → List String → Option FileRecord
  | .file content modified, [] =>
    let path := PathKey.below context.root key
    if isTooLong path then none
    else if context.options.maxFileSize < content.size then none
    else some (recordOf context.options key path content modified)
  | .directory entries, name :: rest =>
    if depthLimit context.options ≤ depth then none
    else if isTooLong (directoryPath context.root key) then none
    else
      let levels := levelOf context.system context.root key :: levels
      match (FileNode.directory entries).child? name with
      | none => none
      | some node =>
        if isPassedOver context.overrides levels node.isDirectory (innerKey key name) name then none
        else foundAt? context levels (depth + 1) (innerKey key name) node rest
  | _, _ => none

/-- Walking entries gives the records of those that are not passed over. -/
theorem mem_walkEntries :
    record ∈ (walkEntries context levels depth key entries).records ↔
      ∃ name node, (name, node) ∈ entries ∧
        isPassedOver context.overrides levels node.isDirectory (innerKey key name) name = false ∧
        record ∈ (walkNode context levels (depth + 1) (innerKey key name) node).records := by
  induction entries with
  | nil => simp [walkEntries]
  | cons entry rest inductionHypothesis =>
    obtain ⟨first, firstNode⟩ := entry
    have inner : (if key = "" then first else key ++ "/" ++ first) = innerKey key first := rfl
    rw [walkEntries, Findings.append, List.mem_append, inductionHypothesis, inner]
    constructor
    · rintro (here | ⟨name, node, member, kept, found⟩)
      · split at here
        · cases here
        · next kept => exact ⟨first, firstNode, .head _, by simpa using kept, here⟩
      · exact ⟨name, node, .tail _ member, kept, found⟩
    · rintro ⟨name, node, member, kept, found⟩
      cases member with
      | head =>
        refine .inl ?_
        rwa [if_neg (by simp [kept])]
      | tail _ member => exact .inr ⟨name, node, member, kept, found⟩

/-- Walking a file gives its record, if it is found there. -/
theorem mem_walkNode_file :
    record ∈ (walkNode context levels depth key (.file content modified)).records ↔
      foundAt? context levels depth key (.file content modified) [] = some record := by
  rw [walkNode, foundAt?]
  split
  · simp
  · split
    · simp
    · simp [eq_comm]

/-- Walking a directory gives the records below its children that are not passed over. -/
theorem mem_walkNode_directory (sound : (FileNode.directory entries).isSound = true) :
    record ∈ (walkNode context levels depth key (.directory entries)).records ↔
      depth < depthLimit context.options ∧
      isTooLong (directoryPath context.root key) = false ∧
      ∃ name node, (FileNode.directory entries).child? name = some node ∧
        isPassedOver context.overrides (levelOf context.system context.root key :: levels)
          node.isDirectory (innerKey key name) name = false ∧
        record ∈ (walkNode context (levelOf context.system context.root key :: levels) (depth + 1)
          (innerKey key name) node).records := by
  have path : (if key = "" then context.root else PathKey.below context.root key) =
      directoryPath context.root key := rfl
  rw [walkNode, path]
  split
  · next deep => simp [Nat.not_lt.mpr deep]
  · next shallow =>
    split
    · next long => simp [long]
    · next short =>
      simp only [mem_walkEntries, FileNode.child?_eq_some_iff sound]
      simp [Nat.not_le.mp shallow, short]

/-- A file below a directory is found through the child on the way to it. -/
theorem foundAt?_directory {rest : List String} :
    foundAt? context levels depth key (.directory entries) (name :: rest) = some record ↔
      depth < depthLimit context.options ∧
      isTooLong (directoryPath context.root key) = false ∧
      ∃ node, (FileNode.directory entries).child? name = some node ∧
        isPassedOver context.overrides (levelOf context.system context.root key :: levels)
          node.isDirectory (innerKey key name) name = false ∧
        foundAt? context (levelOf context.system context.root key :: levels) (depth + 1)
          (innerKey key name) node rest = some record := by
  rw [foundAt?]
  split
  · next deep => simp [Nat.not_lt.mpr deep]
  · next shallow =>
    split
    · next long => simp [long]
    · next short =>
      cases child : (FileNode.directory entries).child? name with
      | none => simp
      | some node => simp [Nat.not_le.mp shallow, short]

/-- The findings of a walk are what is found at the end of names. -/
theorem mem_walkNode (sound : node.isSound = true) :
    record ∈ (walkNode context levels depth key node).records ↔
      ∃ names, foundAt? context levels depth key node names = some record := by
  induction node using FileNode.induction_on_entries generalizing levels depth key with
  | file content modified =>
    rw [mem_walkNode_file]
    constructor
    · intro found
      exact ⟨[], found⟩
    · rintro ⟨names, found⟩
      cases names with
      | nil => exact found
      | cons name rest => cases found
  | link target =>
    rw [walkNode]
    constructor
    · intro found
      cases found
    · rintro ⟨names, found⟩
      cases names <;> cases found
  | directory entries inductionHypothesis =>
    -- The entries of a sound directory are sound, so the statement holds of each of them.
    have below : ∀ name node, (FileNode.directory entries).child? name = some node →
        ∀ {levels depth key}, record ∈ (walkNode context levels depth key node).records ↔
          ∃ names, foundAt? context levels depth key node names = some record := by
      intro name node child levels depth key
      exact inductionHypothesis name node ((FileNode.child?_eq_some_iff sound).mp child)
        (FileNode.sound_child? sound child).2
    rw [mem_walkNode_directory sound]
    constructor
    · rintro ⟨shallow, short, name, node, child, kept, found⟩
      obtain ⟨rest, found⟩ := (below name node child).mp found
      exact ⟨name :: rest, foundAt?_directory.mpr ⟨shallow, short, node, child, kept, found⟩⟩
    · rintro ⟨names, found⟩
      cases names with
      | nil => cases found
      | cons name rest =>
        obtain ⟨shallow, short, node, child, kept, found⟩ := foundAt?_directory.mp found
        exact ⟨shallow, short, name, node, child, kept, (below name node child).mpr ⟨rest, found⟩⟩

/-! ## Keys -/

/-- Joining a run that holds the separator joins its two halves. -/
theorem joinChars_cons_append (separator first second : List Char) (rest : List (List Char)) :
    Text.joinChars separator ((first ++ separator ++ second) :: rest) =
      Text.joinChars separator (first :: second :: rest) := by
  cases rest <;> simp [Text.joinChars]

/-- The key below a key is made of it and the names. -/
theorem keyBelow_eq_ofSegments (nonblank : key ≠ "") (names : List String) :
    keyBelow key names = PathKey.ofSegments (key :: names) := by
  induction names generalizing key with
  | nil => simp [keyBelow, PathKey.ofSegments, Text.join, Text.joinChars]
  | cons name rest inductionHypothesis =>
    have inner : innerKey key name = key ++ "/" ++ name := if_neg nonblank
    have step : keyBelow key (name :: rest) = keyBelow (key ++ "/" ++ name) rest := by
      rw [keyBelow, List.foldl_cons, inner]
      rfl
    rw [step, inductionHypothesis (by simp)]
    simp only [PathKey.ofSegments, Text.join, List.map_cons, String.toList_append]
    rw [joinChars_cons_append]

/-- From the root names lead to the key that joins them. -/
theorem keyBelow_root (valid : ∀ name ∈ names, EntryName name) :
    keyBelow "" names = PathKey.ofSegments names := by
  cases names with
  | nil => rfl
  | cons name rest =>
    have first : innerKey "" name = name := if_pos rfl
    rw [keyBelow, List.foldl_cons, first]
    exact keyBelow_eq_ofSegments (valid name (.head _)).notBlank rest

/-- Where the segments of a key lead to a node, they lead from the root to the key. -/
theorem keyBelow_segments {directory : FileNode} (sound : directory.isSound = true)
    (ends : directory.nodeAt? (PathKey.segments key) = some node) :
    keyBelow "" (PathKey.segments key) = key := by
  rw [keyBelow_root (FileNode.sound_nodeAt? sound ends).1, PathKey.ofSegments_segments]

/-- A key below a key is no shorter than the key. -/
theorem utf8ByteSize_le_keyBelow (key : String) (names : List String) :
    key.utf8ByteSize ≤ (keyBelow key names).utf8ByteSize := by
  induction names generalizing key with
  | nil => exact Nat.le_refl _
  | cons name rest inductionHypothesis =>
    have step : key.utf8ByteSize ≤ (innerKey key name).utf8ByteSize := by
      rw [innerKey]
      split
      · next blank => simp [blank]
      · simp only [String.utf8ByteSize_append]
        omega
    exact Nat.le_trans step (inductionHypothesis _)

/-- Where a path is short enough, so is that of every directory above it. -/
theorem isTooLong_directoryPath {root : String}
    (short : isTooLong (PathKey.below root (keyBelow key names)) = false) :
    isTooLong (directoryPath root key) = false := by
  have smaller := utf8ByteSize_le_keyBelow key names
  have within := PathKey.utf8ByteSize_le_below root (keyBelow key names)
  have inner := PathKey.utf8ByteSize_below root key
  have innermost := PathKey.utf8ByteSize_below root (keyBelow key names)
  simp only [isTooLong, decide_eq_false_iff_not, Nat.not_lt] at short ⊢
  rw [directoryPath]
  split <;> omega

/-! ## Where a record is found -/

/-- No entry on the way from the directory `key` to the end of the names, itself included, is
passed over. All but the last are directories. -/
def isKept (context : Context) (levels : List Level) (key : String) : List String → Bool
  | [] => true
  | name :: rest =>
    let levels := levelOf context.system context.root key :: levels
    !isPassedOver context.overrides levels (!rest.isEmpty) (innerKey key name) name &&
      isKept context levels (innerKey key name) rest

/-- A node that leads to a file is a directory, unless it is the file itself. -/
theorem isDirectory_of_nodeAt? (ends : node.nodeAt? names = some (.file content modified)) :
    node.isDirectory = !names.isEmpty := by
  cases names with
  | nil =>
    cases ends
    rfl
  | cons name rest =>
    rw [FileNode.nodeAt?_cons] at ends
    obtain ⟨next, child, -⟩ := Option.bind_eq_some_iff.mp ends
    obtain ⟨entries, rfl⟩ := FileNode.eq_directory_of_child? child
    rfl

/-- A record is found exactly where names lead to a file that is small and not too deep, and no
entry on the way is passed over. -/
theorem foundAt?_eq_some_iff :
    foundAt? context levels depth key node names = some record ↔
      ∃ content modified, node.nodeAt? names = some (.file content modified) ∧
        isKept context levels key names = true ∧
        (names = [] ∨ depth + names.length ≤ depthLimit context.options) ∧
        isTooLong (PathKey.below context.root (keyBelow key names)) = false ∧
        content.size ≤ context.options.maxFileSize ∧
        record = recordOf context.options (keyBelow key names)
          (PathKey.below context.root (keyBelow key names)) content modified := by
  induction names generalizing levels depth key node with
  | nil =>
    cases node with
    | file content modified =>
      rw [foundAt?]
      simp only [FileNode.nodeAt?, isKept, keyBelow, List.foldl_nil]
      split
      · next long => simp [long]
      · next short =>
        split
        · next large => grind
        · next small => grind
    | directory entries => simp [foundAt?, FileNode.nodeAt?]
    | link target => simp [foundAt?, FileNode.nodeAt?]
  | cons name rest inductionHypothesis =>
    cases node with
    | file content modified => simp [foundAt?, FileNode.nodeAt?, FileNode.child?, FileNode.entries]
    | link target => simp [foundAt?, FileNode.nodeAt?, FileNode.child?, FileNode.entries]
    | directory entries =>
      rw [foundAt?_directory, FileNode.nodeAt?_cons]
      constructor
      · rintro ⟨shallow, -, node, child, kept, found⟩
        obtain ⟨content, modified, ends, keptBelow, deep, short, small, rfl⟩ :=
          inductionHypothesis.mp found
        refine ⟨content, modified, by rw [child]; exact ends, ?_, .inr ?_, short, small, rfl⟩
        · rw [isKept, ← isDirectory_of_nodeAt? ends, kept, keptBelow]
          rfl
        · rcases deep with last | deep
          · simp only [last, List.length_cons, List.length_nil]
            omega
          · simp only [List.length_cons]
            omega
      · rintro ⟨content, modified, ends, kept, deep, short, small, rfl⟩
        obtain ⟨node, child, ends⟩ := Option.bind_eq_some_iff.mp ends
        rw [isKept, Bool.and_eq_true, ← isDirectory_of_nodeAt? ends] at kept
        have deep : depth + 1 + rest.length ≤ depthLimit context.options := by
          rcases deep with blank | deep
          · cases blank
          · simp only [List.length_cons] at deep
            omega
        refine ⟨by omega, isTooLong_directoryPath short, node, child, by simpa using kept.1, ?_⟩
        exact inductionHypothesis.mpr
          ⟨content, modified, ends, kept.2, .inr deep, short, small, rfl⟩

/-- A found file is recorded under the names that lead to it. -/
theorem names_of_foundAt? (sound : node.isSound = true)
    (found : foundAt? context levels depth "" node names = some record) :
    (∀ name ∈ names, EntryName name) ∧ record.path = PathKey.ofSegments names := by
  obtain ⟨content, modified, ends, -, -, -, -, rfl⟩ := foundAt?_eq_some_iff.mp found
  have valid := (FileNode.sound_nodeAt? sound ends).1
  exact ⟨valid, keyBelow_root valid⟩

/-- In a walk from the root the names of a record are the segments of its path. -/
theorem names_eq_segments (sound : (FileNode.directory entries).isSound = true)
    (found : foundAt? context levels depth "" (.directory entries) names = some record) :
    names = PathKey.segments record.path := by
  obtain ⟨valid, path⟩ := names_of_foundAt? sound found
  have nonempty : names ≠ [] := by
    rintro rfl
    cases found
  rw [path, PathKey.segments_ofSegments nonempty fun name member => (valid name member).slashFree]

/-- A walk from the root gives a path the record that is found at its segments, and no other. -/
theorem lastFor_walkNode (sound : (FileNode.directory entries).isSound = true) (path : String) :
    lastFor FileRecord.path (walkNode context levels depth "" (.directory entries)).records path =
      foundAt? context levels depth "" (.directory entries) (PathKey.segments path) := by
  have segments : ∀ record ∈ (walkNode context levels depth "" (.directory entries)).records,
      foundAt? context levels depth "" (.directory entries) (PathKey.segments record.path) =
        some record := by
    intro record member
    obtain ⟨names, found⟩ := (mem_walkNode sound).mp member
    rwa [← names_eq_segments sound found]
  have unique : ∀ first ∈ (walkNode context levels depth "" (.directory entries)).records,
      ∀ second ∈ (walkNode context levels depth "" (.directory entries)).records,
        first.path = second.path → first = second := by
    intro first firstMember second secondMember same
    have found := segments first firstMember
    rw [same, segments second secondMember] at found
    exact (Option.some.inj found).symm
  refine Option.ext fun record => ?_
  rw [lastFor_eq_some_iff unique]
  constructor
  · rintro ⟨member, rfl⟩
    exact segments record member
  · intro found
    refine ⟨(mem_walkNode sound).mpr ⟨_, found⟩, ?_⟩
    rw [(names_of_foundAt? sound found).2, PathKey.ofSegments_segments]

end Capture

namespace Snapshot

variable {context : Capture.Context} {entries : List (String × FileNode)}

/-- A capture of a canonical directory succeeds when the patterns can be read, and holds for every
path what is found at its segments. -/
theorem exists_capture (sound : context.system.top.isSound = true)
    (canonical : context.system.canonical context.root = .ok context.root)
    (located : context.system.node context.root = .ok (.directory entries))
    (read : Capture.overrides context.options.ignorePatterns = .ok context.overrides) (now : Int) :
    ∃ snapshot, capture context.system context.root context.options now = .ok snapshot ∧
      ∀ path : String, snapshot.files[path]? =
        Capture.foundAt? context [] 0 "" (.directory entries) (PathKey.segments path) := by
  have soundHere := FileSystem.sound_of_node sound located
  have taken : ∃ snapshot, capture context.system context.root context.options now = .ok snapshot ∧
      snapshot.files = Std.ExtTreeMap.ofList
        ((Capture.walkNode context [] 0 "" (.directory entries)).records.map fun record =>
          (record.path, record)) compare := by
    rw [capture, canonical]
    dsimp only
    rw [located]
    dsimp only
    rw [read]
    exact ⟨_, rfl, rfl⟩
  obtain ⟨snapshot, captured, files⟩ := taken
  refine ⟨snapshot, captured, fun path => ?_⟩
  rw [files, FileMap.getElem?_ofList, Capture.lastFor_walkNode soundHere]

end Snapshot

end SourceAtlas

import SourceAtlas.Files.System
import SourceAtlas.Proofs.Path.Key

/-!
# Descending in a tree and following a path

`nodeAt?` descends through directories without following links; `locate` reads
a path segment by segment and follows links. Where a descent from a canonical
directory ends at a file, the path of that file leads to the same file
(`node_of_nodeAt?`), and whatever a path leads to stands at the names that
`locate` reports.
-/

namespace SourceAtlas

/-- A name that an entry of a directory can have. -/
structure EntryName (name : String) : Prop extends PathKey.Ordinary name where
  slashFree : '/' ∉ name.toList
  short : name.utf8ByteSize ≤ FileSystem.maxNameBytes

namespace FileNode

variable {node inner : FileNode} {entries : List (String × FileNode)} {name : String}
  {names first second : List String}

/-- Whether a name can stand in a directory. -/
def isEntryName (name : String) : Bool :=
  name ≠ "" && name ≠ "." && name ≠ ".." && !name.toList.contains '/' &&
    name.utf8ByteSize ≤ FileSystem.maxNameBytes

/-- What the check of a name accepts is the name of an entry. -/
theorem entryName_of_isEntryName (valid : isEntryName name = true) : EntryName name := by
  simp only [isEntryName, Bool.and_eq_true, decide_eq_true_eq, Bool.not_eq_true',
    List.contains_eq_mem, decide_eq_false_iff_not] at valid
  obtain ⟨⟨⟨⟨notBlank, notHere⟩, notAbove⟩, slashFree⟩, short⟩ := valid
  exact ⟨⟨notBlank, notHere, notAbove⟩, slashFree, short⟩

mutual

/-- Whether a tree is one that a file system can hold: in every directory the names are entry names
and no two are the same. -/
def isSound : FileNode → Bool
  | .directory entries => (entries.map Prod.fst).Nodup && entriesAreSound entries
  | _ => true

/-- Whether the given entries have entry names and sound trees below them. -/
def entriesAreSound : List (String × FileNode) → Bool
  | [] => true
  | (name, node) :: rest => isEntryName name && node.isSound && entriesAreSound rest

end

/-- Induction over a tree: a directory comes after its entries. -/
theorem induction_on_entries {motive : FileNode → Prop}
    (file : ∀ content modified, motive (.file content modified))
    (link : ∀ target, motive (.link target))
    (directory : ∀ entries : List (String × FileNode),
      (∀ name node, (name, node) ∈ entries → motive node) → motive (.directory entries)) :
    ∀ node, motive node
  | .file content modified => file content modified
  | .link target => link target
  | .directory entries => directory entries fun name node member => by
    have smaller := List.sizeOf_lt_of_mem member
    have inside : sizeOf node < sizeOf (name, node) := by
      rw [Prod.mk.sizeOf_spec]
      omega
    exact induction_on_entries file link directory node
termination_by node => sizeOf node
decreasing_by
  simp only [FileNode.directory.sizeOf_spec]
  omega

/-- The entries of a sound directory have proper names and sound nodes. -/
theorem sound_of_mem (sound : entriesAreSound entries = true) (member : (name, node) ∈ entries) :
    EntryName name ∧ node.isSound = true := by
  induction entries with
  | nil => cases member
  | cons entry rest inductionHypothesis =>
    rw [entriesAreSound, Bool.and_eq_true, Bool.and_eq_true] at sound
    obtain ⟨⟨valid, soundHere⟩, soundRest⟩ := sound
    cases member with
    | head => exact ⟨entryName_of_isEntryName valid, soundHere⟩
    | tail _ member => exact inductionHypothesis soundRest member

/-- In a sound directory an entry is the child of its name. -/
theorem child?_eq_some_iff (sound : (FileNode.directory entries).isSound = true) :
    (FileNode.directory entries).child? name = some node ↔ (name, node) ∈ entries := by
  rw [isSound, Bool.and_eq_true, decide_eq_true_eq] at sound
  have distinct := sound.1
  simp only [child?, FileNode.entries]
  clear sound
  induction entries with
  | nil => simp
  | cons entry rest inductionHypothesis =>
    obtain ⟨other, otherNode⟩ := entry
    obtain ⟨fresh, distinctRest⟩ := List.nodup_cons.mp distinct
    by_cases same : other = name
    · subst same
      have absent : (other, node) ∉ rest := fun member =>
        fresh (List.mem_map.mpr ⟨_, member, rfl⟩)
      simp [absent, eq_comm]
    · simp [same, inductionHypothesis distinctRest, Ne.symm same]

/-- A child of a sound node has a proper name and is sound. -/
theorem sound_child? (sound : node.isSound = true) (found : node.child? name = some inner) :
    EntryName name ∧ inner.isSound = true := by
  cases node with
  | directory entries =>
    have member := (child?_eq_some_iff sound).mp found
    rw [isSound, Bool.and_eq_true] at sound
    exact sound_of_mem sound.2 member
  | file content modified => cases found
  | link target => cases found

/-- A node is found below the first name of the way to it. -/
theorem nodeAt?_cons (node : FileNode) (name : String) (rest : List String) :
    node.nodeAt? (name :: rest) = (node.child? name).bind fun inner => inner.nodeAt? rest := by
  rw [nodeAt?]
  cases node.child? name <;> rfl

/-- A way in two parts is taken one part after the other. -/
theorem nodeAt?_append (node : FileNode) (first second : List String) :
    node.nodeAt? (first ++ second) =
      (node.nodeAt? first).bind fun inner => inner.nodeAt? second := by
  induction first generalizing node with
  | nil => rfl
  | cons name rest inductionHypothesis =>
    rw [List.cons_append, nodeAt?_cons, nodeAt?_cons]
    cases node.child? name with
    | none => rfl
    | some next => exact inductionHypothesis next

/-- The way to a node in a sound tree has proper names, and the node is sound. -/
theorem sound_nodeAt? (sound : node.isSound = true) (found : node.nodeAt? names = some inner) :
    (∀ name ∈ names, EntryName name) ∧ inner.isSound = true := by
  induction names generalizing node with
  | nil =>
    cases found
    exact ⟨by simp, sound⟩
  | cons name rest inductionHypothesis =>
    rw [nodeAt?_cons] at found
    obtain ⟨next, child, found⟩ := Option.bind_eq_some_iff.mp found
    obtain ⟨valid, soundNext⟩ := sound_child? sound child
    obtain ⟨validRest, soundInner⟩ := inductionHypothesis soundNext found
    refine ⟨?_, soundInner⟩
    intro other member
    cases member with
    | head => exact valid
    | tail _ member => exact validRest other member

/-- A node that a descent can leave is a directory. -/
theorem eq_directory_of_child? (found : node.child? name = some inner) :
    ∃ entries, node = .directory entries := by
  cases node with
  | directory entries => exact ⟨entries, rfl⟩
  | file content modified => cases found
  | link target => cases found

end FileNode

namespace FileSystem

open FileNode

variable {system : FileSystem} {followLast : Bool} {node inner : FileNode}
  {names base rest : List String} {root key : String}

/-- Blank segments are stepped over. -/
theorem walk_blank (entries : List (String × FileNode)) (base rest : List String) :
    system.walk followLast base (.directory entries) ("" :: rest) =
      system.walk followLast base (.directory entries) rest := by
  rw [walk]
  exact if_pos (.inl rfl)

/-- One ordinary step down to a node that is not a link. -/
theorem walk_cons {entries : List (String × FileNode)} {name : String} (valid : EntryName name)
    (child : (FileNode.directory entries).child? name = some inner)
    (solid : ∀ target, inner ≠ .link target) (base rest : List String) :
    system.walk followLast base (.directory entries) (name :: rest) =
      system.walk followLast (base ++ [name]) inner rest := by
  have short : ¬maxNameBytes < name.utf8ByteSize := Nat.not_lt.mpr valid.short
  rw [walk, child]
  simp only [valid.notBlank, valid.notHere, valid.notAbove, or_self, if_false, short]

/-- Following ordinary names is descending, as long as no link is met. -/
theorem walk_append (valid : ∀ name ∈ names, EntryName name)
    (found : node.nodeAt? names = some inner) (solid : ∀ target, inner ≠ .link target)
    (base rest : List String) :
    system.walk followLast base node (names ++ rest) =
      system.walk followLast (base ++ names) inner rest := by
  induction names generalizing node base with
  | nil =>
    cases found
    simp
  | cons name others inductionHypothesis =>
    rw [nodeAt?_cons] at found
    obtain ⟨next, child, below⟩ := Option.bind_eq_some_iff.mp found
    obtain ⟨entries, rfl⟩ := eq_directory_of_child? child
    -- The node in between is left again or is the last one, so it is no link either.
    have solidNext : ∀ target, next ≠ .link target := by
      intro target same
      subst same
      cases others with
      | nil =>
        cases below
        exact solid target rfl
      | cons => cases below
    rw [List.cons_append, walk_cons (valid name (.head _)) child solidNext,
      inductionHypothesis (fun other member => valid other (.tail _ member)) below]
    simp

/-- What is known of the names at which a walk ends or turns: something stands there. -/
def Walked.Stands (system : FileSystem) : Walked → Prop
  | .arrived (.found names node) => system.top.nodeAt? names = some node
  | .turned names _ => (system.top.nodeAt? names).isSome
  | _ => True

/-- Where a walk ends is a place of the tree. -/
theorem walk_stands {pending : List String} (stands : system.top.nodeAt? names = some node) :
    (system.walk followLast names node pending).Stands system := by
  induction pending generalizing names node with
  | nil =>
    unfold walk
    exact stands
  | cons segment rest inductionHypothesis =>
    cases node with
    | file content modified => trivial
    | link target => trivial
    | directory entries =>
      rw [walk]
      split
      · exact inductionHypothesis stands
      · split
        · -- The directory above stands too, being on the way.
          have outer : ∃ above, system.top.nodeAt? names.dropLast = some above := by
            rcases List.eq_nil_or_concat names with rfl | ⟨before, last, rfl⟩
            · exact ⟨_, stands⟩
            · rw [List.concat_eq_append, nodeAt?_append] at stands
              obtain ⟨above, found, -⟩ := Option.bind_eq_some_iff.mp stands
              rw [List.concat_eq_append, List.dropLast_concat]
              exact ⟨above, found⟩
          obtain ⟨above, found⟩ := outer
          simp only [found, Option.getD_some]
          exact inductionHypothesis found
        · split
          · trivial
          · have below : ∀ next, (FileNode.directory entries).child? segment = some next →
                system.top.nodeAt? (names ++ [segment]) = some next := by
              intro next child
              rw [nodeAt?_append, stands, Option.bind_some, nodeAt?_cons, child]
              rfl
            cases child : (FileNode.directory entries).child? segment with
            | none =>
              dsimp only
              split <;> trivial
            | some next =>
              cases next with
              | link target =>
                dsimp only
                split
                · exact below _ child
                · split
                  · rfl
                  · simp [Walked.Stands, stands]
              | file content modified => exact inductionHypothesis (below _ child)
              | directory inner => exact inductionHypothesis (below _ child)

/-- Following a path ends at names where something stands. -/
theorem follow_stands {links : Nat} {pending found : List String}
    (stands : (system.top.nodeAt? names).isSome)
    (arrived : system.follow followLast links names pending = .ok (.found found node)) :
    system.top.nodeAt? found = some node := by
  induction links generalizing names pending with
  | zero =>
    obtain ⟨start, here⟩ := Option.isSome_iff_exists.mp stands
    have walked : (system.walk followLast names start pending).Stands system := walk_stands here
    unfold follow at arrived
    simp only [here, Option.getD_some] at arrived
    cases walk : system.walk followLast names start pending with
    | arrived place =>
      rw [walk] at arrived walked
      cases arrived
      exact walked
    | failed failure =>
      rw [walk] at arrived
      cases arrived
    | turned names' pending' =>
      rw [walk] at arrived
      cases arrived
  | succ left inductionHypothesis =>
    obtain ⟨start, here⟩ := Option.isSome_iff_exists.mp stands
    have walked : (system.walk followLast names start pending).Stands system := walk_stands here
    unfold follow at arrived
    simp only [here, Option.getD_some] at arrived
    cases walk : system.walk followLast names start pending with
    | arrived place =>
      rw [walk] at arrived walked
      cases arrived
      exact walked
    | failed failure =>
      rw [walk] at arrived
      cases arrived
    | turned names' pending' =>
      rw [walk] at arrived walked
      exact inductionHypothesis walked arrived

/-- A located node stands at the names it was found under. -/
theorem locate_stands {path : String} (located : system.locate path = .ok (.found names node)) :
    system.top.nodeAt? names = some node := by
  rw [locate, locateWith] at located
  split at located
  · cases located
  · split at located
    · cases located
    · exact follow_stands rfl located

/-- A path leads to a node that stands at names from the top. -/
theorem exists_names_of_node {path : String} (located : system.node path = .ok node) :
    ∃ names, system.top.nodeAt? names = some node := by
  obtain ⟨place, found, here⟩ := bind_eq_ok_iff.mp located
  cases place with
  | missing names => cases here
  | found names stands =>
    cases here
    exact ⟨names, locate_stands found⟩

/-- Whatever a path leads to in a sound tree is sound. -/
theorem sound_of_node {path : String} (sound : system.top.isSound = true)
    (located : system.node path = .ok node) : node.isSound = true := by
  obtain ⟨names, stands⟩ := exists_names_of_node located
  exact (sound_nodeAt? sound stands).2

/-- A path that leads somewhere is not too long. -/
theorem short_of_node {path : String} (leads : system.node path = .ok node) :
    path.utf8ByteSize ≤ maxPathBytes := by
  obtain ⟨place, located, -⟩ := bind_eq_ok_iff.mp leads
  rw [locate, locateWith] at located
  split at located
  · cases located
  · split at located
    · cases located
    · next short => exact Nat.not_lt.mp short

/-- The names of a canonical directory and what stands there. -/
theorem exists_names_of_canonical (canonical : system.canonical root = .ok root)
    (located : system.node root = .ok node) :
    ∃ names, root = pathOf names ∧ system.top.nodeAt? names = some node := by
  obtain ⟨place, found, path⟩ := bind_eq_ok_iff.mp canonical
  obtain ⟨place', found', here⟩ := bind_eq_ok_iff.mp located
  rw [found] at found'
  cases found'
  cases place with
  | missing names => cases path
  | found names stands =>
    cases here
    exact ⟨names, (Except.ok.inj path).symm, locate_stands found⟩

/-- The path of some names is taken apart into a blank segment and these names. -/
theorem segments_pathOf (valid : ∀ name ∈ names, EntryName name) :
    PathKey.segments (pathOf names) = "" :: (if names = [] then [""] else names) := by
  have split : PathKey.segments (pathOf names) =
      PathKey.segments "" ++ PathKey.segments (PathKey.ofSegments names) := by
    rw [← PathKey.segments_append]
    rfl
  rw [split]
  split
  · next none =>
    rw [none]
    rfl
  · next some =>
    rw [PathKey.segments_ofSegments some fun name member => (valid name member).slashFree]
    rfl

/-- Below the path of a directory its names come first, and then the key. -/
theorem segments_below_pathOf (valid : ∀ name ∈ names, EntryName name) (key : String) :
    PathKey.segments (PathKey.below (pathOf names) key) =
      "" :: (names ++ PathKey.segments key) := by
  rw [PathKey.segments_below]
  by_cases none : names = []
  · subst none
    rfl
  · have whole := segments_pathOf valid
    rw [if_neg none] at whole
    have closed : Text.endsWith "/" (pathOf names) = false := by
      refine Bool.eq_false_iff.mpr fun ends => ?_
      -- Behind the slash at the end there would be a last name, and it would be blank.
      obtain ⟨lead, split⟩ := Text.endsWith_iff.mp ends
      have blank := PathKey.segments_append lead ""
      rw [String.append_empty, ← split, whole, show PathKey.segments "" = [""] from rfl] at blank
      have last := congrArg List.getLast? blank
      rw [List.getLast?_concat, List.getLast?_cons, List.getLast?_eq_some_getLast none] at last
      exact (valid _ (List.getLast_mem none)).notBlank (by simpa using last)
    rw [closed, whole]
    rfl

/-- The path of a file below a canonical directory leads to that file. -/
theorem node_of_nodeAt? {directory : FileNode} {content : ByteArray} {modified : Int}
    (sound : system.top.isSound = true) (canonical : system.canonical root = .ok root)
    (located : system.node root = .ok directory)
    (found : directory.nodeAt? (PathKey.segments key) = some (.file content modified))
    (short : (PathKey.below root key).utf8ByteSize ≤ maxPathBytes) :
    system.node (PathKey.below root key) = .ok (.file content modified) := by
  obtain ⟨names, path, stands⟩ := exists_names_of_canonical canonical located
  obtain ⟨validNames, soundDirectory⟩ := sound_nodeAt? sound stands
  obtain ⟨validKey, -⟩ := sound_nodeAt? soundDirectory found
  have whole : system.top.nodeAt? (names ++ PathKey.segments key) =
      some (.file content modified) := by
    rw [nodeAt?_append, stands, Option.bind_some, found]
  have valid : ∀ name ∈ names ++ PathKey.segments key, EntryName name := by
    intro name member
    rcases List.mem_append.mp member with member | member
    · exact validNames name member
    · exact validKey name member
  obtain ⟨entries, top⟩ : ∃ entries, system.top = .directory entries := by
    cases all : names ++ PathKey.segments key with
    | nil => exact absurd (List.append_eq_nil_iff.mp all).2 (PathKey.segments_ne_nil key)
    | cons name rest =>
      rw [all, nodeAt?_cons] at whole
      obtain ⟨next, child, -⟩ := Option.bind_eq_some_iff.mp whole
      exact eq_directory_of_child? child
  have walked : system.walk true [] system.top (PathKey.segments (PathKey.below root key)) =
      .arrived (.found (names ++ PathKey.segments key) (.file content modified)) := by
    have descended : system.walk true [] system.top (names ++ PathKey.segments key ++ []) =
        system.walk true ([] ++ (names ++ PathKey.segments key)) (.file content modified) [] :=
      walk_append valid whole (by simp) [] []
    rw [List.append_nil, List.nil_append] at descended
    rw [path, segments_below_pathOf validNames, top, walk_blank]
    rwa [top] at descended
  have nonblank := PathKey.below_ne_blank root key
  rw [node, locate, locateWith, if_neg nonblank, if_neg (Nat.not_lt.mpr short)]
  unfold follow
  simp only [nodeAt?, Option.getD_some, walked]
  rfl

end FileSystem

end SourceAtlas

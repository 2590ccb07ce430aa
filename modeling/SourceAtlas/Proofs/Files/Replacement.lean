import SourceAtlas.Proofs.Files.Descent

/-!
# Writing a file beside its place and moving it there

A directory that is made, a file that is written into it and moved over another
one is what a reader of the other's path finds, as long as neither the directory
nor the file that was written first is a link.
-/

namespace SourceAtlas

namespace FileNode

variable {tree new : FileNode} {entries : List (String × FileNode)} {parent : List String}

/-- The entries with another name stay when one is replaced. -/
theorem find?_map_replaced (name other : String) (new : FileNode)
    (entries : List (String × FileNode)) :
    (entries.map fun entry => if entry.1 = name then (name, new) else entry).find?
        (fun entry => entry.1 = other) =
      if other = name then (entries.find? fun entry => entry.1 = name).map fun _ => (name, new)
      else entries.find? fun entry => entry.1 = other := by
  induction entries with
  | nil => simp
  | cons entry rest inductionHypothesis =>
    rw [List.map_cons, List.find?_cons, List.find?_cons, List.find?_cons, inductionHypothesis]
    by_cases same : entry.1 = name
    · by_cases asked : other = name
      · simp [same, asked]
      · simp [same, asked, Ne.symm asked]
    · by_cases asked : other = name
      · simp [same, asked]
      · simp [same, asked]

/-- A new entry is found under its name, and every other name finds what it did. -/
theorem child?_setEntry (name other : String) (new : FileNode)
    (entries : List (String × FileNode)) :
    (FileNode.directory (setEntry name new entries)).child? other =
      if other = name then some new else (FileNode.directory entries).child? other := by
  simp only [child?, FileNode.entries, setEntry]
  split
  · next present =>
    obtain ⟨entry, member, named⟩ := List.any_eq_true.mp present
    have found : (entries.find? fun entry => entry.1 = name).isSome :=
      List.find?_isSome.mpr ⟨entry, member, named⟩
    obtain ⟨entry, found⟩ := Option.isSome_iff_exists.mp found
    rw [find?_map_replaced, found]
    split <;> rfl
  · rw [List.find?_cons]
    by_cases same : other = name
    · simp [same]
    · simp [same, Ne.symm same]

/-- A node that is put into a directory becomes an entry of it. -/
theorem nodeAt?_set (found : tree.nodeAt? parent = some (.directory entries)) (name : String)
    (new : FileNode) :
    (new.set tree (parent ++ [name])).nodeAt? parent =
      some (.directory (setEntry name new entries)) := by
  induction parent generalizing tree with
  | nil =>
    cases found
    rw [List.nil_append, set, set]
    rfl
  | cons first others inductionHypothesis =>
    rw [nodeAt?_cons] at found
    obtain ⟨inner, child, below⟩ := Option.bind_eq_some_iff.mp found
    obtain ⟨around, rfl⟩ := eq_directory_of_child? child
    rw [List.cons_append, set, child, Option.getD_some, nodeAt?_cons, child?_setEntry, if_pos rfl]
    exact inductionHypothesis below

/-- A directory loses the entry that is dropped from it. -/
theorem nodeAt?_erase (found : tree.nodeAt? parent = some (.directory entries)) (name : String) :
    (tree.erase (parent ++ [name])).nodeAt? parent =
      some (.directory (entries.filter fun entry => entry.1 ≠ name)) := by
  induction parent generalizing tree with
  | nil =>
    cases found
    rfl
  | cons first others inductionHypothesis =>
    rw [nodeAt?_cons] at found
    obtain ⟨inner, child, below⟩ := Option.bind_eq_some_iff.mp found
    obtain ⟨around, rfl⟩ := eq_directory_of_child? child
    obtain ⟨next, rest, shape⟩ := List.exists_cons_of_ne_nil
      (List.append_ne_nil_of_right_ne_nil others (List.cons_ne_nil name []))
    rw [List.cons_append, shape, erase, child]
    dsimp only
    rw [nodeAt?_cons, child?_setEntry, if_pos rfl, ← shape]
    exact inductionHypothesis below

end FileNode

namespace FileSystem

open FileNode

variable {system next : FileSystem} {followLast : Bool} {entries : List (String × FileNode)}
  {parent names : List String} {name path : String} {place : Place}

/-- A path that spells names from the top; blank segments may stand before them. -/
structure Spells (path : String) (names : List String) : Prop where
  nonblank : path ≠ ""
  segments : ∃ blanks, PathKey.segments path = List.replicate blanks "" ++ names

/-- The place of an entry that may be missing. -/
def placeOf (names : List String) : Option FileNode → Place
  | some node => .found names node
  | none => .missing names

/-- Any number of blank segments is stepped over. -/
theorem walk_blanks (base rest : List String) (blanks : Nat) :
    system.walk followLast base (.directory entries) (List.replicate blanks "" ++ rest) =
      system.walk followLast base (.directory entries) rest := by
  induction blanks with
  | zero => rfl
  | succ blanks inductionHypothesis =>
    rw [List.replicate_succ, List.cons_append, walk_blank, inductionHypothesis]

/-- The last step of a walk ends at the entry, whether it exists or not. -/
theorem walk_entry (valid : EntryName name)
    (solid : followLast = true →
      ∀ target, (FileNode.directory entries).child? name ≠ some (.link target))
    (base : List String) :
    system.walk followLast base (.directory entries) [name] =
      .arrived (placeOf (base ++ [name]) ((FileNode.directory entries).child? name)) := by
  have short : ¬maxNameBytes < name.utf8ByteSize := Nat.not_lt.mpr valid.short
  cases child : (FileNode.directory entries).child? name with
  | none =>
    simp only [walk, valid.notBlank, valid.notHere, valid.notAbove, or_self, if_false, short, child]
    rfl
  | some node =>
    cases node with
    | link target =>
      cases followLast with
      | true => exact absurd child (solid rfl target)
      | false =>
        simp only [walk, valid.notBlank, valid.notHere, valid.notAbove, or_self, if_false, short,
          child]
        rfl
    | file content modified =>
      rw [walk_cons valid child (by simp) base []]
      unfold walk
      rfl
    | directory inner =>
      rw [walk_cons valid child (by simp) base []]
      unfold walk
      rfl

/-- The path of an entry of a directory leads to that entry. -/
theorem locateWith_entry (followLast : Bool) (spells : Spells path (parent ++ [name]))
    (valid : ∀ part ∈ parent ++ [name], EntryName part)
    (stands : system.top.nodeAt? parent = some (.directory entries))
    (solid : followLast = true →
      ∀ target, (FileNode.directory entries).child? name ≠ some (.link target))
    (short : path.utf8ByteSize ≤ maxPathBytes) :
    system.locateWith followLast path =
      .ok (placeOf (parent ++ [name]) ((FileNode.directory entries).child? name)) := by
  obtain ⟨above, top⟩ : ∃ above, system.top = .directory above := by
    cases parent with
    | nil => exact ⟨entries, Option.some.inj stands⟩
    | cons first others =>
      rw [nodeAt?_cons] at stands
      obtain ⟨inner, child, -⟩ := Option.bind_eq_some_iff.mp stands
      exact eq_directory_of_child? child
  obtain ⟨blanks, segments⟩ := spells.segments
  have walked : system.walk followLast [] system.top (PathKey.segments path) =
      .arrived (placeOf (parent ++ [name]) ((FileNode.directory entries).child? name)) := by
    have descended : system.walk followLast [] system.top (parent ++ [name]) =
        system.walk followLast ([] ++ parent) (.directory entries) [name] :=
      walk_append (fun part member => valid part (by simp [member])) stands (by simp) [] [name]
    rw [walk_entry (valid name (by simp)) solid, List.nil_append] at descended
    rw [segments, top, walk_blanks, ← top, descended]
  rw [locateWith, if_neg spells.nonblank, if_neg (Nat.not_lt.mpr short)]
  unfold follow
  simp only [nodeAt?, Option.getD_some, walked]

/-- A path that is located is not too long. -/
theorem short_of_locateWith (located : system.locateWith followLast path = .ok place) :
    path.utf8ByteSize ≤ maxPathBytes := by
  rw [locateWith] at located
  split at located
  · cases located
  · split at located
    · cases located
    · next short => exact Nat.not_lt.mp short

/-- The target of a move that succeeds is not too long. -/
theorem short_of_moveFile {target : String} (moved : system.moveFile path target = .ok next) :
    target.utf8ByteSize ≤ maxPathBytes := by
  obtain ⟨place, -, moved⟩ := bind_eq_ok_iff.mp moved
  cases place with
  | missing names => cases moved
  | found names node =>
    obtain ⟨place, located, -⟩ := bind_eq_ok_iff.mp moved
    exact short_of_locateWith located

/-- The path of some names spells them. -/
theorem spells_pathOf (valid : ∀ part ∈ parent ++ [name], EntryName part) :
    Spells (pathOf (parent ++ [name])) (parent ++ [name]) where
  nonblank := by simp [pathOf]
  segments := ⟨1, by rw [segments_pathOf valid, if_neg (by simp)]; rfl⟩

/-- The path of an entry does not end with a slash. -/
theorem trimEndMatches_pathOf (valid : EntryName name) (parent : List String) :
    Text.trimEndMatches (· == '/') (pathOf (parent ++ [name])) = pathOf (parent ++ [name]) := by
  have ending : ∃ lead, (pathOf (parent ++ [name])).toList = lead ++ name.toList := by
    obtain ⟨lead, shape⟩ := Text.exists_joinChars_append ['/'] (parent.map String.toList)
      name.toList
    refine ⟨'/' :: lead, ?_⟩
    have slash : "/".toList = ['/'] := rfl
    simp only [pathOf, PathKey.ofSegments, Text.join, String.toList_append, String.toList_ofList,
      List.map_append, List.map_singleton, slash, shape]
    rfl
  obtain ⟨lead, shape⟩ := ending
  obtain ⟨c, rest, last⟩ := List.exists_cons_of_ne_nil (show name.toList.reverse ≠ [] by
    simpa using valid.notBlank)
  have slashFree : c ≠ '/' := by
    rintro rfl
    exact valid.slashFree (List.mem_reverse.mp (last ▸ List.mem_cons_self))
  rw [Text.trimEndMatches, shape, List.reverse_append, last, List.cons_append,
    List.dropWhile_cons_of_neg (by simpa using slashFree), ← List.cons_append, ← last,
    ← List.reverse_append, List.reverse_reverse, ← shape, String.ofList_toList]

/-- Making the directory of a path: one that exists is left, one that is missing is made. -/
theorem makeDirectory_pathOf (valid : ∀ part ∈ parent ++ [name], EntryName part)
    (stands : system.top.nodeAt? parent = some (.directory entries))
    (short : (pathOf (parent ++ [name])).utf8ByteSize ≤ maxPathBytes) :
    system.makeDirectory (pathOf (parent ++ [name])) =
      if ((FileNode.directory entries).child? name).isSome then .error .alreadyExists
      else .ok (system.put (parent ++ [name]) .emptyDirectory) := by
  rw [makeDirectory, trimEndMatches_pathOf (valid name (by simp)), locateEntry,
    locateWith_entry false (spells_pathOf valid) valid stands (by simp) short]
  cases (FileNode.directory entries).child? name <;> rfl

/-- A directory whose path is too long is not made. -/
theorem short_of_makeDirectoriesOf (valid : ∀ part ∈ parent ++ [name], EntryName part)
    (made : system.makeDirectoriesOf (name :: parent.reverse) = .ok next) :
    (pathOf (parent ++ [name])).utf8ByteSize ≤ maxPathBytes := by
  refine Nat.not_lt.mp fun long => ?_
  have failed (followLast : Bool) :
      system.locateWith followLast (pathOf (parent ++ [name])) = .error .nameTooLong := by
    rw [locateWith, if_neg (spells_pathOf valid).nonblank, if_pos long]
  have unmade : system.makeDirectory (pathOf (parent ++ [name])) = .error .nameTooLong := by
    rw [makeDirectory, trimEndMatches_pathOf (valid name (by simp)), locateEntry, failed]
    rfl
  have nowhere : system.isDirectory (pathOf (parent ++ [name])) = false := by
    rw [isDirectory, node, locate, failed]
    rfl
  simp only [makeDirectoriesOf, List.reverse_cons, List.reverse_reverse, unmade, nowhere,
    Bool.false_eq_true, if_false] at made
  cases made

/-- Whether a path leads to a link, when links at its end are not followed. -/
def isLink (system : FileSystem) (path : String) : Bool :=
  match system.locateEntry path with
  | .ok (.found _ (.link _)) => true
  | _ => false

section

variable (spells : Spells path (parent ++ [name]))
  (valid : ∀ part ∈ parent ++ [name], EntryName part)
  (stands : system.top.nodeAt? parent = some (.directory entries))

include spells valid stands

/-- Where a path is no link, no entry under its last name is one. -/
theorem child?_ne_link (plain : system.isLink path = false)
    (short : path.utf8ByteSize ≤ maxPathBytes) :
    ∀ target, (FileNode.directory entries).child? name ≠ some (.link target) := by
  intro target child
  have located := locateWith_entry false spells valid stands (by simp) short
  rw [isLink, locateEntry, located, child] at plain
  cases plain

/-- The path of a file in a directory leads to that file. -/
theorem node_of_child? {content : ByteArray} {modified : Int}
    (child : (FileNode.directory entries).child? name = some (.file content modified))
    (short : path.utf8ByteSize ≤ maxPathBytes) :
    system.node path = .ok (.file content modified) := by
  have solid : true = true →
      ∀ target, (FileNode.directory entries).child? name ≠ some (.link target) := by simp [child]
  rw [FileSystem.node, locate, locateWith_entry true spells valid stands solid short, child]
  rfl

/-- A file that is written becomes an entry of its directory. -/
theorem put_of_write {content : ByteArray} {now : Int}
    (solid : ∀ target, (FileNode.directory entries).child? name ≠ some (.link target))
    (written : system.write path content now = .ok next) :
    next = system.put (parent ++ [name]) (.file content now) := by
  obtain ⟨place, located, written⟩ := bind_eq_ok_iff.mp written
  rw [locate, locateWith_entry true spells valid stands (fun _ => solid)
    (short_of_locateWith located)] at located
  cases located
  cases child : (FileNode.directory entries).child? name with
  | none =>
    rw [child] at written
    cases written
    rfl
  | some node =>
    rw [child] at written
    cases node with
    | directory inner => cases written
    | file content' modified =>
      cases written
      rfl
    | link target =>
      cases written
      rfl

/-- An entry that is moved within its directory. -/
theorem put_of_moveFile {other target : String} (spellsTarget : Spells target (parent ++ [other]))
    (validTarget : ∀ part ∈ parent ++ [other], EntryName part)
    (moved : system.moveFile path target = .ok next) :
    ∃ node, (FileNode.directory entries).child? name = some node ∧
      next = (FileSystem.mk (system.top.erase (parent ++ [name]))).put (parent ++ [other])
        node := by
  obtain ⟨place, located, moved⟩ := bind_eq_ok_iff.mp moved
  rw [locateEntry, locateWith_entry false spells valid stands (by simp)
    (short_of_locateWith located)] at located
  cases located
  cases child : (FileNode.directory entries).child? name with
  | none =>
    rw [child] at moved
    cases moved
  | some node =>
    rw [child] at moved
    obtain ⟨place, located, moved⟩ := bind_eq_ok_iff.mp moved
    rw [locateEntry, locateWith_entry false spellsTarget validTarget stands (by simp)
      (short_of_locateWith located)] at located
    cases located
    refine ⟨node, rfl, ?_⟩
    cases occupant : (FileNode.directory entries).child? other with
    | none =>
      rw [occupant] at moved
      cases moved
      rfl
    | some occupying =>
      rw [occupant] at moved
      cases occupying with
      | directory inner => cases moved
      | file content modified =>
        cases moved
        rfl
      | link target =>
        cases moved
        rfl

/-- Making a directory leaves one that exists and makes an empty one else. -/
theorem makeDirectories_cases (plain : system.isLink path = false)
    (made : system.makeDirectories path = .ok next) :
    (∃ inner, next = system ∧
        (FileNode.directory entries).child? name = some (.directory inner)) ∨
      next = system.put (parent ++ [name]) .emptyDirectory := by
  obtain ⟨blanks, segments⟩ := spells.segments
  have parts : ((PathKey.segments path).filter (· ≠ "")).reverse = name :: parent.reverse := by
    have kept : (parent ++ [name]).filter (· ≠ "") = parent ++ [name] := by
      rw [List.filter_eq_self]
      intro part member
      simpa using (valid part member).notBlank
    rw [segments, List.filter_append, kept, List.filter_eq_nil_iff.mpr (by simp), List.nil_append,
      List.reverse_append, List.reverse_singleton, List.singleton_append]
  rw [makeDirectories] at made
  split at made
  · cases made
  · next short =>
    have solid := child?_ne_link spells valid stands plain (Nat.not_lt.mp short)
    rw [parts] at made
    have placed := short_of_makeDirectoriesOf valid made
    simp only [makeDirectoriesOf, List.reverse_cons, List.reverse_reverse,
      makeDirectory_pathOf valid stands placed] at made
    cases child : (FileNode.directory entries).child? name with
    | none =>
      rw [child] at made
      cases made
      exact .inr rfl
    | some node =>
      have reached : system.isDirectory (pathOf (parent ++ [name])) = node.isDirectory := by
        rw [isDirectory, FileSystem.node, locate, locateWith_entry true (spells_pathOf valid) valid
          stands (fun _ => solid) placed, child]
        rfl
      rw [child] at made
      simp only [Option.isSome_some, if_true, reached] at made
      cases node with
      | directory inner =>
        cases made
        exact .inl ⟨inner, rfl, rfl⟩
      | file content modified => cases made
      | link target => cases made

end

/-- The directory that was made, and that the entry to be written there is no link. -/
theorem stands_of_makeDirectories {directory temporary : String} {outer : List String}
    {folder part : String} (spells : Spells directory (outer ++ [folder]))
    (spellsTemporary : Spells temporary (outer ++ [folder] ++ [part]))
    (valid : ∀ name ∈ outer ++ [folder] ++ [part], EntryName name)
    (stands : system.top.nodeAt? outer = some (.directory entries))
    (plain : system.isLink directory = false) (plainTemporary : system.isLink temporary = false)
    (short : temporary.utf8ByteSize ≤ maxPathBytes)
    (made : system.makeDirectories directory = .ok next) :
    ∃ inner, next.top.nodeAt? (outer ++ [folder]) = some (.directory inner) ∧
      ∀ target, (FileNode.directory inner).child? part ≠ some (.link target) := by
  have validFolder : ∀ name ∈ outer ++ [folder], EntryName name :=
    fun name member => valid name (List.mem_append_left _ member)
  obtain ⟨inner, rfl, child⟩ | rfl := makeDirectories_cases spells validFolder stands plain made
  · have here : next.top.nodeAt? (outer ++ [folder]) = some (.directory inner) := by
      rw [nodeAt?_append, stands, Option.bind_some, nodeAt?_cons, child]
      rfl
    exact ⟨inner, here, child?_ne_link spellsTemporary valid here plainTemporary short⟩
  · refine ⟨[], ?_, fun target child => by cases child⟩
    rw [put, nodeAt?_append, nodeAt?_set stands, Option.bind_some, nodeAt?_cons, child?_setEntry,
      if_pos rfl]
    rfl

/-- A file that is written into a directory made for it and then moved over another entry is what
the path of that entry leads to. -/
theorem node_of_replaced {made written moved : FileSystem} {directory temporary target : String}
    {outer : List String} {folder part whole : String} {content : ByteArray} {now : Int}
    (spells : Spells directory (outer ++ [folder]))
    (spellsTemporary : Spells temporary (outer ++ [folder] ++ [part]))
    (spellsTarget : Spells target (outer ++ [folder] ++ [whole]))
    (valid : ∀ name ∈ outer ++ [folder], EntryName name) (validPart : EntryName part)
    (validWhole : EntryName whole)
    (stands : system.top.nodeAt? outer = some (.directory entries))
    (plain : system.isLink directory = false) (plainTemporary : system.isLink temporary = false)
    (makes : system.makeDirectories directory = .ok made)
    (writes : made.write temporary content now = .ok written)
    (moves : written.moveFile temporary target = .ok moved) :
    moved.node target = .ok (.file content now) := by
  have validTemporary : ∀ name ∈ outer ++ [folder] ++ [part], EntryName name :=
    List.forall_mem_append.mpr ⟨valid, by simpa using validPart⟩
  have validTarget : ∀ name ∈ outer ++ [folder] ++ [whole], EntryName name :=
    List.forall_mem_append.mpr ⟨valid, by simpa using validWhole⟩
  obtain ⟨place, located, -⟩ := bind_eq_ok_iff.mp writes
  obtain ⟨inner, here, solid⟩ := stands_of_makeDirectories spells spellsTemporary validTemporary
    stands plain plainTemporary (short_of_locateWith located) makes
  obtain rfl := put_of_write spellsTemporary validTemporary here solid writes
  have beside := nodeAt?_set here part (.file content now)
  have short : target.utf8ByteSize ≤ maxPathBytes := short_of_moveFile moves
  obtain ⟨node, child, rfl⟩ :=
    put_of_moveFile spellsTemporary validTemporary beside spellsTarget validTarget moves
  rw [child?_setEntry, if_pos rfl] at child
  cases child
  have replaced := nodeAt?_set (nodeAt?_erase beside part) whole (.file content now)
  refine node_of_child? spellsTarget validTarget replaced ?_ short
  rw [child?_setEntry, if_pos rfl]

/-- A path below a directory spells the names of the directory and of the key. -/
theorem spells_below (valid : ∀ part ∈ names, EntryName part) (key : String) :
    Spells (PathKey.below (pathOf names) key) (names ++ PathKey.segments key) where
  nonblank := PathKey.below_ne_blank _ key
  segments := ⟨1, segments_below_pathOf valid key⟩

/-- A path that leads to a directory leads to its entries. -/
theorem exists_entries_of_isDirectory {path : String} (directory : system.isDirectory path = true) :
    ∃ entries, system.node path = .ok (.directory entries) := by
  rw [isDirectory] at directory
  split at directory
  · next node located =>
    cases node with
    | directory entries => exact ⟨entries, located⟩
    | file content modified => cases directory
    | link target => cases directory
  · cases directory

/-- A text is decoded from its bytes. -/
theorem fromUTF8?_toUTF8 (text : String) : String.fromUTF8? text.toUTF8 = some text := by
  rw [String.fromUTF8?, String.toUTF8_eq_toByteArray, dif_pos text.isValidUTF8]
  rfl

/-- A file with the bytes of a text is read back as this text. -/
theorem readText_of_node {path text : String} {now : Int}
    (node : system.node path = .ok (.file text.toUTF8 now)) : system.readText path = .ok text := by
  have content : system.read path = .ok text.toUTF8 := by
    rw [FileSystem.read, node]
    rfl
  simp only [readText, content, bind, Except.bind, fromUTF8?_toUTF8]

end FileSystem

end SourceAtlas

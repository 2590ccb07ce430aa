import SourceAtlas.Proofs.Text.Split

/-!
# Use trees

The argument of a use declaration is a tree of paths: a leaf ends in a name, a
rename or a star, a group has members in braces. Every leaf binds at most one
name. `Readable` says of a tree that no brace inside the outer ones stands in the
way of a name: a lone segment right behind an opening brace has none to bind, and
behind any other leaf no brace closes.
-/

namespace SourceAtlas.Code.Crate

/-! ## Trees -/

/-- The characters of names: none that separates or marks the parts of a tree. -/
def isNameChar (c : Char) : Bool :=
  !Text.isBlank c && c ∉ [',', ':', '*', '\x7b', '\x7d']

/-- The characters of leaves. -/
def isLeafChar (c : Char) : Bool := isNameChar c || c ∈ [':', '*', ' ']

/-- A name other than the keyword `self`. -/
structure Identifier where
  text : String
  named : text ≠ ""
  spelled : text.toList.all isNameChar = true
  free : text ≠ "self"

/-- A segment of a path. -/
inductive PathSegment where
  | self
  | name (identifier : Identifier)

/-- What stands before the last segment of a path. -/
structure UsePath where
  /-- Whether the path starts with a double colon. -/
  rooted : Bool
  segments : List PathSegment

/-- The end of a path. -/
inductive UseLeaf where
  | named (path : UsePath) (segment : PathSegment) (rename? : Option Identifier)
  | glob (path : UsePath)

/-- The argument of a use declaration. -/
inductive UseTree where
  | leaf (item : UseLeaf)
  | group (path : UsePath) (members : List UseTree)

def PathSegment.text : PathSegment → String
  | self => "self"
  | name identifier => identifier.text

def UsePath.text (path : UsePath) : String :=
  (if path.rooted then "::" else "") ++
    String.join (path.segments.map fun segment => segment.text ++ "::")

def UseLeaf.text : UseLeaf → String
  | named path segment none => path.text ++ segment.text
  | named path segment (some rename) => path.text ++ segment.text ++ " as " ++ rename.text
  | glob path => path.text ++ "*"

mutual

/-- A tree as it is written. -/
def UseTree.text : UseTree → String
  | leaf item => item.text
  | group path members => path.text ++ "\x7b" ++ Text.join ", " (texts members) ++ "\x7d"

def UseTree.texts : List UseTree → List String
  | [] => []
  | member :: rest => member.text :: texts rest

end

mutual

/-- The leaves of a tree in order. -/
def UseTree.leaves : UseTree → List UseLeaf
  | leaf item => [item]
  | group _ members => allLeaves members

def UseTree.allLeaves : List UseTree → List UseLeaf
  | [] => []
  | member :: rest => member.leaves ++ allLeaves rest

end

/-- The name that a leaf binds: its rename or its last segment. Globs and `self` bind none. -/
def UseLeaf.name? : UseLeaf → Option String
  | named _ _ (some rename) => some rename.text
  | named _ (.name identifier) none => some identifier.text
  | named _ .self none => none
  | glob _ => none

/-- The names that a tree binds. -/
def UseTree.names (tree : UseTree) : List String := tree.leaves.filterMap UseLeaf.name?

/-! ## Trees whose names are read off right -/

def UsePath.IsEmpty (path : UsePath) : Prop := path.rooted = false ∧ path.segments = []

/-- A leaf of one segment, written as it is. -/
def UseLeaf.Single : UseLeaf → Prop
  | named path _ rename? => path.IsEmpty ∧ rename? = none
  | glob path => path.IsEmpty

/-- A leaf is read off right between inner braces: the first flag tells whether one opens before it,
the second whether one closes behind it. -/
inductive UseLeaf.ReadableBetween : UseLeaf → Bool → Bool → Prop
  | apart {item : UseLeaf} : item.ReadableBetween false false
  | opened {item : UseLeaf} (compound : ¬item.Single) : item.ReadableBetween true false
  | unnamed {item : UseLeaf} {closed : Bool} (single : item.Single) (unnamed : item.name? = none) :
      item.ReadableBetween true closed

mutual

/-- Every leaf of a tree between these braces is read off right. -/
def UseTree.ReadableBetween : UseTree → Bool → Bool → Prop
  | leaf item, opened, closed => item.ReadableBetween opened closed
  | group _ members, _, _ => AllReadable members true true

def UseTree.AllReadable : List UseTree → Bool → Bool → Prop
  | [], _, _ => True
  | [member], opened, closed => member.ReadableBetween opened closed
  | member :: next :: rest, opened, closed =>
    member.ReadableBetween opened false ∧ AllReadable (next :: rest) false closed

end

/-- Every leaf of a declaration is read off right. The outer braces are cut away. -/
def UseTree.Readable : UseTree → Prop
  | leaf _ => True
  | group _ members => AllReadable members false false

/-! ## Characters -/

/-- Names are made of the characters that neither separate nor group items. -/
theorem isNameChar_iff {c : Char} :
    isNameChar c = true ↔ Text.isBlank c = false ∧ c ∉ [',', ':', '*', '\x7b', '\x7d'] := by
  simp [isNameChar]

/-- An identifier is made of name characters. -/
theorem Identifier.plain (identifier : Identifier) :
    ∀ c ∈ identifier.text.toList, isNameChar c = true := List.all_eq_true.mp identifier.spelled

/-- A segment of a path is made of name characters. -/
theorem PathSegment.plain (segment : PathSegment) :
    ∀ c ∈ segment.text.toList, isNameChar c = true := by
  cases segment with
  | self => exact List.all_eq_true.mp (by decide)
  | name identifier => exact identifier.plain

/-- No segment of a path is blank. -/
theorem PathSegment.text_ne_empty (segment : PathSegment) : segment.text ≠ "" := by
  cases segment with
  | self => decide
  | name identifier => exact identifier.named

/-- No segment of a path has a blank. -/
theorem PathSegment.solid (segment : PathSegment) :
    ∀ c ∈ segment.text.toList, Text.isBlank c = false :=
  fun c member => (isNameChar_iff.mp (segment.plain c member)).1

/-- A path is made of names and colons. -/
theorem UsePath.plain (path : UsePath) :
    ∀ c ∈ path.text.toList, isNameChar c = true ∨ c = ':' := by
  have colons : "::".toList = [':', ':'] := rfl
  intro c member
  rw [text, String.toList_append, List.mem_append, String.toList_join] at member
  rcases member with lead | inner
  · split at lead
    · exact .inr (by simpa [colons] using lead)
    · cases lead
  · rw [List.flatMap_map, List.mem_flatMap] at inner
    obtain ⟨segment, _, written⟩ := inner
    rw [String.toList_append, List.mem_append] at written
    rcases written with name | behind
    · exact .inl (segment.plain c name)
    · exact .inr (by simpa [colons] using behind)

/-- No path has a blank. -/
theorem UsePath.solid (path : UsePath) : ∀ c ∈ path.text.toList, Text.isBlank c = false := by
  intro c member
  rcases path.plain c member with name | rfl
  · exact (isNameChar_iff.mp name).1
  · decide

/-- A path of no segments is written as nothing. -/
theorem UsePath.IsEmpty.text_eq {path : UsePath} (empty : path.IsEmpty) : path.text = "" := by
  rw [text, empty.1, empty.2]
  rfl

/-- A path that is not empty ends with a double colon. -/
theorem UsePath.exists_text_eq {path : UsePath} (held : ¬path.IsEmpty) :
    ∃ lead, path.text = lead ++ "::" := by
  rw [text]
  rcases List.eq_nil_or_concat path.segments with none | ⟨earlier, last, split⟩
  · have rooted : path.rooted = true := by
      by_contra unrooted
      exact held ⟨Bool.eq_false_iff.mpr unrooted, none⟩
    exact ⟨"", by rw [none, rooted]; rfl⟩
  · refine ⟨(if path.rooted then "::" else "") ++
      String.join (earlier.map fun segment => segment.text ++ "::") ++ last.text, ?_⟩
    rw [split, List.concat_eq_append, List.map_append, List.map_singleton, String.join_append,
      String.join_cons, String.join_nil, String.append_empty]
    simp only [String.append_assoc]

namespace UseLeaf

/-- What stands last in a leaf. -/
def last : UseLeaf → String
  | named _ _ (some rename) => rename.text
  | named _ segment none => segment.text
  | glob _ => "*"

variable {item : UseLeaf}

/-- An item is made of leaf characters. -/
theorem plain (item : UseLeaf) : ∀ c ∈ item.text.toList, isLeafChar c = true := by
  have ofName : ∀ {c}, isNameChar c = true → isLeafChar c = true := fun name => by
    simp [isLeafChar, name]
  have ofPath : ∀ path : UsePath, ∀ c ∈ path.text.toList, isLeafChar c = true := by
    intro path c member
    rcases path.plain c member with name | rfl
    · exact ofName name
    · decide
  have ofAs : ∀ c ∈ " as ".toList, isLeafChar c = true := List.all_eq_true.mp (by decide)
  have ofStar : ∀ c ∈ "*".toList, isLeafChar c = true := List.all_eq_true.mp (by decide)
  cases item with
  | named path segment rename? =>
    have ofSegment := fun c member => ofName (segment.plain c member)
    cases rename? with
    | none =>
      rw [text, String.toList_append, List.forall_mem_append]
      exact ⟨ofPath path, ofSegment⟩
    | some rename =>
      simp only [text, String.toList_append, List.forall_mem_append]
      exact ⟨⟨⟨ofPath path, ofSegment⟩, ofAs⟩, fun c member => ofName (rename.plain c member)⟩
  | glob path =>
    rw [text, String.toList_append, List.forall_mem_append]
    exact ⟨ofPath path, ofStar⟩

/-- The last segment of an item is made of name characters, or is a glob. -/
theorem last_plain (item : UseLeaf) : ∀ c ∈ item.last.toList, isNameChar c = true ∨ c = '*' := by
  cases item with
  | named path segment rename? =>
    cases rename? with
    | none => exact fun c member => .inl (segment.plain c member)
    | some rename => exact fun c member => .inl (rename.plain c member)
  | glob path =>
    intro c member
    have inStar : c ∈ "*".toList := member
    exact .inr (by simpa using inStar)

/-- A single segment is its own last one. -/
theorem Single.text_eq (single : item.Single) : item.text = item.last := by
  cases item with
  | named path segment rename? =>
    obtain ⟨empty, rfl⟩ := single
    rw [text, empty.text_eq, String.empty_append, last]
  | glob path =>
    have empty : path.IsEmpty := single
    rw [text, empty.text_eq, String.empty_append, last]

/-- Every bound name is an identifier. -/
theorem exists_identifier {name : String} (binds : item.name? = some name) :
    ∃ identifier : Identifier, identifier.text = name := by
  cases item with
  | named path segment rename? =>
    cases rename? with
    | some rename => exact ⟨rename, Option.some.inj binds⟩
    | none =>
      cases segment with
      | self => cases binds
      | name identifier => exact ⟨identifier, Option.some.inj binds⟩
  | glob path => cases binds

end UseLeaf

/-- Every name that a list of items binds is an identifier. -/
theorem exists_identifier_of_mem {items : List UseLeaf} {name : String}
    (member : name ∈ items.filterMap UseLeaf.name?) :
    ∃ identifier : Identifier, identifier.text = name := by
  obtain ⟨item, _, binds⟩ := List.mem_filterMap.mp member
  exact item.exists_identifier binds

/-! ## Text -/

/-- A group is its path, an opening brace, its members and a closing brace. -/
theorem toList_text_group (path : UsePath) (members : List UseTree) :
    (UseTree.group path members).text.toList =
      path.text.toList ++ ['\x7b'] ++
        ((Text.join ", " (UseTree.texts members)).toList ++ ['\x7d']) := by
  have opening : "\x7b".toList = ['\x7b'] := rfl
  have closing : "\x7d".toList = ['\x7d'] := rfl
  rw [UseTree.text, String.toList_append, String.toList_append, String.toList_append, opening,
    closing, List.append_assoc _ _ ['\x7d']]

/-- The members of a group are written with a comma and a blank between them. -/
theorem toList_join_texts (member next : UseTree) (rest : List UseTree) :
    (Text.join ", " (UseTree.texts (member :: next :: rest))).toList =
      member.text.toList ++
        ',' :: ([' '] ++ (Text.join ", " (UseTree.texts (next :: rest))).toList) := by
  have comma : ", ".toList = [',', ' '] := rfl
  simp [UseTree.texts, Text.join, Text.joinChars, comma]

end SourceAtlas.Code.Crate

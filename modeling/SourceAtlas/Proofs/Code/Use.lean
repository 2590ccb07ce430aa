import SourceAtlas.Code.Crate.Use
import SourceAtlas.Proofs.Code.UseTree

/-!
# The names of a use tree

A use declaration is a tree of paths (`UseTree`). Its names are read off its text,
cut at the commas between the outer braces, so that the inner braces stay on the
items beside them: behind an opening brace a lone segment is passed over, and in
front of a closing brace a name takes the brace in. All names are right exactly
for the trees in which neither happens (`Readable`).
-/

namespace SourceAtlas.Code.Crate

/-! ## The name of an item -/

/-- A path without a colon is its own last segment. -/
theorem lastSegment_of_not_mem {item : List Char} (free : ':' ∉ item) :
    lastSegment (String.ofList item) = String.ofList item := by
  rw [lastSegment, String.toList_ofList, Text.cutChars_eq_none (by simpa using free)]

/-- The last segment stands behind the last double colon. -/
theorem lastSegment_append (before : List Char) {last : List Char} (free : ':' ∉ last) :
    lastSegment (String.ofList (before ++ ':' :: ':' :: last)) = String.ofList last := by
  have turned : (before ++ ':' :: ':' :: last).reverse =
      last.reverse ++ (':' :: [':'] ++ before.reverse) := by simp
  rw [lastSegment, String.toList_ofList, turned,
    Text.cutChars_append_pattern (by simpa using free)]
  exact congrArg String.ofList last.reverse_reverse

/-- The last segment reaches back over a brace that no colon stands behind. -/
theorem brace_mem_lastSegment (before : List Char) {last : List Char} (free : ':' ∉ last) :
    '\x7b' ∈ (lastSegment (String.ofList (before ++ '\x7b' :: last))).toList := by
  have turned : (before ++ '\x7b' :: last).reverse = (last.reverse ++ ['\x7b']) ++ before.reverse := by
    simp
  rw [lastSegment, String.toList_ofList, turned,
    Text.cutChars_append_of_not_mem (by simpa using free)]
  cases Text.cutChars [':', ':'] before.reverse <;> simp

/-- The last segment has no character that the path does not have. -/
theorem mem_of_mem_lastSegment {item : List Char} {c : Char}
    (member : c ∈ (lastSegment (String.ofList item)).toList) : c ∈ item := by
  rw [lastSegment, String.toList_ofList] at member
  split at member
  next segment rest found =>
    have turned := congrArg List.reverse (Text.eq_append_of_cutChars found)
    rw [List.reverse_reverse] at turned
    rw [turned]
    simp only [String.toList_ofList] at member
    simp [List.mem_reverse.mp member]
  next => simpa using member

/-- What an item binds that comes to this name. -/
def heldName? (name : String) : Option String :=
  if name = "" ∨ name = "*" ∨ name = "self" ∨ Text.contains "\x7b" name then none else some name

/-- The bound name, with the branch on a rename written as a match. -/
theorem boundName?_eq (text : String) :
    boundName? text = heldName? (match Text.cut " as " (Text.trim text) with
      | some (_, rename) => Text.trim rename
      | none => Text.trim (lastSegment (Text.trim text))) := by
  rw [boundName?]
  cases Text.cut " as " (Text.trim text) <;> rfl

/-- The characters of the rename keyword between its blanks. -/
theorem toList_as : " as ".toList = ' ' :: ['a', 's', ' '] := rfl

/-- A renamed item binds the name behind the keyword. -/
theorem boundName?_of_rename {run before rename : List Char}
    (trimmed : Text.trim (String.ofList run) = String.ofList (before ++ (" as ".toList ++ rename)))
    (free : ' ' ∉ before) (solid : ∀ c ∈ rename, Text.isBlank c = false) :
    boundName? (String.ofList run) = heldName? (String.ofList rename) := by
  have cut : Text.cut " as " (String.ofList (before ++ (" as ".toList ++ rename))) =
      some (String.ofList before, String.ofList rename) := by
    rw [Text.cut_ofList, toList_as, Text.cutChars_append_pattern free]
    rfl
  rw [boundName?_eq, trimmed, cut]
  exact congrArg heldName? (Text.trim_of_not_blank solid)

/-- An item that is not renamed binds the last segment of its path. -/
theorem boundName?_of_path {run item : List Char}
    (trimmed : Text.trim (String.ofList run) = String.ofList item)
    (solid : ∀ c ∈ item, Text.isBlank c = false) :
    boundName? (String.ofList run) = heldName? (lastSegment (String.ofList item)) := by
  have space : ' ' ∉ item := fun member => absurd (solid ' ' member) (by decide)
  have cut : Text.cut " as " (String.ofList item) = none := by
    rw [Text.cut_ofList, toList_as, Text.cutChars_eq_none space]
    rfl
  have kept := Text.trim_of_not_blank fun c member => solid c (mem_of_mem_lastSegment member)
  rw [String.ofList_toList] at kept
  rw [boundName?_eq, trimmed, cut]
  exact congrArg heldName? kept

/-- A name with an opening brace is dropped. -/
theorem heldName?_of_brace {name : String} (brace : '\x7b' ∈ name.toList) : heldName? name = none := by
  have found : Text.contains "\x7b" name = true :=
    Text.contains_iff.mpr ((List.singleton_infix_iff _ _).mpr brace)
  exact if_pos (.inr (.inr (.inr found)))

/-- A name is kept if it is not blank, not a glob, not `self` and free of opening braces. -/
theorem heldName?_eq_some {name : String} (named : name ≠ "") (notGlob : name ≠ "*")
    (notSelf : name ≠ "self") (braceless : '\x7b' ∉ name.toList) : heldName? name = some name := by
  have missing : ¬Text.contains "\x7b" name = true := fun found =>
    braceless ((List.singleton_infix_iff _ _).mp (Text.contains_iff.mp found))
  refine if_neg ?_
  rintro (blank | glob | self | brace)
  · exact named blank
  · exact notGlob glob
  · exact notSelf self
  · exact missing brace

/-! ## A leaf between braces -/

/-- The text before an item that is kept on it: a space behind a comma, and the paths of the groups
that the item opens. The flag tells whether there are such groups. -/
inductive Lead : Bool → List Char → Prop
  | start : Lead false []
  | next : Lead false [' ']
  | opened {opened : Bool} {lead : List Char} (outer : Lead opened lead) (path : UsePath) :
      Lead true (lead ++ path.text.toList ++ ['\x7b'])

/-- The closing braces that are kept on an item. The flag tells whether there are any. -/
inductive Tail : Bool → List Char → Prop
  | none : Tail false []
  | closed {closed : Bool} {tail : List Char} (outer : Tail closed tail) :
      Tail true ('\x7d' :: tail)

section

variable {opened closed : Bool} {lead tail : List Char}

/-- Behind an item only closing braces may follow. -/
theorem Tail.eq_brace (behind : Tail closed tail) : ∀ c ∈ tail, c = '\x7d' := by
  induction behind with
  | none => exact List.forall_mem_nil _
  | closed outer inductionHypothesis => exact List.forall_mem_cons.mpr ⟨rfl, inductionHypothesis⟩

/-- No comma stands behind an item. -/
theorem Tail.comma_not_mem (behind : Tail closed tail) : ',' ∉ tail := fun comma =>
  absurd (behind.eq_brace _ comma) (by decide)

/-- No comma stands before an item. -/
theorem Lead.comma_not_mem (held : Lead opened lead) : ',' ∉ lead := by
  induction held with
  | start => decide
  | next => decide
  | opened outer path inductionHypothesis =>
    have plain : ',' ∉ path.text.toList := fun member =>
      absurd (path.plain ',' member) (by decide)
    simp [inductionHypothesis, plain]

/-- What stands before an item is blank space and then, where a group was opened, a path that ends
in a brace. -/
theorem Lead.exists_body (held : Lead opened lead) :
    ∃ space body, lead = space ++ body ∧ (∀ c ∈ space, Text.isBlank c = true) ∧
      (∀ c ∈ body, Text.isBlank c = false) ∧ (opened = false → body = []) ∧
      (opened = true → ∃ outer, body = outer ++ ['\x7b']) := by
  induction held with
  | start => exact ⟨[], [], rfl, by simp, by simp, by simp, by simp⟩
  | next => exact ⟨[' '], [], rfl, List.forall_mem_singleton.mpr (by decide), by simp, by simp, by simp⟩
  | opened outer path inductionHypothesis =>
    obtain ⟨space, body, rfl, blank, solid, -, -⟩ := inductionHypothesis
    refine ⟨space, body ++ path.text.toList ++ ['\x7b'], by simp, blank, ?_, by simp,
      fun _ => ⟨_, rfl⟩⟩
    intro c member
    rw [List.mem_append, List.mem_append, List.mem_singleton] at member
    rcases member with (inBody | inPath) | rfl
    · exact solid c inBody
    · exact path.solid c inPath
    · decide

/-- An item is passed over whose last brace has no colon behind it. -/
theorem Lead.boundName?_eq_none (held : Lead true lead) {rest : List Char}
    (solid : ∀ c ∈ rest, Text.isBlank c = false) (free : ':' ∉ rest) :
    boundName? (String.ofList (lead ++ rest)) = none := by
  obtain ⟨space, body, rfl, blank, solidBody, -, ends⟩ := held.exists_body
  obtain ⟨outer, rfl⟩ := ends rfl
  have whole : ∀ c ∈ outer ++ ['\x7b'] ++ rest, Text.isBlank c = false :=
    List.forall_mem_append.mpr ⟨solidBody, solid⟩
  have trimmed := Text.trim_append_of_not_blank blank whole
  rw [List.append_assoc space, boundName?_of_path trimmed whole]
  rw [List.append_assoc outer, List.singleton_append]
  exact heldName?_of_brace (brace_mem_lastSegment outer free)

/-- An item with a path comes to what stands behind the path, and so does an item without one that
no brace opens before. -/
theorem Lead.boundName?_of_path (held : Lead opened lead) (path : UsePath) {word : List Char}
    (solid : ∀ c ∈ word, Text.isBlank c = false) (free : ':' ∉ word)
    (apart : ¬(opened = true ∧ path.IsEmpty)) :
    boundName? (String.ofList (lead ++ (path.text.toList ++ word))) =
      heldName? (String.ofList word) := by
  obtain ⟨space, body, rfl, blank, solidBody, starts, -⟩ := held.exists_body
  have whole : ∀ c ∈ body ++ (path.text.toList ++ word), Text.isBlank c = false :=
    List.forall_mem_append.mpr ⟨solidBody, List.forall_mem_append.mpr ⟨path.solid, solid⟩⟩
  have trimmed := Text.trim_append_of_not_blank blank whole
  rw [List.append_assoc space, Crate.boundName?_of_path trimmed whole]
  refine congrArg heldName? ?_
  by_cases empty : path.IsEmpty
  · have unopened : opened = false := Bool.eq_false_iff.mpr fun opened => apart ⟨opened, empty⟩
    rw [starts unopened, empty.text_eq]
    exact lastSegment_of_not_mem free
  · obtain ⟨front, split⟩ := UsePath.exists_text_eq empty
    have shape : body ++ (path.text.toList ++ word) =
        (body ++ front.toList) ++ ':' :: ':' :: word := by
      rw [split, String.toList_append, List.append_assoc, List.append_assoc]
      rfl
    rw [shape, lastSegment_append _ free]

/-- An item with a rename comes to the rename. -/
theorem Lead.boundName?_of_rename (held : Lead opened lead) (path : UsePath)
    (segment : PathSegment) {word : List Char} (named : word ≠ [])
    (solid : ∀ c ∈ word, Text.isBlank c = false) :
    boundName? (String.ofList (lead ++
        (path.text.toList ++ segment.text.toList ++ (" as ".toList ++ word)))) =
      heldName? (String.ofList word) := by
  obtain ⟨space, body, rfl, blank, solidBody, -, -⟩ := held.exists_body
  obtain ⟨front, shape⟩ : ∃ front, front = body ++ (path.text.toList ++ segment.text.toList) :=
    ⟨_, rfl⟩
  have solidFront : ∀ c ∈ front, Text.isBlank c = false := by
    rw [shape]
    exact List.forall_mem_append.mpr
      ⟨solidBody, List.forall_mem_append.mpr ⟨path.solid, segment.solid⟩⟩
  have nonempty : front ≠ [] := by
    simp [shape, segment.text_ne_empty]
  have trimmed : Text.trim (String.ofList (space ++ (front ++ (" as ".toList ++ word)))) =
      String.ofList (front ++ (" as ".toList ++ word)) := by
    refine Text.trim_append blank (fun c first => ?_) fun c last => ?_
    · rw [List.head?_append_of_ne_nil _ nonempty] at first
      exact solidFront c (List.mem_of_mem_head? first)
    · rw [← List.append_assoc, List.getLast?_append_of_ne_nil _ named] at last
      exact solid c (List.mem_of_getLast? last)
  have spaceless : ' ' ∉ front := fun member => absurd (solidFront ' ' member) (by decide)
  rw [List.append_assoc space, ← List.append_assoc body, ← shape]
  exact Crate.boundName?_of_rename trimmed spaceless solid

namespace UseLeaf

variable {item : UseLeaf}

/-- What stands last in a leaf, with the braces behind it, has no white space and none of the
characters that names are cut at. -/
theorem ending_plain (item : UseLeaf) (behind : Tail closed tail) :
    ∀ c ∈ item.last.toList ++ tail, Text.isBlank c = false ∧ c ∉ [',', ':', '\x7b'] := by
  refine List.forall_mem_append.mpr ⟨fun c member => ?_, ?_⟩
  · rcases item.last_plain c member with name | rfl
    · obtain ⟨solid, free⟩ := isNameChar_iff.mp name
      exact ⟨solid, fun marked => free (by simp only [List.mem_cons] at marked ⊢; tauto)⟩
    · decide
  · intro c member
    rw [behind.eq_brace c member]
    decide

/-- A leaf of one segment is passed over behind an opening brace. -/
theorem Single.boundName?_eq_none (single : item.Single) (held : Lead true lead)
    (behind : Tail closed tail) :
    boundName? (String.ofList (lead ++ (item.text.toList ++ tail))) = none := by
  rw [single.text_eq]
  exact held.boundName?_eq_none (fun c member => (item.ending_plain behind c member).1)
    fun colon => absurd (item.ending_plain behind ':' colon).2 (by decide)

/-- Any other leaf comes to what stands last in it, with the braces behind it. -/
theorem boundName?_eq (held : Lead opened lead) (behind : Tail closed tail)
    (apart : ¬(opened = true ∧ item.Single)) :
    boundName? (String.ofList (lead ++ (item.text.toList ++ tail))) =
      heldName? (String.ofList (item.last.toList ++ tail)) := by
  have solid := fun c member => (item.ending_plain behind c member).1
  have free : ':' ∉ item.last.toList ++ tail := fun colon =>
    absurd (item.ending_plain behind ':' colon).2 (by decide)
  cases item with
  | named path segment rename? =>
    cases rename? with
    | none =>
      rw [text, String.toList_append, List.append_assoc]
      exact held.boundName?_of_path path solid free fun both => apart ⟨both.1, both.2, rfl⟩
    | some rename =>
      have named : rename.text.toList ++ tail ≠ [] := by simp [rename.named]
      rw [text, String.toList_append, String.toList_append, String.toList_append, List.append_assoc,
        List.append_assoc]
      exact held.boundName?_of_rename path segment named solid
  | glob path =>
    rw [text, String.toList_append, List.append_assoc]
    exact held.boundName?_of_path path solid free apart

/-- The last segment of an item is kept exactly if the item binds a name. -/
theorem heldName?_last (item : UseLeaf) : heldName? item.last = item.name? := by
  have ofIdentifier : ∀ identifier : Identifier,
      heldName? identifier.text = some identifier.text := by
    intro identifier
    have plain : ∀ {c}, c ∈ identifier.text.toList → c ∉ [',', ':', '*', '\x7b', '\x7d'] :=
      fun member => (isNameChar_iff.mp (identifier.plain _ member)).2
    refine heldName?_eq_some identifier.named (fun glob => ?_) identifier.free fun brace => ?_
    · exact plain (c := '*') (by rw [glob]; decide) (by decide)
    · exact plain brace (by decide)
  cases item with
  | named path segment rename? =>
    cases rename? with
    | none =>
      cases segment with
      | self => exact if_pos (.inr (.inr (.inl rfl)))
      | name identifier => exact ofIdentifier identifier
    | some rename => exact ofIdentifier rename
  | glob path => exact if_pos (.inr (.inl rfl))

/-- A closing brace behind a leaf gets into its name. -/
theorem exists_heldName?_closed (item : UseLeaf) (behind : Tail true tail) :
    ∃ name, heldName? (String.ofList (item.last.toList ++ tail)) = some name ∧
      '\x7d' ∈ name.toList := by
  have brace : '\x7d' ∈ item.last.toList ++ tail := by
    cases behind with
    | closed outer => simp
  have different : ∀ {word : String}, '\x7d' ∉ word.toList →
      String.ofList (item.last.toList ++ tail) ≠ word := by
    rintro word braceless rfl
    exact braceless (by rwa [String.toList_ofList])
  refine ⟨_, heldName?_eq_some (different (by decide)) (different (by decide))
    (different (by decide)) fun opening => ?_, by rwa [String.toList_ofList]⟩
  rw [String.toList_ofList] at opening
  exact absurd (item.ending_plain behind _ opening).2 (by decide)

end UseLeaf

/-! ## A tree between braces -/

/-- The names read off a text that is cut at its commas. -/
def readNames (text : List Char) : List String :=
  (Text.splitChars ',' text).filterMap fun run => boundName? (String.ofList run)

/-- A comma separates two independent readings. -/
theorem readNames_append (before after : List Char) :
    readNames (before ++ ',' :: after) = readNames before ++ readNames after := by
  rw [readNames, Text.splitChars_append, List.filterMap_append, readNames, readNames]

/-- A run without a comma binds at most one name. -/
theorem readNames_eq_toList {run : List Char} (free : ',' ∉ run) :
    readNames run = (boundName? (String.ofList run)).toList := by
  rw [readNames, Text.splitChars_eq_singleton free]
  cases bound : boundName? (String.ofList run) <;> simp [bound]

/-- The names that were read off against those that are there. They are the same exactly if `right`
holds, and when they are not, a closing brace got into one of them or some were passed over. -/
structure Reading (read names : List String) (right : Prop) : Prop where
  agrees : read = names ↔ right
  slips : (∃ name ∈ read, '\x7d' ∈ name.toList) ∨ read.Sublist names

/-- Two readings with a comma between them make one reading. -/
theorem Reading.append {first second names more : List String} {right also : Prop}
    (one : Reading first names right) (two : Reading second more also)
    (braceless : ∀ name ∈ names ++ more, '\x7d' ∉ name.toList) :
    Reading (first ++ second) (names ++ more) (right ∧ also) where
  agrees := by
    rw [← one.agrees, ← two.agrees]
    constructor
    · intro same
      have clean : ∀ name ∈ first ++ second, '\x7d' ∉ name.toList := same ▸ braceless
      have firstFits : first.Sublist names := one.slips.resolve_left
        fun ⟨name, member, brace⟩ => clean name (List.mem_append_left _ member) brace
      have secondFits : second.Sublist more := two.slips.resolve_left
        fun ⟨name, member, brace⟩ => clean name (List.mem_append_right _ member) brace
      have lengths := congrArg List.length same
      have firstLength := firstFits.length_le
      have secondLength := secondFits.length_le
      rw [List.length_append, List.length_append] at lengths
      exact ⟨firstFits.eq_of_length (by omega), secondFits.eq_of_length (by omega)⟩
    · rintro ⟨rfl, rfl⟩
      rfl
  slips := by
    rcases one.slips with ⟨name, member, brace⟩ | firstFits
    · exact .inl ⟨name, List.mem_append_left _ member, brace⟩
    · rcases two.slips with ⟨name, member, brace⟩ | secondFits
      · exact .inl ⟨name, List.mem_append_right _ member, brace⟩
      · exact .inr (firstFits.append secondFits)

/-- No bound name has a closing brace. -/
theorem brace_not_mem_of_mem {items : List UseLeaf} {name : String}
    (member : name ∈ items.filterMap UseLeaf.name?) : '\x7d' ∉ name.toList := by
  obtain ⟨identifier, rfl⟩ := exists_identifier_of_mem member
  exact fun brace => absurd (identifier.plain _ brace) (by decide)

/-- What is read off a leaf between these braces. -/
theorem UseLeaf.reading (item : UseLeaf) (held : Lead opened lead) (behind : Tail closed tail) :
    Reading (readNames (lead ++ (item.text.toList ++ tail))) item.name?.toList
      (item.ReadableBetween opened closed) := by
  have free : ',' ∉ lead ++ (item.text.toList ++ tail) := by
    have inItem : ',' ∉ item.text.toList := fun comma =>
      absurd (item.plain ',' comma) (by decide)
    simp [held.comma_not_mem, behind.comma_not_mem, inItem]
  rw [readNames_eq_toList free]
  by_cases passed : opened = true ∧ item.Single
  · obtain ⟨rfl, single⟩ := passed
    rw [single.boundName?_eq_none held behind]
    refine ⟨?_, .inr (List.nil_sublist _)⟩
    constructor
    · intro same
      exact .unnamed single (Option.toList_eq_nil_iff.mp same.symm)
    · rintro (_ | compound | ⟨-, unnamed⟩)
      · exact absurd single compound
      · rw [unnamed]
  · rw [boundName?_eq held behind passed]
    cases behind with
    | none =>
      rw [List.append_nil, String.ofList_toList, item.heldName?_last]
      refine ⟨iff_of_true rfl ?_, .inr (List.Sublist.refl _)⟩
      cases opened with
      | false => exact .apart
      | true => exact .opened fun single => passed ⟨rfl, single⟩
    | closed outer =>
      obtain ⟨name, kept, brace⟩ := item.exists_heldName?_closed (.closed outer)
      rw [kept]
      refine ⟨iff_of_false (fun same => ?_) fun readable => ?_, .inl ⟨name, .head _, brace⟩⟩
      · have binds : item.name? = some name :=
          Option.mem_toList.mp (same ▸ List.mem_singleton_self name)
        obtain ⟨identifier, rfl⟩ := item.exists_identifier binds
        exact absurd (identifier.plain _ brace) (by decide)
      · cases readable with
        | unnamed single unnamed => exact passed ⟨rfl, single⟩

mutual

/-- What is read off a tree between these braces. -/
theorem UseTree.reading : (tree : UseTree) → {opened closed : Bool} → {lead tail : List Char} →
    Lead opened lead → Tail closed tail →
    Reading (readNames (lead ++ (tree.text.toList ++ tail))) tree.names
      (tree.ReadableBetween opened closed)
  | leaf item, opened, closed, lead, tail, held, behind => by
    have names : (leaf item).names = item.name?.toList := by
      rw [UseTree.names, leaves]
      cases binds : item.name? <;> simp [binds]
    rw [text, names, ReadableBetween]
    exact item.reading held behind
  | group path members, opened, closed, lead, tail, held, behind => by
    have inner := reading_all members (.inr rfl) (held.opened path) behind.closed
    have shape : lead ++ ((group path members).text.toList ++ tail) =
        lead ++ path.text.toList ++ ['\x7b'] ++
          ((Text.join ", " (texts members)).toList ++ '\x7d' :: tail) := by
      simp [toList_text_group]
    rw [shape, UseTree.names, leaves, ReadableBetween]
    exact inner

/-- What is read off the members of a group between these braces. -/
theorem UseTree.reading_all : (members : List UseTree) → {opened closed : Bool} →
    {lead tail : List Char} → members ≠ [] ∨ opened = true → Lead opened lead → Tail closed tail →
    Reading (readNames (lead ++ ((Text.join ", " (texts members)).toList ++ tail)))
      ((allLeaves members).filterMap UseLeaf.name?) (AllReadable members opened closed)
  | [], opened, closed, lead, tail, held, before, behind => by
    have opened : opened = true := held.resolve_left fun nonempty => nonempty rfl
    subst opened
    have solid : ∀ c ∈ tail, Text.isBlank c = false := fun c member => by
      rw [behind.eq_brace c member]
      decide
    have colonFree : ':' ∉ tail := fun colon => absurd (behind.eq_brace _ colon) (by decide)
    have commaFree : ',' ∉ lead ++ tail := by
      simp [before.comma_not_mem, behind.comma_not_mem]
    have read : readNames (lead ++ ((Text.join ", " (texts [])).toList ++ tail)) = [] := by
      change readNames (lead ++ tail) = []
      rw [readNames_eq_toList commaFree, before.boundName?_eq_none solid colonFree,
        Option.toList_none]
    rw [read, allLeaves, AllReadable]
    exact ⟨iff_of_true rfl trivial, .inr (List.nil_sublist _)⟩
  | [member], opened, closed, lead, tail, held, before, behind => by
    have joined : Text.join ", " (texts [member]) = member.text := by
      simp [texts, Text.join, Text.joinChars]
    rw [joined, allLeaves, allLeaves, List.append_nil, AllReadable]
    exact member.reading before behind
  | member :: next :: rest, opened, closed, lead, tail, held, before, behind => by
    have one := member.reading before .none
    have others := reading_all (next :: rest) (.inl (List.cons_ne_nil _ _)) .next behind
    have shape : lead ++ ((Text.join ", " (texts (member :: next :: rest))).toList ++ tail) =
        (lead ++ (member.text.toList ++ [])) ++
          ',' :: ([' '] ++ ((Text.join ", " (texts (next :: rest))).toList ++ tail)) := by
      simp [toList_join_texts]
    have names : (allLeaves (member :: next :: rest)).filterMap UseLeaf.name? =
        member.names ++ (allLeaves (next :: rest)).filterMap UseLeaf.name? := by
      rw [allLeaves, List.filterMap_append, UseTree.names]
    rw [shape, readNames_append, names, AllReadable]
    refine one.append others fun name member => ?_
    rw [← names] at member
    exact brace_not_mem_of_mem member

end

end

/-! ## Declarations -/

/-- The bindings of an argument are the names read between its outer braces. -/
theorem useBindings_eq_readNames (argument : String) :
    useBindings argument = readNames (betweenBraces argument).toList := by
  rw [useBindings, Text.split, List.filterMap_map, readNames, Function.comp_def]

/-- A single item has no braces to strip. -/
theorem betweenBraces_leaf (item : UseLeaf) : betweenBraces item.text = item.text := by
  have free : '\x7b' ∉ item.text.toList := fun brace => absurd (item.plain _ brace) (by decide)
  have opening : "\x7b".toList = ['\x7b'] := rfl
  have uncut : Text.cut "\x7b" item.text = none := by
    rw [Text.cut, opening, Text.cutChars_eq_none free, Option.map_none]
  rw [betweenBraces, uncut]

/-- The first opening brace and the last closing one are those of the outer group. -/
theorem betweenBraces_group (path : UsePath) (members : List UseTree) :
    betweenBraces (UseTree.group path members).text = Text.join ", " (UseTree.texts members) := by
  have free : '\x7b' ∉ path.text.toList := fun brace => absurd (path.plain _ brace) (by decide)
  have opening : "\x7b".toList = ['\x7b'] := rfl
  have cut : Text.cut "\x7b" (UseTree.group path members).text =
      some (path.text, Text.join ", " (UseTree.texts members) ++ "\x7d") := by
    rw [Text.cut, toList_text_group, opening, List.append_assoc, List.singleton_append,
      Text.cutChars_append free]
    simp
  have last : Text.cutLast '\x7d' (Text.join ", " (UseTree.texts members) ++ "\x7d") =
      some (Text.join ", " (UseTree.texts members), "") :=
    Text.cutLast_eq_some_iff.mpr ⟨String.toList_append, by simp⟩
  rw [betweenBraces, cut]
  dsimp only
  rw [last]

/-- The names of a use declaration are read off right exactly when no inner brace is in the way. -/
theorem useBindings_eq_names_iff (tree : UseTree) :
    (useBindings tree.text = tree.names ↔ tree.Readable) ∧
      ∀ name ∈ tree.names, ∃ identifier : Identifier, identifier.text = name := by
  refine ⟨?_, fun name member => exists_identifier_of_mem member⟩
  rw [useBindings_eq_readNames]
  cases tree with
  | leaf item =>
    have read := (UseTree.leaf item).reading .start .none
    rw [List.nil_append, List.append_nil, UseTree.text, ← betweenBraces_leaf] at read
    rw [UseTree.text]
    exact read.agrees.trans (iff_of_true .apart trivial)
  | group path members =>
    rw [betweenBraces_group]
    cases members with
    | nil =>
      have blank : readNames [] = [] := by decide
      exact iff_of_true blank trivial
    | cons member rest =>
      have read := UseTree.reading_all (member :: rest) (.inl (List.cons_ne_nil _ _)) .start .none
      rw [List.nil_append, List.append_nil] at read
      exact read.agrees

example : useBindings "a::\x7bb::\x7bc::d, e::\x7b*\x7d\x7d, f as g\x7d" = ["d", "g"] := by
  decide +kernel

/-- The declaration `a::{b::{c, d}, e}`. -/
def nestedUse : UseTree :=
  let plain := fun identifier => UseTree.leaf (.named ⟨false, []⟩ (.name identifier) none)
  .group ⟨false, [.name ⟨"a", by decide, by decide, by decide⟩]⟩
    [.group ⟨false, [.name ⟨"b", by decide, by decide, by decide⟩]⟩
      [plain ⟨"c", by decide, by decide, by decide⟩, plain ⟨"d", by decide, by decide, by decide⟩],
      plain ⟨"e", by decide, by decide, by decide⟩]

/-- A nested group is misread: one name is lost and a brace sticks to another. -/
theorem nestedUse_misread :
    nestedUse.text = "a::\x7bb::\x7bc, d\x7d, e\x7d" ∧ nestedUse.names = ["c", "d", "e"] ∧
      useBindings nestedUse.text = ["d\x7d", "e"] := by
  decide +kernel

end SourceAtlas.Code.Crate

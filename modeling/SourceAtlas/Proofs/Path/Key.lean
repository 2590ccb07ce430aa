import SourceAtlas.Path.Key
import SourceAtlas.Proofs.Text.Split

/-!
# Segments of paths

Cutting a path at its slashes and joining the segments are inverse to each
other. The segments of a path key are ordinary names: not blank, neither `.`
nor `..`.
-/

namespace SourceAtlas

namespace PathKey

variable {path first second : String} {parts : List String}

/-- A name that stands for an entry of its own: not blank, neither `.` nor `..`. -/
structure Ordinary (name : String) : Prop where
  notBlank : name ≠ ""
  notHere : name ≠ "."
  notAbove : name ≠ ".."

/-- Two paths with a slash between them have the segments of both. -/
theorem segments_append (first second : String) :
    segments (first ++ "/" ++ second) = segments first ++ segments second := by
  have slash : "/".toList = ['/'] := rfl
  simp only [segments, Text.split, String.toList_append, slash, List.append_assoc,
    List.singleton_append, Text.splitChars_append, List.map_append]

/-- Inside a directory that ends with a slash, the blank behind that slash gives way. -/
theorem segments_below (directory key : String) :
    segments (below directory key) =
      (if Text.endsWith "/" directory then (segments directory).dropLast
        else segments directory) ++ segments key := by
  rw [below]
  split
  · next ends =>
    obtain ⟨lead, rfl⟩ := Text.endsWith_iff.mp ends
    have blank := segments_append lead ""
    rw [String.append_empty, show segments "" = [""] from rfl] at blank
    rw [segments_append, blank, List.dropLast_concat]
  · exact segments_append directory key

/-- No path below a directory is blank. -/
theorem below_ne_blank (directory key : String) : below directory key ≠ "" := by
  rw [below]
  split
  · next ends =>
    obtain ⟨lead, rfl⟩ := Text.endsWith_iff.mp ends
    simp
  · simp

/-- Inside one directory, the sizes of paths differ as those of their keys. -/
theorem utf8ByteSize_below (directory key : String) :
    (below directory key).utf8ByteSize = (below directory "").utf8ByteSize + key.utf8ByteSize := by
  rw [below, below]
  split <;> simp only [String.utf8ByteSize_append, String.append_empty]

/-- A path below a directory is no shorter than the directory. -/
theorem utf8ByteSize_le_below (directory key : String) :
    directory.utf8ByteSize ≤ (below directory key).utf8ByteSize := by
  rw [below]
  split <;> simp only [String.utf8ByteSize_append] <;> omega

/-- A path is made of its segments. -/
theorem ofSegments_segments (path : String) : ofSegments (segments path) = path := by
  have slash : "/".toList = ['/'] := rfl
  have runs : (segments path).map String.toList = Text.splitChars '/' path.toList := by
    simp [segments, Text.split, Function.comp_def]
  rw [ofSegments, Text.join, runs, slash, Text.joinChars_splitChars, String.ofList_toList]

/-- A path made of segments without slashes has these segments. -/
theorem segments_ofSegments (nonempty : parts ≠ []) (free : ∀ part ∈ parts, '/' ∉ part.toList) :
    segments (ofSegments parts) = parts := by
  have slash : "/".toList = ['/'] := rfl
  have runs : parts.map String.toList ≠ [] := by simpa using nonempty
  rw [segments, Text.split, ofSegments, Text.join, String.toList_ofList, slash,
    Text.splitChars_joinChars runs (by simpa using free)]
  simp [Function.comp_def]

/-- The characters of a path, slashes aside, are those of its segments. -/
theorem mem_ofSegments_iff {c : Char} (other : c ≠ '/') :
    c ∈ (ofSegments parts).toList ↔ ∃ part ∈ parts, c ∈ part.toList := by
  have slash : "/".toList = ['/'] := rfl
  rw [ofSegments, Text.join, String.toList_ofList, slash, Text.mem_joinChars_iff other]
  simp

/-- Every path has a segment. -/
theorem segments_ne_nil (path : String) : segments path ≠ [] := by
  simp [segments, Text.split, Text.splitChars_ne_nil]

/-- No segment has a slash. -/
theorem slash_not_mem_of_mem_segments {part : String} (member : part ∈ segments path) :
    '/' ∉ part.toList := by
  obtain ⟨run, listed, rfl⟩ := List.mem_map.mp member
  rw [String.toList_ofList]
  exact Text.not_mem_of_mem_splitChars listed

/-- The components of an absolute path: the top and the segments that do not stay in place. -/
theorem components_of_absolute (absolute : Text.startsWith "/" path = true) :
    components path = "/" :: (segments path).filter fun part => part ≠ "" ∧ part ≠ "." :=
  if_pos absolute

/-- What lies behind the root is what stands behind its components. -/
theorem afterRoot?_append (root rest : List String) :
    afterRoot? root (root ++ rest) = some rest := by
  induction root with
  | nil => rfl
  | cons part root inductionHypothesis =>
    rw [List.cons_append, afterRoot?, if_pos rfl, inductionHypothesis]

/-- A path whose components continue those of the root has the rest of them as its key. -/
theorem relative?_of_components {root : String} (nonempty : parts ≠ [])
    (below : components path = components root ++ parts) :
    relative? root path = some (ofSegments parts) := by
  rw [relative?, below, afterRoot?_append]
  cases parts with
  | nil => exact absurd rfl nonempty
  | cons first rest => rfl

/-- The directory of a path is what stands before its last segment. -/
theorem directory_append {last : String} (slashFree : '/' ∉ last.toList) (lead : String) :
    directory (lead ++ "/" ++ last) = lead := by
  have slash : "/".toList = ['/'] := rfl
  have reversed : (lead ++ "/" ++ last).toList.reverse =
      last.toList.reverse ++ '/' :: lead.toList.reverse := by
    simp [String.toList_append, slash]
  rw [directory, Text.cutLast, reversed, Text.cutChars_append (by simpa using slashFree)]
  simp

/-- Segments in normal form are ordinary and have no slash. -/
theorem ordinary_of_normalizeFrom {kept result : List String}
    (normal : normalizeFrom kept parts = some result)
    (ordinary : ∀ part ∈ kept, Ordinary part ∧ '/' ∉ part.toList)
    (free : ∀ part ∈ parts, '/' ∉ part.toList) :
    ∀ part ∈ result, Ordinary part ∧ '/' ∉ part.toList := by
  induction parts generalizing kept with
  | nil =>
    cases normal
    simpa using ordinary
  | cons part rest inductionHypothesis =>
    have freeRest : ∀ part ∈ rest, '/' ∉ part.toList := fun part member =>
      free part (.tail _ member)
    unfold normalizeFrom at normal
    split at normal
    · exact inductionHypothesis normal ordinary freeRest
    · next named =>
      split at normal
      · cases kept with
        | nil => cases normal
        | cons inner outer =>
          exact inductionHypothesis normal
            (fun part member => ordinary part (.tail _ member)) freeRest
      · next below =>
        refine inductionHypothesis normal ?_ freeRest
        intro other member
        cases member with
        | head =>
          obtain ⟨notBlank, notHere⟩ := not_or.mp named
          exact ⟨⟨notBlank, notHere, below⟩, free part (.head _)⟩
        | tail _ member => exact ordinary other member

/-- The segments of a path key are ordinary; only the empty key has a blank one. -/
theorem ordinary_of_normalize? (normal : normalize? path = some path) :
    path = "" ∨ ∀ part ∈ segments path, Ordinary part := by
  obtain ⟨result, found, joined⟩ := Option.map_eq_some_iff.mp normal
  have ordinary := ordinary_of_normalizeFrom found (by simp)
    fun part member => slash_not_mem_of_mem_segments member
  by_cases blank : result = []
  · rw [blank] at joined
    exact .inl joined.symm
  · have same : segments path = result := by
      rw [← joined]
      exact segments_ofSegments blank fun part member => (ordinary part member).2
    rw [same]
    exact .inr fun part member => (ordinary part member).1

end PathKey

end SourceAtlas

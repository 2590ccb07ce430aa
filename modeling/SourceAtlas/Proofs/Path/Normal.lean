import SourceAtlas.Proofs.Path.Key

/-!
# Normal forms of paths

A path climbs above the root when some beginning of it leaves more directories
than it enters. These are the paths without a normal form. A path is its own
normal form when its segments are ordinary, and a path stays in normal form when
an ordinary segment or an extension is put behind it.
-/

namespace SourceAtlas

namespace PathKey

variable {path name part : String} {kept parts rest : List String}

instance (name : String) : Decidable (Ordinary name) :=
  decidable_of_iff (name ≠ "" ∧ name ≠ "." ∧ name ≠ "..")
    ⟨fun all => ⟨all.1, all.2.1, all.2.2⟩, fun own => ⟨own.notBlank, own.notHere, own.notAbove⟩⟩

/-- Some beginning of a path leaves more directories than it enters. -/
def ClimbsAbove (path : String) : Prop :=
  ∃ initial, initial <+: segments path ∧
    (initial.countP fun part => Ordinary part) < initial.count ".."

/-- What fails of the empty list holds of a beginning that takes in the first member. -/
theorem exists_prefix_cons_iff {holds : List String → Prop} (vacant : ¬holds []) :
    (∃ initial, initial <+: part :: rest ∧ holds initial) ↔
      ∃ initial, initial <+: rest ∧ holds (part :: initial) := by
  constructor
  · rintro ⟨initial, leads, held⟩
    cases initial with
    | nil => exact absurd held vacant
    | cons first later =>
      obtain ⟨rfl, below⟩ := List.cons_prefix_cons.mp leads
      exact ⟨later, below, held⟩
  · rintro ⟨later, leads, held⟩
    exact ⟨part :: later, (List.prefix_cons_inj part).mpr leads, held⟩

/-- Blank segments and single dots lead nowhere. -/
theorem normalizeFrom_of_still (still : part = "" ∨ part = ".") :
    normalizeFrom kept (part :: rest) = normalizeFrom kept rest := by
  conv => lhs; unfold normalizeFrom
  rw [if_pos still]

/-- There is nothing above the root. -/
theorem normalizeFrom_nil_above (rest : List String) : normalizeFrom [] (".." :: rest) = none := by
  unfold normalizeFrom
  exact (if_neg (by decide)).trans (if_pos rfl)

/-- A climb takes the innermost segment away. -/
theorem normalizeFrom_cons_above (inner : String) (outer rest : List String) :
    normalizeFrom (inner :: outer) (".." :: rest) = normalizeFrom outer rest := by
  conv => lhs; unfold normalizeFrom
  exact (if_neg (by decide)).trans (if_pos rfl)

/-- An ordinary segment leads one level down. -/
theorem normalizeFrom_of_ordinary (own : Ordinary part) :
    normalizeFrom kept (part :: rest) = normalizeFrom (part :: kept) rest := by
  conv => lhs; unfold normalizeFrom
  rw [if_neg (not_or.mpr ⟨own.notBlank, own.notHere⟩), if_neg own.notAbove]

/-- A segment stays in place, leaves a directory or enters one. -/
theorem segment_cases (part : String) :
    (part = "" ∨ part = ".") ∨ part = ".." ∨ Ordinary part := by
  by_cases still : part = "" ∨ part = "."
  · exact .inl still
  · by_cases above : part = ".."
    · exact .inr (.inl above)
    · obtain ⟨notBlank, notHere⟩ := not_or.mp still
      exact .inr (.inr ⟨notBlank, notHere, above⟩)

/-- The walk over the segments fails where more directories are left than were kept and entered. -/
theorem normalizeFrom_eq_none_iff :
    normalizeFrom kept parts = none ↔ ∃ initial, initial <+: parts ∧
      kept.length + (initial.countP fun part => Ordinary part) < initial.count ".." := by
  induction parts generalizing kept with
  | nil => simp [normalizeFrom]
  | cons part rest inductionHypothesis =>
    rw [exists_prefix_cons_iff (by simp)]
    rcases segment_cases part with still | rfl | own
    · have idle : ¬Ordinary part ∧ part ≠ ".." := by
        rcases still with rfl | rfl <;> decide
      rw [normalizeFrom_of_still still, inductionHypothesis]
      simp [idle]
    · have leaving : ¬Ordinary ".." := by decide
      cases kept with
      | nil =>
        rw [normalizeFrom_nil_above]
        exact iff_of_true rfl ⟨[], List.nil_prefix, by simp [leaving]⟩
      | cons inner outer =>
        rw [normalizeFrom_cons_above]
        refine inductionHypothesis.trans (exists_congr fun initial => and_congr_right fun _ => ?_)
        simp only [List.length_cons, List.count_cons_self]
        rw [List.countP_cons_of_neg (by simpa using leaving)]
        omega
    · rw [normalizeFrom_of_ordinary own]
      refine inductionHypothesis.trans (exists_congr fun initial => and_congr_right fun _ => ?_)
      rw [List.length_cons, List.countP_cons_of_pos (by simpa using own),
        List.count_cons_of_ne own.notAbove]
      omega

/-- The paths without a normal form are those that climb above the root. -/
theorem normalize?_eq_none_iff : normalize? path = none ↔ ClimbsAbove path := by
  rw [normalize?, Option.map_eq_none_iff, normalizeFrom_eq_none_iff, ClimbsAbove]
  simp

/-- Ordinary segments are entered one after another. -/
theorem normalizeFrom_append (ordinary : ∀ part ∈ parts, Ordinary part) :
    normalizeFrom kept (parts ++ rest) = normalizeFrom (parts.reverse ++ kept) rest := by
  induction parts generalizing kept with
  | nil => rfl
  | cons part others inductionHypothesis =>
    rw [List.cons_append, normalizeFrom_of_ordinary (ordinary part (.head _)),
      inductionHypothesis fun other member => ordinary other (.tail _ member)]
    simp

/-- Ordinary segments stay as they are. -/
theorem normalizeFrom_eq_append (ordinary : ∀ part ∈ parts, Ordinary part) :
    normalizeFrom kept parts = some (kept.reverse ++ parts) := by
  have entered : normalizeFrom kept (parts ++ []) = normalizeFrom (parts.reverse ++ kept) [] :=
    normalizeFrom_append ordinary
  rw [List.append_nil] at entered
  rw [entered, normalizeFrom, List.reverse_append, List.reverse_reverse]

/-- Directories are left one after another, as far as there are any. -/
theorem normalizeFrom_replicate_above (count : Nat) :
    normalizeFrom kept (List.replicate count ".." ++ rest) =
      if kept.length < count then none else normalizeFrom (kept.drop count) rest := by
  induction count generalizing kept with
  | zero => simp
  | succ count inductionHypothesis =>
    rw [List.replicate_succ, List.cons_append]
    cases kept with
    | nil =>
      rw [normalizeFrom_nil_above]
      simp
    | cons inner outer =>
      rw [normalizeFrom_cons_above, inductionHypothesis]
      simp

/-- The walk keeps nothing but segments. -/
theorem mem_of_normalizeFrom {result : List String}
    (normal : normalizeFrom kept parts = some result) (member : part ∈ result) :
    part ∈ kept ∨ part ∈ parts := by
  induction parts generalizing kept with
  | nil =>
    cases normal
    exact .inl (List.mem_reverse.mp member)
  | cons first rest inductionHypothesis =>
    have later : ∀ {kept : List String}, normalizeFrom kept rest = some result →
        part ∈ kept ∨ part ∈ first :: rest :=
      fun normal => (inductionHypothesis normal).imp_right (.tail first)
    rcases segment_cases first with still | rfl | own
    · exact later (normalizeFrom_of_still still ▸ normal)
    · cases kept with
      | nil =>
        rw [normalizeFrom_nil_above] at normal
        cases normal
      | cons inner outer =>
        rw [normalizeFrom_cons_above] at normal
        exact (later normal).imp_left (.tail inner)
    · rw [normalizeFrom_of_ordinary own] at normal
      rcases later normal with entered | listed
      · exact (List.mem_cons.mp entered).elim (fun same => .inr (same ▸ .head _)) .inl
      · exact .inr listed

/-- Normal forms are written with the characters of the path. -/
theorem mem_of_normalize? {result : String} {c : Char} (normal : normalize? path = some result)
    (member : c ∈ result.toList) (other : c ≠ '/') : c ∈ path.toList := by
  obtain ⟨parts, walked, rfl⟩ := Option.map_eq_some_iff.mp normal
  obtain ⟨part, kept, inside⟩ := (mem_ofSegments_iff other).mp member
  have listed := (mem_of_normalizeFrom walked kept).resolve_left List.not_mem_nil
  rw [← ofSegments_segments path]
  exact (mem_ofSegments_iff other).mpr ⟨part, listed, inside⟩

/-- The path of ordinary segments is its own normal form. -/
theorem normalize?_ofSegments (ordinary : ∀ part ∈ parts, Ordinary part ∧ '/' ∉ part.toList) :
    normalize? (ofSegments parts) = some (ofSegments parts) := by
  by_cases blank : parts = []
  · subst blank
    decide
  · rw [normalize?, segments_ofSegments blank fun part member => (ordinary part member).2,
      normalizeFrom_eq_append fun part member => (ordinary part member).1]
    rfl

/-- A path in normal form that names something under the root. -/
structure UnderRoot (path : String) : Prop where
  normal : normalize? path = some path
  ordinary : ∀ part ∈ segments path, Ordinary part

/-- A path made of ordinary segments lies under the root. -/
theorem UnderRoot.ofSegments (nonempty : parts ≠ [])
    (ordinary : ∀ part ∈ parts, Ordinary part ∧ '/' ∉ part.toList) :
    UnderRoot (ofSegments parts) where
  normal := normalize?_ofSegments ordinary
  ordinary := by
    rw [segments_ofSegments nonempty fun part member => (ordinary part member).2]
    exact fun part member => (ordinary part member).1

/-- No path under the root is blank. -/
theorem UnderRoot.ne_blank (under : UnderRoot path) : path ≠ "" := by
  rintro rfl
  exact (under.ordinary "" (.head _)).notBlank rfl

/-- A path under the root does not start with a slash. -/
theorem UnderRoot.not_absolute (under : UnderRoot path) : Text.startsWith "/" path = false := by
  refine Bool.eq_false_iff.mpr fun absolute => ?_
  obtain ⟨rest, rfl⟩ := Text.startsWith_iff.mp absolute
  have split := segments_append "" rest
  rw [String.empty_append] at split
  exact (under.ordinary "" (split ▸ .head _)).notBlank rfl

/-- Below an absolute root stand the components of the root and then those of the path. -/
theorem components_below {root : String} (absolute : Text.startsWith "/" root = true)
    (under : UnderRoot path) :
    components (root ++ "/" ++ path) = components root ++ segments path := by
  have absoluteBelow : Text.startsWith "/" (root ++ "/" ++ path) = true := by
    obtain ⟨rest, rfl⟩ := Text.startsWith_iff.mp absolute
    exact Text.startsWith_iff.mpr ⟨rest ++ "/" ++ path, by simp only [String.append_assoc]⟩
  have kept : (segments path).filter (fun part => part ≠ "" ∧ part ≠ ".") = segments path := by
    refine List.filter_eq_self.mpr fun part member => ?_
    have own := under.ordinary part member
    simp [own.notBlank, own.notHere]
  rw [components_of_absolute absoluteBelow, components_of_absolute absolute, segments_append,
    List.filter_append, kept, List.cons_append]

/-- A normal form is a path of ordinary segments. -/
theorem exists_segments_of_normalize? {result : String} (normal : normalize? path = some result) :
    ∃ parts, result = ofSegments parts ∧ ∀ part ∈ parts, Ordinary part ∧ '/' ∉ part.toList := by
  obtain ⟨parts, walked, rfl⟩ := Option.map_eq_some_iff.mp normal
  exact ⟨parts, rfl, ordinary_of_normalizeFrom walked (by simp)
    fun part member => slash_not_mem_of_mem_segments member⟩

/-- Leading slashes do not count. -/
theorem normalize?_slash (path : String) : normalize? ("/" ++ path) = normalize? path := by
  have split := segments_append "" path
  rw [String.empty_append] at split
  rw [normalize?, normalize?, split]
  rfl

/-- A path of one segment is the segment. -/
theorem ofSegments_singleton (name : String) : ofSegments [name] = name := by
  simp [ofSegments, Text.join, Text.joinChars]

/-- A text behind the last segment stands behind the path. -/
theorem ofSegments_append_last (lead : List String) (last tail : String) :
    ofSegments (lead ++ [last ++ tail]) = ofSegments (lead ++ [last]) ++ tail := by
  rw [ofSegments, Text.join, List.map_append, List.map_singleton, String.toList_append,
    Text.joinChars_append_last, String.ofList_append, String.ofList_toList, ofSegments, Text.join,
    List.map_append, List.map_singleton]

/-- One segment more stands behind a slash. -/
theorem ofSegments_concat (nonempty : parts ≠ []) (last : String) :
    ofSegments (parts ++ [last]) = ofSegments parts ++ "/" ++ last := by
  have runs : parts.map String.toList ≠ [] := by simpa using nonempty
  rw [ofSegments, Text.join, List.map_append, List.map_singleton, Text.joinChars_concat _ runs,
    String.ofList_append, String.ofList_append, String.ofList_toList, String.ofList_toList,
    ofSegments, Text.join]

/-- A name with an extension is neither blank nor made of dots alone. -/
theorem Ordinary.append_extension (own : Ordinary name) (tail : String) :
    Ordinary (name ++ ("." ++ tail)) := by
  have dot : ".".toList = ['.'] := rfl
  obtain ⟨c, rest, shape⟩ :=
    List.exists_cons_of_ne_nil (mt String.toList_eq_nil_iff.mp own.notBlank)
  refine ⟨fun same => ?_, fun same => ?_, fun same => ?_⟩ <;>
    have chars := congrArg String.toList same <;>
    rw [String.toList_append, String.toList_append, dot, shape] at chars
  · cases chars
  · simp at chars
  · -- Of two dots, the first would be the whole name.
    have parts : c = '.' ∧ rest = [] := by
      cases rest with
      | nil =>
        rw [List.cons_append, List.nil_append] at chars
        exact ⟨(List.cons.inj chars).1, rfl⟩
      | cons d rest => simp at chars
    refine own.notHere (String.toList_inj.mp ?_)
    rw [shape, parts.1, parts.2, dot]

end PathKey

end SourceAtlas

import SourceAtlas.Code.Offside.Imports
import SourceAtlas.Proofs.Graph.Resolution

/-!
# Modules imported from a package

A module is written as names with dots between them. Leading dots say where the
names start: one dot is the importer's own directory, each further dot leaves one
directory. The specifier of such a module spells the climb out as segments of a
path, so resolution looks for the names below the directories that are left, and
gives up at once when there are not enough of them.
-/

namespace SourceAtlas

namespace Code.Offside

open PathKey Graph.Resolver

variable {names : List String} {name : String}

/-- A name between the dots of a module. -/
structure ModuleName (name : String) : Prop where
  notBlank : name ≠ ""
  dotFree : '.' ∉ name.toList
  slashFree : '/' ∉ name.toList

/-- Identifiers are made of word characters, which are neither dots nor slashes. -/
theorem moduleName_of_word (notBlank : name ≠ "")
    (word : ∀ c ∈ name.toList, Text.isWord c = true) : ModuleName name where
  notBlank := notBlank
  dotFree member := absurd (word '.' member) (by decide)
  slashFree member := absurd (word '/' member) (by decide)

/-- The name of a module is an ordinary segment of a path. -/
theorem ModuleName.ordinary (named : ModuleName name) : Ordinary name where
  notBlank := named.notBlank
  notHere := by
    rintro rfl
    exact named.dotFree (by decide)
  notAbove := by
    rintro rfl
    exact named.dotFree (by decide)

/-- A module as it is written: its leading dots and the names with dots between them. -/
def moduleText (dots : Nat) (names : List String) : String :=
  Text.repeated dots "." ++ Text.join "." names

/-- The segments that lead to a module from the directory its names start in. The directory itself
is a module in the file `__init__`. -/
def moduleSegments (names : List String) : List String :=
  if names = [] then ["__init__"] else names

/-- The segments that lead from the importer's directory to the one so many directories above. -/
def climb : Nat → List String
  | 0 => ["."]
  | further + 1 => List.replicate (further + 1) ".."

/-! ## The specifier of a module -/

/-- The segments of a module are ordinary and have no slash. -/
theorem plain_moduleSegments (plain : ∀ name ∈ names, ModuleName name) :
    ∀ part ∈ moduleSegments names, Ordinary part ∧ '/' ∉ part.toList := by
  rw [moduleSegments]
  split
  · decide
  · exact fun part member => ⟨(plain part member).ordinary, (plain part member).slashFree⟩

/-- Every list of module names gives some segment. -/
theorem moduleSegments_ne_nil (names : List String) : moduleSegments names ≠ [] := by
  rw [moduleSegments]
  split
  · exact List.cons_ne_nil _ _
  · assumption

/-- Joined names start with the first character of a name, which is neither a dot nor a slash. -/
theorem exists_toList_join (plain : ∀ name ∈ names, ModuleName name) (some : names ≠ [])
    (separator : String) :
    ∃ c rest, (Text.join separator names).toList = c :: rest ∧ c ≠ '.' ∧ c ≠ '/' := by
  obtain ⟨first, others, rfl⟩ := List.exists_cons_of_ne_nil some
  obtain ⟨notBlank, dotFree, slashFree⟩ := plain first (.head _)
  obtain ⟨c, chars, shape⟩ := List.exists_cons_of_ne_nil (mt String.toList_eq_nil_iff.mp notBlank)
  have different : c ≠ '.' ∧ c ≠ '/' := by
    rw [shape, List.mem_cons, not_or] at dotFree slashFree
    exact ⟨Ne.symm dotFree.1, Ne.symm slashFree.1⟩
  cases others with
  | nil => exact ⟨c, chars, by simp [Text.join, Text.joinChars, shape], different⟩
  | cons next others =>
    have joined : (Text.join separator (first :: next :: others)).toList =
        c :: (chars ++ separator.toList ++
          Text.joinChars separator.toList ((next :: others).map String.toList)) := by
      rw [Text.join, String.toList_ofList, List.map_cons, List.map_cons, Text.joinChars, shape]
      rfl
    exact ⟨c, _, joined, different⟩

/-- The leading dots of an import are those it was written with. -/
theorem takeWhile_moduleText (plain : ∀ name ∈ names, ModuleName name) (dots : Nat) :
    (moduleText dots names).toList.takeWhile (· = '.') = List.replicate dots '.' := by
  have led : (Text.join "." names).toList.takeWhile (· = '.') = [] := by
    by_cases blank : names = []
    · rw [blank]
      rfl
    · obtain ⟨c, rest, shape, different, -⟩ := exists_toList_join plain blank "."
      rw [shape, List.takeWhile_cons_of_neg (by simpa using different)]
  have dot : ".".toList = ['.'] := rfl
  rw [moduleText, String.toList_append, Text.toList_repeated, dot,
    List.flatten_replicate_singleton, List.takeWhile_append_of_pos (by simp), led, List.append_nil]

/-- Behind its leading dots an import has the module names, with dots between them. -/
theorem drop_moduleText (dots : Nat) (names : List String) :
    String.ofList ((moduleText dots names).toList.drop dots) = Text.join "." names := by
  have dot : ".".toList = ['.'] := rfl
  rw [moduleText, String.toList_append, Text.toList_repeated, dot,
    List.flatten_replicate_singleton, List.drop_left' (List.length_replicate ..),
    String.ofList_toList]

/-- The specifier climbs once for each dot but the first, and then goes down the names. -/
theorem moduleSpecifier_moduleText (plain : ∀ name ∈ names, ModuleName name) (dots : Nat) :
    moduleSpecifier (moduleText dots names) =
      if dots = 0 then Text.join "." names
      else (if dots = 1 then "./" else Text.repeated (dots - 1) "../") ++
        ofSegments (moduleSegments names) := by
  have spelled : (if Text.join "/" names = "" then "__init__" else Text.join "/" names) =
      ofSegments (moduleSegments names) := by
    rw [moduleSegments]
    by_cases blank : names = []
    · rw [blank]
      decide
    · obtain ⟨c, rest, shape, -⟩ := exists_toList_join plain blank "/"
      have filled : Text.join "/" names ≠ "" := fun same => by simp [same] at shape
      rw [if_neg filled, if_neg blank, ofSegments]
  rw [moduleSpecifier, takeWhile_moduleText plain, List.length_replicate, drop_moduleText,
    Text.replaceChar_join (show ".".toList = ['.'] from rfl) fun name member =>
      (plain name member).dotFree]
  dsimp only
  rw [spelled]
  split
  · next none =>
    rw [none, moduleText]
    simp [Text.repeated]
  · rfl

/-- An import with leading dots gives a relative specifier. -/
theorem relative_moduleSpecifier (plain : ∀ name ∈ names, ModuleName name) (further : Nat) :
    Relative (moduleSpecifier (moduleText (further + 1) names)) := by
  rw [moduleSpecifier_moduleText plain, if_neg (Nat.succ_ne_zero further)]
  cases further with
  | zero => exact .below _
  | succ further =>
    rw [if_neg (by omega), Nat.add_sub_cancel, Text.repeated_succ, String.append_assoc]
    exact .beside _

/-- Climbs in front of a path are segments in front of its segments. -/
theorem segments_repeated_above (count : Nat) (path : String) :
    segments (Text.repeated count "../" ++ path) = List.replicate count ".." ++ segments path := by
  induction count with
  | zero => simp [Text.repeated]
  | succ count inductionHypothesis =>
    have above : "../" = ".." ++ "/" := by decide
    rw [Text.repeated_succ, String.append_assoc, above, segments_append, ← above,
      inductionHypothesis, List.replicate_succ]
    rfl

/-- The segments of a specifier are its climbs and then the names. -/
theorem segments_moduleSpecifier (plain : ∀ name ∈ names, ModuleName name) (further : Nat) :
    segments (moduleSpecifier (moduleText (further + 1) names)) =
      climb further ++ moduleSegments names := by
  have named := segments_ofSegments (moduleSegments_ne_nil names)
    fun part member => (plain_moduleSegments plain part member).2
  rw [moduleSpecifier_moduleText plain, if_neg (Nat.succ_ne_zero further)]
  cases further with
  | zero =>
    have here : "./" = "." ++ "/" := by decide
    rw [if_pos rfl, here, segments_append, named]
    rfl
  | succ further =>
    rw [if_neg (by omega), Nat.add_sub_cancel, segments_repeated_above, named, climb]

/-! ## From the importer's directory -/

/-- The directories on the way to a file, outermost first. -/
def directories (path : String) : List String := (segments (directory path)).filter (· ≠ "")

/-- Climbing takes away as many segments, or leaves the root. -/
theorem normalizeFrom_climb (kept rest : List String) (further : Nat) :
    normalizeFrom kept (climb further ++ rest) =
      if kept.length < further then none else normalizeFrom (kept.drop further) rest := by
  cases further with
  | zero =>
    rw [climb, List.singleton_append, normalizeFrom_of_still (.inr rfl)]
    simp
  | succ further => exact normalizeFrom_replicate_above (further + 1)

/-- The directory of a path in normal form is blank, for the root, or made of ordinary segments. -/
theorem directory_cases {importer : String} (normal : normalize? importer = some importer) :
    directory importer = "" ∨ ∀ part ∈ segments (directory importer), Ordinary part := by
  rw [directory]
  cases cut : Text.cutLast '/' importer with
  | none => exact .inl rfl
  | some parts =>
    obtain ⟨dir, last⟩ := parts
    have slash : "/".toList = ['/'] := rfl
    have split : importer = dir ++ "/" ++ last := by
      rw [← String.toList_inj, (Text.cutLast_eq_some_iff.mp cut).1]
      simp [slash]
    rcases ordinary_of_normalize? normal with blank | ordinary
    · have chars := congrArg String.toList (blank.symm.trans split)
      simp [slash] at chars
    · rw [split, segments_append] at ordinary
      exact .inr fun part member => ordinary part (List.mem_append_left _ member)

/-- The directory of an importer in normal form is kept as it is. -/
theorem normalizeFrom_directory {importer : String} (normal : normalize? importer = some importer)
    (rest : List String) :
    normalizeFrom [] (segments (directory importer) ++ rest) =
      normalizeFrom (directories importer).reverse rest := by
  rw [directories]
  rcases directory_cases normal with root | ordinary
  · have blank : segments "" = [""] := rfl
    rw [root, blank, List.singleton_append, normalizeFrom_of_still (.inl rfl)]
    rfl
  · have all : (segments (directory importer)).filter (· ≠ "") = segments (directory importer) :=
      List.filter_eq_self.mpr fun part member => by simpa using (ordinary part member).notBlank
    rw [all, normalizeFrom_append ordinary, List.append_nil]

/-- A module with leading dots points below the directories that are left of the importer's, or
above the root. -/
theorem target_moduleSpecifier {importer : String} (normal : normalize? importer = some importer)
    (plain : ∀ name ∈ names, ModuleName name) (further : Nat) :
    target importer (moduleSpecifier (moduleText (further + 1) names)) =
      if (directories importer).length < further then .aboveRoot
      else .base (ofSegments ((directories importer).take
        ((directories importer).length - further) ++ moduleSegments names)) := by
  have relative := relative_moduleSpecifier plain further
  rw [(NamesPath.relative relative).target_eq, normalize?, segments_append,
    segments_moduleSpecifier plain, normalizeFrom_directory normal, normalizeFrom_climb,
    List.length_reverse]
  split
  · rfl
  · rw [normalizeFrom_eq_append fun part member => (plain_moduleSegments plain part member).1,
      List.drop_reverse, List.reverse_reverse]
    rfl

/-- A module without leading dots is written like a package. -/
theorem namesPackage_join (plain : ∀ name ∈ names, ModuleName name) (some : names ≠ []) :
    NamesPackage (Text.join "." names) := by
  obtain ⟨c, rest, shape, notDot, notSlash⟩ := exists_toList_join plain some "."
  rintro (relative | ⟨path, rooted⟩)
  · obtain ⟨path, dotted⟩ := relative.dotted
    have lead := shape.symm.trans (congrArg String.toList dotted)
    rw [String.toList_append] at lead
    exact notDot (List.cons.inj lead).1
  · have lead := shape.symm.trans (congrArg String.toList rooted)
    rw [String.toList_append] at lead
    exact notSlash (List.cons.inj lead).1

/-! ## The outcome -/

/-- Resolution of a module from an importer in normal form. With leading dots the names are looked
for below the directories that are left after the climb, one directory for each dot but the first;
without enough directories nothing is asked for. Without leading dots the names are a package. -/
theorem module_resolved {importer : String} (normal : normalize? importer = some importer)
    (plain : ∀ name ∈ names, ModuleName name) (resolver : Graph.Resolver)
    (exists? : String → Bool) :
    let levels := directories importer
    let run specifier := (resolver.resolveAsking importer specifier (noting exists?)).run []
    (∀ specifier, (run specifier).1 = resolver.resolve importer specifier exists?) ∧
      (∀ further,
        let specifier := moduleSpecifier (moduleText (further + 1) names)
        (levels.length < further → run specifier = (.unresolved specifier, [])) ∧
          (further ≤ levels.length → ∃ files,
            Probes (resolver.extensionsFor importer)
              (ofSegments (levels.take (levels.length - further) ++ moduleSegments names)) files ∧
            FindsFirst exists? specifier files (run specifier).1 (run specifier).2)) ∧
      (names ≠ [] → run (moduleSpecifier (moduleText 0 names)) =
        (.external (Text.join "." names), [])) := by
  intro levels run
  have ran specifier : run specifier =
      (resolver.resolve importer specifier exists?, resolver.tried importer specifier exists?) :=
    resolver.resolveAsking_noting importer specifier exists?
  refine ⟨fun specifier => congrArg Prod.fst (ran specifier), fun further => ⟨?_, ?_⟩, ?_⟩
  · intro few
    have pointed := target_moduleSpecifier normal plain further
    rw [if_pos few] at pointed
    obtain ⟨answered, untried⟩ := unresolved_of_target pointed resolver exists?
    rw [ran, answered, untried]
  · intro enough
    have pointed := target_moduleSpecifier normal plain further
    rw [if_neg enough.not_gt] at pointed
    rw [ran]
    exact findsFirst_of_target pointed resolver exists?
  · intro some
    have package := namesPackage_join plain some
    obtain ⟨answered, untried⟩ := external_of_package package resolver importer exists?
    rw [moduleSpecifier_moduleText plain, if_pos rfl, ran, answered, untried]

/-- An importer in two directories: the third dot leaves both of them, a fourth is one too many. -/
theorem nestedImporter_module_resolved :
    let resolver := Graph.Resolver.ofExtensions ["py"] true
    let importer := "pkg/sub/mod.pyi"
    let exists? := fun file => file == "util/io.py"
    let run specifier := (resolver.resolveAsking importer specifier (noting exists?)).run []
    normalize? importer = some importer ∧
      (∀ name ∈ ["util", "io"], ModuleName name) ∧
      moduleSpecifier "...util.io" = "../../util/io" ∧
      run "../../util/io" = (.internal "util/io.py", ["util/io", "util/io.py"]) ∧
      (∃ files, Probes [".py", ".pyi"] "util/io" files ∧
        FindsFirst exists? "../../util/io" files (run "../../util/io").1 (run "../../util/io").2) ∧
      moduleSpecifier "....util.io" = "../../../util/io" ∧
      run "../../../util/io" = (.unresolved "../../../util/io", []) ∧
      run (moduleSpecifier "util.io") = (.external "util.io", []) := by
  intro resolver importer exists? run
  have normal : normalize? importer = some importer := by decide +kernel
  have plain : ∀ name ∈ ["util", "io"], ModuleName name := by
    intro name member
    have word : ∀ name ∈ ["util", "io"], name ≠ "" ∧ ∀ c ∈ name.toList, Text.isWord c = true := by
      simp [Text.isWord]
    exact moduleName_of_word (word name member).1 (word name member).2
  obtain ⟨-, relative, package⟩ := module_resolved normal plain resolver exists?
  have third : moduleSpecifier (moduleText 3 ["util", "io"]) = "../../util/io" := by decide +kernel
  have fourth : moduleSpecifier (moduleText 4 ["util", "io"]) = "../../../util/io" := by
    decide +kernel
  have root : ofSegments ((directories importer).take ((directories importer).length - 2) ++
      moduleSegments ["util", "io"]) = "util/io" := by
    decide +kernel
  have own : resolver.importerExtension? importer = some ".pyi" :=
    importerExtension?_eq_some_iff.mpr ⟨"pkg/sub/mod", "pyi", by decide⟩
  have extensions : resolver.extensionsFor importer = [".py", ".pyi"] := by
    rw [extensionsFor, own]
    rfl
  have found : run "../../util/io" = (.internal "util/io.py", ["util/io", "util/io.py"]) :=
    (resolver.resolveAsking_noting importer "../../util/io" exists?).trans
      (congrArg₂ Prod.mk (by decide +kernel) (by decide +kernel))
  have below := (relative 2).2 (by decide +kernel)
  rw [third, extensions, root] at below
  have above := (relative 3).1 (by decide +kernel)
  rw [fourth] at above
  exact ⟨normal, plain, third, found, below, fourth, above, package (List.cons_ne_nil _ _)⟩

end Code.Offside

end SourceAtlas

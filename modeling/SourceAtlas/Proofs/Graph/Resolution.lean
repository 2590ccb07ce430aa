import Mathlib.Data.List.TakeWhile
import SourceAtlas.Graph.Resolution
import SourceAtlas.Proofs.Path.Joining

/-!
# How an import is resolved

A specifier names a path or a package. A path that climbs above the root is
given up at once; any other one has a normal form, and the files that belong to
it are asked for one after another up to the first that exists (`FindsFirst`).
Every file asked for lies under the root.
-/

namespace SourceAtlas

namespace Graph.Resolver

open PathKey

variable {resolver : Resolver} {importer specifier path base ext file : String}
  {extensions : List String} {exists? : String → Bool}

/-! ## What a specifier names -/

/-- A specifier that starts at the importer's directory. -/
inductive Relative : String → Prop
  | here : Relative "."
  | above : Relative ".."
  | below (rest : String) : Relative ("./" ++ rest)
  | beside (rest : String) : Relative ("../" ++ rest)

/-- The path that a specifier names, before it is brought to normal form: a relative one is joined
to the importer's directory, one with a leading slash starts at the root. -/
inductive NamesPath (importer : String) : String → String → Prop
  | relative {specifier : String} (relative : Relative specifier) :
      NamesPath importer specifier (directory importer ++ "/" ++ specifier)
  | rooted (rest : String) : NamesPath importer ("/" ++ rest) rest

/-- A specifier that is neither relative nor rooted. -/
def NamesPackage (specifier : String) : Prop :=
  ¬(Relative specifier ∨ ∃ rest, specifier = "/" ++ rest)

/-- A specifier names a package exactly if it names no path. -/
theorem namesPackage_iff : NamesPackage specifier ↔ ¬∃ path, NamesPath importer specifier path := by
  refine not_congr ⟨?_, ?_⟩
  · rintro (relative | ⟨rest, rfl⟩)
    · exact ⟨_, .relative relative⟩
    · exact ⟨rest, .rooted rest⟩
  · rintro ⟨path, names⟩
    cases names with
    | relative relative => exact .inl relative
    | rooted rest => exact .inr ⟨path, rfl⟩

/-- The test for relative specifiers is exact. -/
theorem isRelative_iff : isRelative specifier = true ↔ Relative specifier := by
  simp only [isRelative, Bool.or_eq_true, decide_eq_true_iff, Text.startsWith_iff]
  constructor
  · rintro (((rfl | rfl) | ⟨rest, rfl⟩) | ⟨rest, rfl⟩)
    · exact .here
    · exact .above
    · exact .below rest
    · exact .beside rest
  · rintro (_ | _ | rest | rest)
    · exact .inl (.inl (.inl rfl))
    · exact .inl (.inl (.inr rfl))
    · exact .inl (.inr ⟨rest, rfl⟩)
    · exact .inr ⟨rest, rfl⟩

/-- Relative specifiers start with a dot. -/
theorem Relative.dotted (relative : Relative specifier) : ∃ rest, specifier = "." ++ rest := by
  cases relative with
  | here => exact ⟨"", rfl⟩
  | above => exact ⟨".", rfl⟩
  | below rest => exact ⟨"/" ++ rest, by rw [← String.append_assoc]; rfl⟩
  | beside rest => exact ⟨"./" ++ rest, by rw [← String.append_assoc]; rfl⟩

/-- No text starts with a slash and with a dot. -/
theorem slash_ne_dot (rest other : String) : "/" ++ rest ≠ "." ++ other := by
  intro same
  have chars := congrArg String.toList same
  rw [String.toList_append, String.toList_append] at chars
  cases chars

/-- What starts with a slash is not relative. -/
theorem not_relative_slash (rest : String) : ¬Relative ("/" ++ rest) := fun relative =>
  relative.dotted.elim (slash_ne_dot rest)

/-- In the root directory there is nothing to join a specifier to. -/
theorem join?_eq (dir specifier : String) :
    join? dir specifier = normalize? (dir ++ "/" ++ specifier) := by
  rw [join?]
  split
  · next root => rw [root, String.empty_append, normalize?_slash]
  · rfl

/-- A relative specifier leads to one place however the importer's directory is written. -/
theorem join?_eq_bind (dir specifier : String) :
    join? dir specifier = (normalize? dir).bind fun normal => join? normal specifier := by
  simp only [join?_eq]
  exact normalize?_join dir specifier

/-- A specifier that names a path leads to its normal form, if it has one. -/
theorem NamesPath.target_eq (names : NamesPath importer specifier path) :
    target importer specifier = (normalize? path).elim .aboveRoot .base := by
  cases names with
  | relative relative =>
    rw [target, if_pos (isRelative_iff.mpr relative), join?_eq]
    cases normalize? (directory importer ++ "/" ++ specifier) <;> rfl
  | rooted rest =>
    rw [target, if_neg (mt isRelative_iff.mp (not_relative_slash path)),
      Text.afterLead_eq_some_iff.mpr rfl]
    dsimp only
    cases normalize? path <;> rfl

/-- What names a package points to no path. -/
theorem target_of_package (names : NamesPackage specifier) :
    target importer specifier = .package := by
  obtain ⟨notRelative, notRooted⟩ := not_or.mp names
  rw [target, if_neg (mt isRelative_iff.mp notRelative)]
  cases lead : Text.afterLead "/" specifier with
  | none => rfl
  | some rest => exact absurd ⟨rest, Text.afterLead_eq_some_iff.mp lead⟩ notRooted

/-! ## What is asked for -/

/-- The importer's own extension, when it is not configured: the last dot of the path stands in its
last segment, and what starts there is no configured extension. -/
def OwnExtension (resolver : Resolver) (importer ext : String) : Prop :=
  ∃ stem tail, importer = stem ++ "." ++ tail ∧ '.' ∉ tail.toList ∧ '/' ∉ tail.toList ∧
    ext = "." ++ tail ∧ ext ∉ resolver.extensions

/-- The extension of the importer is asked for exactly if it is one of its own. -/
theorem importerExtension?_eq_some_iff :
    resolver.importerExtension? importer = some ext ↔ OwnExtension resolver importer ext := by
  have cutAtDot : ∀ {stem tail : String}, Text.cutLast '.' importer = some (stem, tail) ↔
      importer = stem ++ "." ++ tail ∧ '.' ∉ tail.toList := by
    intro stem tail
    have dot : ".".toList = ['.'] := rfl
    have spelled : importer = stem ++ "." ++ tail ↔
        importer.toList = stem.toList ++ '.' :: tail.toList := by
      simp [← String.toList_inj, dot]
    rw [Text.cutLast_eq_some_iff, spelled]
  rw [importerExtension?]
  constructor
  · intro found
    split at found
    next stem tail cut =>
      split at found
      · cases found
      · next kept =>
        cases found
        obtain ⟨split, dotFree⟩ := cutAtDot.mp cut
        simp only [String.contains_char_eq, Bool.or_eq_true, decide_eq_true_iff, not_or,
          List.contains_iff_mem] at kept
        exact ⟨stem, tail, split, dotFree, kept.1, rfl, kept.2⟩
    next => cases found
  · rintro ⟨stem, tail, split, dotFree, slashFree, rfl, fresh⟩
    rw [cutAtDot.mpr ⟨split, dotFree⟩]
    have kept : ¬(tail.contains '/' || resolver.extensions.contains ("." ++ tail)) = true := by
      simp [String.contains_char_eq, slashFree, fresh]
    exact if_neg kept

/-- The files that belong to a base path, in the order in which they are asked for: the path itself,
then with each extension, then the index files in it. At the root there are only index files. -/
inductive Probes (extensions : List String) : String → List String → Prop
  | root : Probes extensions "" (extensions.map fun ext => "index" ++ ext)
  | below {base : String} (named : base ≠ "") : Probes extensions base
      (base :: (extensions.map fun ext => base ++ ext) ++
        extensions.map fun ext => base ++ "/index" ++ ext)

/-- The candidates are the files to probe, in order. -/
theorem probes_candidates (extensions : List String) (base : String) :
    Probes extensions base (candidates extensions base) := by
  rw [candidates]
  split
  · next root => exact root ▸ .root
  · next named => exact .below named

/-- What comes of asking for files one after another: the first that exists is taken, and nothing
behind it is asked for; without one the specifier stays unresolved. -/
inductive FindsFirst (exists? : String → Bool) (specifier : String) :
    List String → Resolution → List String → Prop
  | found {before after : List String} {file : String}
      (missing : ∀ other ∈ before, exists? other = false) (known : exists? file = true) :
      FindsFirst exists? specifier (before ++ file :: after) (.internal file) (before ++ [file])
  | missing {files : List String} (missing : ∀ file ∈ files, exists? file = false) :
      FindsFirst exists? specifier files (.unresolved specifier) files

/-- Looking for the first existing file asks for every file up to it. -/
theorem findsFirst (exists? : String → Bool) (specifier : String) (files : List String) :
    FindsFirst exists? specifier files
      (match files.find? exists? with
        | some file => .internal file
        | none => .unresolved specifier)
      (files.takeWhile (fun file => !exists? file) ++ (files.find? exists?).toList) := by
  cases found : files.find? exists? with
  | none =>
    have missing : ∀ file ∈ files, exists? file = false := by simpa using found
    have all : files.takeWhile (fun file => !exists? file) = files :=
      List.takeWhile_eq_self_iff.mpr (by simpa using missing)
    rw [all, Option.toList_none, List.append_nil]
    exact .missing missing
  | some file =>
    obtain ⟨known, before, after, rfl, missing⟩ := List.find?_eq_some_iff_append.mp found
    have passed : (before ++ file :: after).takeWhile (fun file => !exists? file) = before := by
      rw [List.takeWhile_append_of_pos missing, List.takeWhile_cons_of_neg (by simp [known]),
        List.append_nil]
    rw [passed]
    exact .found (by simpa using missing) known

/-- Only files of the list are asked for or taken. -/
theorem FindsFirst.mem {files asked : List String} {answer : Resolution}
    (finds : FindsFirst exists? specifier files answer asked)
    (named : file ∈ asked ∨ answer = .internal file) : file ∈ files := by
  cases finds with
  | found missing known =>
    rcases named with listed | taken
    · rw [List.mem_append, List.mem_singleton] at listed
      rcases listed with early | rfl <;> simp [*]
    · cases taken
      simp
  | missing missing =>
    rcases named with listed | taken
    · exact listed
    · cases taken

/-! ## Resolution with the answers given by an environment -/

/-- Resolution that asks its environment whether a file exists. -/
def resolveAsking {m : Type → Type} [Monad m] (resolver : Resolver) (importer specifier : String)
    (ask : String → m Bool) : m Resolution :=
  match target importer specifier with
  | .package => pure (.external specifier)
  | .aboveRoot => pure (.unresolved specifier)
  | .base path => do
    match ← (candidates (resolver.extensionsFor importer) path).findM? ask with
    | some file => pure (.internal file)
    | none => pure (.unresolved specifier)

/-- An environment that notes every question. -/
def noting (exists? : String → Bool) (file : String) : StateM (List String) Bool :=
  fun asked => (exists? file, asked ++ [file])

/-- A search that notes its questions finds the same and notes them in order. -/
theorem findM?_noting (exists? : String → Bool) (files asked : List String) :
    (files.findM? (noting exists?)).run asked =
      (files.find? exists?,
        asked ++ (files.takeWhile (fun file => !exists? file) ++
          (files.find? exists?).toList)) := by
  induction files generalizing asked with
  | nil =>
    rw [List.takeWhile_nil, List.find?_nil, Option.toList_none, List.append_nil, List.append_nil]
    rfl
  | cons file rest inductionHypothesis =>
    have step : ((file :: rest).findM? (noting exists?)).run asked =
        if exists? file then (some file, asked ++ [file])
        else (rest.findM? (noting exists?)).run (asked ++ [file]) := by
      rw [List.findM?, StateT.run_bind]
      change (match exists? file with
        | true => pure (some file)
        | false => rest.findM? (noting exists?)).run (asked ++ [file]) = _
      cases exists? file <;> rfl
    rw [step]
    cases known : exists? file with
    | true => simp [known]
    | false => simp [known, inductionHypothesis]

/-- What resolution answers when every question is noted, and the questions it noted. -/
theorem resolveAsking_noting (resolver : Resolver) (importer specifier : String)
    (exists? : String → Bool) :
    (resolver.resolveAsking importer specifier (noting exists?)).run [] =
      (resolver.resolve importer specifier exists?, resolver.tried importer specifier exists?) := by
  rw [resolveAsking, resolve, tried, candidatesOf]
  cases target importer specifier with
  | package => rfl
  | aboveRoot => rfl
  | base path =>
    have found := findM?_noting exists? (candidates (resolver.extensionsFor importer) path) []
    dsimp only
    rw [StateT.run_bind, found]
    cases (candidates (resolver.extensionsFor importer) path).find? exists? <;> rfl

/-! ## Under the root -/

/-- An extension with its dot, which adds no segment to a path. -/
def Dotted (ext : String) : Prop :=
  ∃ tail, ext = "." ++ tail ∧ '/' ∉ tail.toList

/-- The importer's own extension starts with a dot and has no slash. -/
theorem OwnExtension.dotted (own : OwnExtension resolver importer ext) : Dotted ext := by
  obtain ⟨_, tail, _, _, slashFree, rfl, _⟩ := own
  exact ⟨tail, rfl, slashFree⟩

/-- Configured extensions start with a dot and have no slash. -/
theorem dotted_ofExtensions {includeExternals : Bool}
    (slashFree : ∀ ext ∈ extensions, '/' ∉ ext.toList)
    (member : ext ∈ (ofExtensions extensions includeExternals).extensions) : Dotted ext := by
  obtain ⟨written, listed, rfl⟩ := List.mem_map.mp member
  have free := slashFree written listed
  split
  · next led =>
    obtain ⟨tail, rfl⟩ := Text.startsWith_iff.mp led
    rw [String.toList_append, List.mem_append, not_or] at free
    exact ⟨tail, rfl, free.2⟩
  · exact ⟨written, rfl, free⟩

/-- A name with an extension is a name of the same kind. -/
theorem Dotted.name (dotted : Dotted ext) {name : String}
    (plain : Ordinary name ∧ '/' ∉ name.toList) :
    Ordinary (name ++ ext) ∧ '/' ∉ (name ++ ext).toList := by
  obtain ⟨tail, rfl, slashFree⟩ := dotted
  have dot : ".".toList = ['.'] := rfl
  refine ⟨plain.1.append_extension tail, ?_⟩
  simp [dot, plain.2, slashFree]

/-- The files that belong to a normal base path lie under the root. -/
theorem Probes.underRoot {files : List String} (probes : Probes extensions base files)
    (normal : normalize? path = some base) (dotted : ∀ ext ∈ extensions, Dotted ext)
    (member : file ∈ files) : UnderRoot file := by
  have index : Ordinary "index" ∧ '/' ∉ "index".toList := by decide
  obtain ⟨parts, shape, plain⟩ := exists_segments_of_normalize? normal
  cases probes with
  | root =>
    obtain ⟨ext, listed, rfl⟩ := List.mem_map.mp member
    rw [← ofSegments_singleton ("index" ++ ext)]
    refine .ofSegments (List.cons_ne_nil _ _) ?_
    rw [List.forall_mem_singleton]
    exact (dotted ext listed).name index
  | below named =>
    have nonempty : parts ≠ [] := by
      rintro rfl
      exact named shape
    rw [List.mem_append, List.mem_cons, List.mem_map, List.mem_map] at member
    rcases member with (rfl | ⟨ext, listed, rfl⟩) | ⟨ext, listed, rfl⟩
    · rw [shape]
      exact .ofSegments nonempty plain
    · obtain ⟨lead, last, rfl⟩ := (List.eq_nil_or_concat parts).resolve_left nonempty
      rw [List.concat_eq_append] at shape plain
      rw [shape, ← ofSegments_append_last]
      refine .ofSegments (by simp) ?_
      simp only [List.forall_mem_append, List.forall_mem_singleton] at plain ⊢
      exact ⟨plain.1, (dotted ext listed).name plain.2⟩
    · have inner : base ++ "/index" ++ ext = ofSegments (parts ++ ["index" ++ ext]) := by
        have cut : "/index" = "/" ++ "index" := by decide
        rw [ofSegments_concat nonempty, ← shape, cut]
        simp only [String.append_assoc]
      rw [inner]
      refine .ofSegments (by simp) ?_
      simp only [List.forall_mem_append, List.forall_mem_singleton]
      exact ⟨plain, (dotted ext listed).name index⟩

/-! ## The outcome -/

/-- What resolution answers, and the files that it asks for, by what the specifier names. -/
inductive Outcome (resolver : Resolver) (importer specifier : String) (exists? : String → Bool) :
    Resolution → List String → Prop
  | package (names : NamesPackage specifier) :
      Outcome resolver importer specifier exists? (.external specifier) []
  | aboveRoot {path : String} (names : NamesPath importer specifier path)
      (climbs : ClimbsAbove path) :
      Outcome resolver importer specifier exists? (.unresolved specifier) []
  | below {path base : String} {own : Option String} {files asked : List String}
      {answer : Resolution} (names : NamesPath importer specifier path)
      (normal : normalize? path = some base)
      (owned : ∀ ext, own = some ext ↔ OwnExtension resolver importer ext)
      (probes : Probes (resolver.extensions ++ own.toList) base files)
      (finds : FindsFirst exists? specifier files answer asked) :
      Outcome resolver importer specifier exists? answer asked

/-- A specifier that points to a base path is answered by the first of its files that exists. -/
theorem findsFirst_of_target (pointed : target importer specifier = .base base)
    (resolver : Resolver) (exists? : String → Bool) :
    ∃ files, Probes (resolver.extensionsFor importer) base files ∧
      FindsFirst exists? specifier files (resolver.resolve importer specifier exists?)
        (resolver.tried importer specifier exists?) := by
  rw [resolve, tried, candidatesOf, pointed]
  exact ⟨_, probes_candidates _ base, findsFirst exists? specifier _⟩

/-- Above the root there is nothing to ask for. -/
theorem unresolved_of_target (pointed : target importer specifier = .aboveRoot)
    (resolver : Resolver) (exists? : String → Bool) :
    resolver.resolve importer specifier exists? = .unresolved specifier ∧
      resolver.tried importer specifier exists? = [] := by
  rw [resolve, tried, candidatesOf, pointed]
  exact ⟨rfl, rfl⟩

/-- A package is named without asking. -/
theorem external_of_package (names : NamesPackage specifier) (resolver : Resolver)
    (importer : String) (exists? : String → Bool) :
    resolver.resolve importer specifier exists? = .external specifier ∧
      resolver.tried importer specifier exists? = [] := by
  rw [resolve, tried, candidatesOf, target_of_package names]
  exact ⟨rfl, rfl⟩

/-- Every resolution ends in one of these ways. -/
theorem outcome (resolver : Resolver) (importer specifier : String) (exists? : String → Bool) :
    Outcome resolver importer specifier exists? (resolver.resolve importer specifier exists?)
      (resolver.tried importer specifier exists?) := by
  by_cases named : ∃ path, NamesPath importer specifier path
  · obtain ⟨path, names⟩ := named
    have pointed := names.target_eq
    cases normal : normalize? path with
    | none =>
      rw [normal] at pointed
      obtain ⟨answered, untried⟩ := unresolved_of_target pointed resolver exists?
      rw [answered, untried]
      exact .aboveRoot names (normalize?_eq_none_iff.mp normal)
    | some base =>
      rw [normal] at pointed
      obtain ⟨files, probes, finds⟩ := findsFirst_of_target pointed resolver exists?
      exact .below names normal (fun ext => importerExtension?_eq_some_iff) probes finds
  · have names := namesPackage_iff.mpr named
    obtain ⟨answered, untried⟩ := external_of_package names resolver importer exists?
    rw [answered, untried]
    exact .package names

/-- A resolution ends outside exactly if its specifier names a package. -/
theorem Outcome.external_iff {name : String} {answer : Resolution} {asked : List String}
    (outcome : Outcome resolver importer specifier exists? answer asked) :
    answer = .external name ↔ specifier = name ∧ NamesPackage specifier := by
  cases outcome with
  | package names => simp [names]
  | aboveRoot names climbs =>
    rw [namesPackage_iff]
    exact iff_of_false (by simp) fun both => both.2 ⟨_, names⟩
  | below names normal owned probes finds =>
    rw [namesPackage_iff]
    refine iff_of_false ?_ fun both => both.2 ⟨_, names⟩
    rintro rfl
    cases finds

/-- What a resolution asks for or answers lies under the root. -/
theorem Outcome.underRoot {answer : Resolution} {asked : List String}
    (outcome : Outcome resolver importer specifier exists? answer asked)
    (dotted : ∀ ext ∈ resolver.extensions, Dotted ext)
    (named : file ∈ asked ∨ answer = .internal file) : UnderRoot file := by
  cases outcome with
  | package names => simp at named
  | aboveRoot names climbs => simp at named
  | below names normal owned probes finds =>
    refine probes.underRoot normal ?_ (finds.mem named)
    intro ext member
    rw [List.mem_append, Option.mem_toList] at member
    rcases member with configured | own
    · exact dotted ext configured
    · exact ((owned ext).mp own).dotted

/-- A resolver asks for the files of a specifier in order and takes the first that exists. It names
a package for the specifiers that are neither relative nor rooted. Whatever the importer, the
specifier and the files that exist are, it asks for and answers only files under the root. -/
theorem resolve_exact (includeExternals : Bool)
    (slashFree : ∀ ext ∈ extensions, '/' ∉ ext.toList) (importer specifier : String)
    (exists? : String → Bool) :
    let resolver := ofExtensions extensions includeExternals
    ∃ answer asked,
      resolver.resolve importer specifier exists? = answer ∧
      (resolver.resolveAsking importer specifier (noting exists?)).run [] = (answer, asked) ∧
      Outcome resolver importer specifier exists? answer asked ∧
      (∀ name, answer = .external name ↔ specifier = name ∧ NamesPackage specifier) ∧
      ∀ file, file ∈ asked ∨ answer = .internal file → UnderRoot file := by
  intro resolver
  have outcome := resolver.outcome importer specifier exists?
  exact ⟨_, _, rfl, resolver.resolveAsking_noting importer specifier exists?, outcome,
    fun _ => outcome.external_iff, fun file named =>
      outcome.underRoot (fun ext member => dotted_ofExtensions slashFree member) named⟩

/-- An importer with an extension of its own, in a directory with a dot in its name. -/
theorem dottedImporter_resolve_exact :
    let resolver := ofExtensions ["ts", ".d.ts"] true
    let importer := "src/app.v2/main.vue"
    let asked := ["src/lib", "src/lib.ts", "src/lib.d.ts", "src/lib.vue", "src/lib/index.ts",
      "src/lib/index.d.ts", "src/lib/index.vue"]
    (∀ ext ∈ ["ts", ".d.ts"], '/' ∉ ext.toList) ∧
      (resolver.resolveAsking importer "../lib/" (noting (· == "src/lib/index.vue"))).run [] =
        (.internal "src/lib/index.vue", asked) ∧
      ∀ file ∈ asked, UnderRoot file := by
  intro resolver importer asked
  have slashFree : ∀ ext ∈ ["ts", ".d.ts"], '/' ∉ ext.toList := by decide
  have pointed : target importer "../lib/" = .base "src/lib" := by decide +kernel
  have own : resolver.importerExtension? importer = some ".vue" :=
    importerExtension?_eq_some_iff.mpr ⟨"src/app.v2/main", "vue", by decide⟩
  have run : (resolver.resolveAsking importer "../lib/"
      (noting (· == "src/lib/index.vue"))).run [] = (.internal "src/lib/index.vue", asked) := by
    rw [resolveAsking_noting, resolve, tried, candidatesOf, pointed, extensionsFor, own]
    exact congrArg₂ Prod.mk (by decide +kernel) (by decide +kernel)
  obtain ⟨_, _, _, same, _, _, underRoot⟩ :=
    resolve_exact true slashFree importer "../lib/" (· == "src/lib/index.vue")
  cases same.symm.trans run
  exact ⟨slashFree, run, fun file listed => underRoot file (.inl listed)⟩

end Graph.Resolver

end SourceAtlas

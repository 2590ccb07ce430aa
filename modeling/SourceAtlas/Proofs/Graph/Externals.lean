import SourceAtlas.Graph.Report
import SourceAtlas.Proofs.Graph.Assembly
import SourceAtlas.Proofs.Graph.Resolution

/-!
# The packages that a file imports

A node of a graph keeps the packages among its imports, and so does the analysis
of the file. They tell packages apart in two ways, which differ on the blank
specifier and on names that start with a dot and are not relative
(`Overlooked`). The two lists are equal for the files without such imports.
-/

namespace SourceAtlas

namespace Graph

open Resolver

variable {node : Node} {resolver : Resolver} {known : FileSet} {specifier source : String}

/-! ## What a node keeps -/

/-- Recording an answer adds the specifier exactly if it names a package. -/
theorem Node.mem_externals_record (includes : resolver.includeExternals = true) (current : Node)
    (importer : String) :
    source ∈ (current.record resolver.includeExternals
        (resolver.resolve importer specifier known.contains)).externals ↔
      source ∈ current.externals ∨ specifier = source ∧ NamesPackage specifier := by
  have external : resolver.resolve importer specifier known.contains = .external source ↔
      specifier = source ∧ NamesPackage specifier :=
    (resolver.outcome importer specifier known.contains).external_iff
  generalize resolver.resolve importer specifier known.contains = answer at external ⊢
  rw [← external]
  cases answer with
  | internal file => simp [record]
  | external package => simp [record, includes, or_comm]
  | unresolved missing => simp [record]

/-- The packages of a node are the imports that name one. -/
theorem Node.mem_externals_resolved (includes : resolver.includeExternals = true) (node : Node) :
    source ∈ (node.resolved resolver known).externals ↔
      source ∈ node.imports.map ImportFact.source ∧ NamesPackage source := by
  have folded : ∀ (imports : List ImportFact) (start : Node),
      source ∈ (imports.foldl (fun current fact => current.record resolver.includeExternals
        (resolver.resolve node.file fact.source known.contains)) start).externals ↔
      source ∈ start.externals ∨
        source ∈ imports.map ImportFact.source ∧ NamesPackage source := by
    intro imports
    induction imports with
    | nil => simp
    | cons fact rest inductionHypothesis =>
      intro start
      rw [List.foldl_cons, inductionHypothesis, mem_externals_record includes, List.map_cons,
        List.mem_cons]
      grind
  exact (folded node.imports _).trans (by simp)

end Graph

namespace ImportGraph

open SourceAtlas.Graph SourceAtlas.Graph.Resolver

variable {graph : ImportGraph} {node : Node} {resolver : Resolver} {known : FileSet}
  {facts : String → Option Node} {file : String}

/-- A node of an assembled graph holds the resolution of its own facts. -/
theorem Assembled.bare_eq (assembled : Assembled resolver facts known graph)
    (found : graph.get? file = some node) : node.bare = node.facts.resolved resolver known := by
  have held := assembled.nodes file
  rw [← get?, found, Option.map_some, eq_comm, Option.map_eq_some_iff] at held
  obtain ⟨origin, _, resolved⟩ := held
  have sameFacts : node.facts = origin.facts := by
    rw [← Node.facts_bare, ← resolved, Node.facts_resolved, Node.facts_facts]
  rw [sameFacts, resolved]

/-- The externals of a node are its imported specifiers that name packages. -/
theorem Assembled.mem_externals_iff {source : String}
    (assembled : Assembled resolver facts known graph) (includes : resolver.includeExternals = true)
    (found : graph.get? file = some node) :
    source ∈ node.externals ↔
      source ∈ node.imports.map ImportFact.source ∧ NamesPackage source := by
  have resolved := assembled.bare_eq found
  have same : node.externals = node.bare.externals := rfl
  rw [same, resolved, Node.mem_externals_resolved includes]
  rfl

end ImportGraph

namespace Graph

open Resolver

variable {specifier : String}

/-! ## What the analysis lists -/

/-- The specifiers that name a package and are not taken for one in the analysis of a file. -/
inductive Overlooked : String → Prop
  | blank : Overlooked ""
  | dotted {rest : String} (loose : ¬Resolver.Relative ("." ++ rest)) : Overlooked ("." ++ rest)

/-- What is overlooked is blank, or starts with a dot without being relative. -/
theorem overlooked_iff :
    Overlooked specifier ↔
      specifier = "" ∨ Text.startsWith "." specifier = true ∧ isRelative specifier = false := by
  rw [← Bool.not_eq_true, isRelative_iff, Text.startsWith_iff]
  constructor
  · intro overlooked
    cases overlooked with
    | blank => exact .inl rfl
    | dotted loose => exact .inr ⟨⟨_, rfl⟩, loose⟩
  · rintro (rfl | ⟨⟨rest, rfl⟩, loose⟩)
    · exact .blank
    · exact .dotted loose

instance (specifier : String) : Decidable (Overlooked specifier) :=
  decidable_of_iff' _ overlooked_iff

/-- What is overlooked names a package all the same. -/
theorem Overlooked.namesPackage (overlooked : Overlooked specifier) : NamesPackage specifier := by
  cases overlooked with
  | blank =>
    refine not_or.mpr ⟨mt isRelative_iff.mpr (by decide), ?_⟩
    rintro ⟨rest, same⟩
    have chars := congrArg String.toList same
    rw [String.toList_append] at chars
    cases chars
  | dotted loose => exact not_or.mpr ⟨loose, fun ⟨rest, same⟩ => slash_ne_dot rest _ same.symm⟩

/-- The test accepts what names a package and is not overlooked. -/
theorem isBareSpecifier_iff :
    isBareSpecifier specifier = true ↔ NamesPackage specifier ∧ ¬Overlooked specifier := by
  rw [isBareSpecifier, Bool.and_eq_true, Bool.and_eq_true, decide_eq_true_iff, Bool.not_eq_true',
    Bool.not_eq_true', ← Bool.not_eq_true, ← Bool.not_eq_true, Text.startsWith_iff,
    Text.startsWith_iff]
  constructor
  · rintro ⟨⟨notBlank, notDotted⟩, notRooted⟩
    refine ⟨not_or.mpr ⟨fun relative => notDotted relative.dotted, notRooted⟩, fun overlooked => ?_⟩
    cases overlooked with
    | blank => exact notBlank rfl
    | dotted loose => exact notDotted ⟨_, rfl⟩
  · rintro ⟨names, seen⟩
    obtain ⟨notRelative, notRooted⟩ := not_or.mp names
    refine ⟨⟨?_, ?_⟩, notRooted⟩
    · rintro rfl
      exact seen .blank
    · rintro ⟨rest, rfl⟩
      exact seen (.dotted notRelative)

end Graph

namespace ImportGraph

open SourceAtlas.Graph SourceAtlas.Graph.Resolver

variable {node : Node} {file : String}

/-- A sorted list of texts lists a set exactly if it has the same members. -/
theorem sortedSet_eq_toList_iff {texts : List String} {set : FileSet} :
    sortedSet texts = set.toList ↔ ∀ text, text ∈ texts ↔ text ∈ set := by
  have member : ∀ text, text ∈ sortedSet texts ↔ text ∈ texts := fun text => by simp [sortedSet]
  constructor
  · intro same text
    rw [← member, same, Std.ExtTreeSet.mem_toList]
  · intro same
    refine congrArg Std.ExtTreeSet.toList (Std.ExtTreeSet.ext_mem fun text => ?_)
    rw [← same]
    simp

/-- With packages remembered, the analysis of a file lists the packages that its node keeps, exactly
when no import of the file is blank or starts with a dot without being relative. -/
theorem external_analyzeFile?_iff (extensions : List String) (nodes : List Node) (known : FileSet)
    (found : (build ⟨extensions, true⟩ nodes known).get? file = some node) :
    ∃ analysis, (build ⟨extensions, true⟩ nodes known).analyzeFile? file = some analysis ∧
      (analysis.external = node.externals.toList ↔
        ∀ fact ∈ node.imports, ¬Overlooked fact.source) := by
  have kept : ∀ source, source ∈ node.externals ↔
      source ∈ node.imports.map ImportFact.source ∧ NamesPackage source := fun source =>
    (assembled_build ⟨extensions, true⟩ nodes known).mem_externals_iff rfl found
  refine ⟨_, by rw [analyzeFile?, found, Option.map_some], ?_⟩
  dsimp only
  rw [sortedSet_eq_toList_iff]
  simp only [List.mem_filter, isBareSpecifier_iff, kept]
  constructor
  · intro same fact member overlooked
    have listed : fact.source ∈ node.imports.map ImportFact.source := List.mem_map_of_mem member
    exact ((same fact.source).mpr ⟨listed, overlooked.namesPackage⟩).2.2 overlooked
  · intro seen source
    refine and_congr_right fun listed => and_iff_left ?_
    obtain ⟨fact, member, rfl⟩ := List.mem_map.mp listed
    exact seen fact member

/-- A file with an import of each kind. -/
def mixedImports : List ImportFact :=
  [⟨"react", [], 1⟩, ⟨"./b", [], 2⟩, ⟨"/src/c", [], 3⟩, ⟨"..", [], 4⟩, ⟨"@scope/kit", [], 5⟩]

/-- The packages of the example as they are tracked and as they are reported. -/
theorem mixedImports_external :
    let graph := build ⟨[".ts"], true⟩ [{ file := "bin/run", imports := mixedImports }]
      (Std.ExtTreeSet.ofList ["bin/run", "bin/b.ts"] compare)
    ∃ node analysis, graph.get? "bin/run" = some node ∧
      (∀ fact ∈ node.imports, ¬Overlooked fact.source) ∧
      graph.analyzeFile? "bin/run" = some analysis ∧
      analysis.external = node.externals.toList ∧
      node.externals.toList = ["@scope/kit", "react"] := by
  intro graph
  have kept : (graph.get? "bin/run").map (fun node => (node.imports, node.externals.toList)) =
      some (mixedImports, ["@scope/kit", "react"]) := by decide +kernel
  obtain ⟨node, found, same⟩ := Option.map_eq_some_iff.mp kept
  obtain ⟨imports, externals⟩ := Prod.mk.inj same
  obtain ⟨analysis, analyzed, agrees⟩ := external_analyzeFile?_iff _ _ _ found
  have seen : ∀ fact ∈ node.imports, ¬Overlooked fact.source := by
    rw [imports]
    decide +kernel
  exact ⟨node, analysis, found, seen, analyzed, agrees.mpr seen, externals⟩

/-- A package whose name starts with a dot is in neither list of the analysis of its importer. -/
theorem dottedPackage_external :
    let graph := build ⟨[".ts"], true⟩ [{ file := "a.ts", imports := [⟨".foo", [], 1⟩] }]
      (Std.ExtTreeSet.ofList ["a.ts"] compare)
    ∃ node analysis, graph.get? "a.ts" = some node ∧ graph.analyzeFile? "a.ts" = some analysis ∧
      node.externals.toList = [".foo"] ∧ analysis.external = [] ∧ analysis.internal = [] ∧
      analysis.missing = [] := by
  intro graph
  have kept : (graph.get? "a.ts").map (fun node => node.externals.toList) = some [".foo"] := by
    decide +kernel
  have listed : (graph.analyzeFile? "a.ts").map (fun analysis =>
      (analysis.external, analysis.internal, analysis.missing)) = some ([], [], []) := by
    decide +kernel
  obtain ⟨node, found, externals⟩ := Option.map_eq_some_iff.mp kept
  obtain ⟨analysis, analyzed, same⟩ := Option.map_eq_some_iff.mp listed
  obtain ⟨external, rest⟩ := Prod.mk.inj same
  obtain ⟨internal, missing⟩ := Prod.mk.inj rest
  exact ⟨node, analysis, found, analyzed, externals, external, internal, missing⟩

end ImportGraph

end SourceAtlas

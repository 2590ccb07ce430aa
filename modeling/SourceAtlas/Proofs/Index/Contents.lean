import SourceAtlas.Index.Pass
import SourceAtlas.Proofs.FileMap
import SourceAtlas.Proofs.Symbol.Ownership

/-!
# What files hold and what a table stores of it

`contentOf?` is what a pass gets out of a tracked file: nothing when the file
is not indexable, cannot be read or cannot be parsed, else its symbols and its
node, time stamps apart. It depends on the text of the file alone. A table
`Stores` contents when it holds for every file the first symbol of each
identifier and nothing else; dropping and storing files keep that up.
-/

namespace SourceAtlas

/-- A parsed file without time stamps. -/
def ParsedFile.untimed (file : ParsedFile) : ParsedFile :=
  { file with symbols := file.symbols.map Symbol.untimed }

namespace PassContext

variable {σ : Type} {context earlier : PassContext σ} {record old new : FileRecord}
  {file : ParsedFile}

/-- What a pass gets out of a tracked file. -/
def contentOf? (context : PassContext σ) (record : FileRecord) : Option ParsedFile :=
  if context.isIndexable record.path then
    (context.parseFile record).toOption.map ParsedFile.untimed
  else none

/-- What a pass gets out of the file tracked under a path. -/
def contentAt? (context : PassContext σ) (files : FileMap FileRecord) (path : String) :
    Option ParsedFile :=
  (files[path]?).bind context.contentOf?

/-- The contents of a file with the given text. -/
def contentOfText (context : PassContext σ) (path text : String) : Option ParsedFile :=
  (context.parser.parse path text).toOption.map fun facts =>
    { path
      symbols := facts.symbols.map fun fact =>
        Symbol.ofFact path fact (Text.lines text) context.settings.indexer.contextLines 0
      node := { file := path, imports := facts.imports, exports := facts.exports } }

/-- The content of a file is what its text parses to, if the file is indexed and can be read. -/
theorem contentOf?_eq (context : PassContext σ) (record : FileRecord) :
    context.contentOf? record =
      if context.isIndexable record.path then
        (context.files.readText record.absolutePath).toOption.bind
          (context.contentOfText record.path)
      else none := by
  rw [contentOf?]
  split
  · rw [parseFile]
    cases context.files.readText record.absolutePath with
    | error failure => rfl
    | ok text =>
      change _ = context.contentOfText record.path text
      rw [contentOfText]
      dsimp only
      cases context.parser.parse record.path text with
      | error reason => rfl
      | ok facts =>
        simp only [Except.toOption, Option.map_some, ParsedFile.untimed, List.map_map]
        rfl
  · rfl

/-- Two contexts that parse by the same rules. -/
structure SameRules (earlier context : PassContext σ) : Prop where
  settings : earlier.settings = context.settings
  parser : earlier.parser = context.parser

/-- Records of one path with the same text have the same contents. -/
theorem contentOf?_congr (same : SameRules earlier context) (path : old.path = new.path)
    (text : (earlier.files.readText old.absolutePath).toOption =
      (context.files.readText new.absolutePath).toOption) :
    earlier.contentOf? old = context.contentOf? new := by
  have indexable : earlier.isIndexable = context.isIndexable := by
    funext path
    rw [isIndexable, isIndexable, same.settings, same.parser]
  have ofText : earlier.contentOfText = context.contentOfText := by
    funext path text
    rw [contentOfText, contentOfText, same.settings, same.parser]
  rw [contentOf?_eq, contentOf?_eq, indexable, ofText, path, text]

/-- A parsed file carries the path of its record. -/
theorem path_of_parseFile (parsed : context.parseFile record = .ok file) :
    file.path = record.path ∧ file.node.file = record.path := by
  rw [parseFile] at parsed
  split at parsed
  · cases parsed
  · split at parsed
    · cases parsed
    · cases parsed
      exact ⟨rfl, rfl⟩

/-- The symbols of a parsed file belong to it. -/
theorem belongTo_of_parseFile (parsed : context.parseFile record = .ok file)
    (colonFree : ColonFree record.path) : SymbolTable.BelongTo file.symbols file.path := by
  rw [parseFile] at parsed
  split at parsed
  · cases parsed
  · split at parsed
    · cases parsed
    · cases parsed
      intro symbol member
      obtain ⟨fact, -, rfl⟩ := List.mem_map.mp member
      exact ⟨rfl, Symbol.ownerOf_makeId colonFree _ _⟩

/-- The files among the outcomes are those that were parsed. -/
theorem mem_splitOutcomes {records : List FileRecord} :
    file ∈ (splitOutcomes (records.map context.parseFile)).2 ↔
      ∃ record ∈ records, context.parseFile record = .ok file := by
  induction records with
  | nil => simp [splitOutcomes]
  | cons first rest inductionHypothesis =>
    rw [List.map_cons]
    cases outcome : context.parseFile first with
    | error failure =>
      simp only [splitOutcomes, inductionHypothesis, List.mem_cons, exists_eq_or_imp, outcome]
      simp
    | ok parsed =>
      simp only [splitOutcomes, inductionHypothesis, List.mem_cons, exists_eq_or_imp, outcome,
        Except.ok.injEq]
      rw [eq_comm]

/-! ## The symbol table of a pass -/

/-- The vectors that go with a dropped file are those of the identifiers listed for it. -/
theorem dropFile_eq (contents : SymbolTable × EmbeddingCache) (path : String) :
    dropFile contents path =
      (contents.1.removeFile path,
        (contents.1.idsOfFile path).foldl EmbeddingCache.remove contents.2) := rfl

/-- The vectors that go when a file is stored anew are those of the identifiers that were listed
for it. -/
theorem storeFile_eq (now : Int) (contents : SymbolTable × EmbeddingCache) (file : ParsedFile) :
    storeFile now contents file =
      (contents.1.replaceFile file.path file.symbols now,
        (contents.1.idsOfFile file.path).foldl EmbeddingCache.remove contents.2) := rfl

/-- The table after files are dropped. -/
theorem fst_foldl_dropFile (paths : List String) (contents : SymbolTable × EmbeddingCache) :
    (paths.foldl dropFile contents).1 = paths.foldl SymbolTable.removeFile contents.1 := by
  induction paths generalizing contents with
  | nil => rfl
  | cons first rest inductionHypothesis =>
    rw [List.foldl_cons, inductionHypothesis, List.foldl_cons, dropFile_eq]

/-- The table after files are stored. -/
theorem symbols_storeFiles (now : Int) (files : List ParsedFile)
    (contents : SymbolTable × EmbeddingCache) :
    (storeFiles now contents files).2.1 =
      files.foldl (fun table file => table.replaceFile file.path file.symbols now)
        contents.1 := by
  induction files generalizing contents with
  | nil => rfl
  | cons first rest inductionHypothesis =>
    rw [storeFiles, List.foldl_cons]
    exact inductionHypothesis (storeFile now contents first)

end PassContext

/-- Contents by path, as far as they are known. -/
abbrev Contents := String → Option ParsedFile

namespace Contents

/-- The contents after paths were dropped. -/
def without (contents : Contents) (paths : List String) : Contents := fun path =>
  if path ∈ paths then none else contents path

/-- The contents after parsed files were put in. -/
def withFiles (contents : Contents) (files : List ParsedFile) : Contents := fun path =>
  ((lastFor ParsedFile.path files path).map ParsedFile.untimed).or (contents path)

/-- The symbol that the contents hold for an identifier: the first one that has it in the file
that the identifier names. -/
def symbol? (contents : Contents) (id : String) : Option Symbol :=
  (contents (Symbol.ownerOf id)).bind fun file => file.symbols.find? fun symbol => symbol.id = id

end Contents

namespace SymbolTable

variable {table first second : SymbolTable} {contents : Contents}

/-- A table that holds the symbols of the contents, time stamps apart, and no others. -/
structure Stores (table : SymbolTable) (contents : Contents) : Prop where
  owned : table.Owned
  symbols : ∀ id : String, (table.symbols[id]?).map Symbol.untimed = contents.symbol? id

/-- Contents determine the table that stores them, time stamps apart. -/
theorem Stores.untimed_eq (one : first.Stores contents) (two : second.Stores contents) :
    first.untimed = second.untimed :=
  one.owned.toIndexed.untimed_eq two.owned.toIndexed fun id => by
    rw [one.symbols, two.symbols]

/-- A table without symbols stores no content. -/
theorem stores_empty : empty.Stores fun _ => none where
  owned := owned_empty
  symbols id := by simp [empty, Contents.symbol?]

/-- Removing a file takes its content away. -/
theorem Stores.removeFile (stores : table.Stores contents) (path : String) :
    (table.removeFile path).Stores (contents.without [path]) where
  owned := stores.owned.removeFile path
  symbols id := by
    rw [stores.owned.symbols_removeFile, Contents.symbol?, Contents.without]
    by_cases own : Symbol.ownerOf id = path
    · simp [own]
    · rw [if_neg own, stores.symbols]
      simp [own, Contents.symbol?]

/-- Replacing the symbols of a file puts its new content in. -/
theorem Stores.replaceFile (stores : table.Stores contents) {file : ParsedFile}
    (belong : BelongTo file.symbols file.path) (now : Int) :
    (table.replaceFile file.path file.symbols now).Stores (contents.withFiles [file]) where
  owned := stores.owned.replaceFile belong now
  symbols id := by
    rw [stores.owned.symbols_replaceFile belong, Contents.symbol?, Contents.withFiles, lastFor_cons]
    by_cases own : Symbol.ownerOf id = file.path
    · rw [if_pos own]
      simp only [own, lastFor_nil, Option.none_or, if_true, Option.map_some, Option.some_or,
        Option.bind_some, ParsedFile.untimed, List.find?_map]
      rfl
    · rw [if_neg own, stores.symbols]
      simp [Ne.symm own, Contents.symbol?]

/-- Removing files takes their contents away. -/
theorem Stores.foldl_removeFile (stores : table.Stores contents) (paths : List String) :
    (paths.foldl SymbolTable.removeFile table).Stores (contents.without paths) := by
  induction paths generalizing table contents with
  | nil =>
    have same : contents.without [] = contents := funext fun path => by simp [Contents.without]
    rwa [same]
  | cons first rest inductionHypothesis =>
    have later := inductionHypothesis (stores.removeFile first)
    have joined : (contents.without [first]).without rest = contents.without (first :: rest) := by
      funext path
      simp only [Contents.without, List.mem_cons, List.not_mem_nil, or_false]
      by_cases same : path = first <;> by_cases listed : path ∈ rest <;> simp [same, listed]
    rwa [joined] at later

/-- Replacing the symbols of files puts their new contents in. -/
theorem Stores.foldl_replaceFile (stores : table.Stores contents) {files : List ParsedFile}
    (belong : ∀ file ∈ files, BelongTo file.symbols file.path) (now : Int) :
    (files.foldl (fun table file => table.replaceFile file.path file.symbols now) table).Stores
      (contents.withFiles files) := by
  induction files generalizing table contents with
  | nil =>
    have same : contents.withFiles [] = contents := funext fun path => by simp [Contents.withFiles]
    rwa [same]
  | cons first rest inductionHypothesis =>
    have later := inductionHypothesis (stores.replaceFile (belong first (.head _)) now)
      fun file member => belong file (.tail _ member)
    have joined : (contents.withFiles [first]).withFiles rest =
        contents.withFiles (first :: rest) := by
      funext path
      simp only [Contents.withFiles, lastFor_cons, lastFor_nil, Option.none_or]
      cases lastFor ParsedFile.path rest path <;> simp
    rwa [joined] at later

end SymbolTable

end SourceAtlas

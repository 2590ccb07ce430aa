/-!
# Facts of a source file

What reading one source file yields: its named entities, the modules it
imports and the names it exports. Everything the index knows about a file's
text comes from these facts.
-/

namespace SourceAtlas

/-- The kinds of named entities. -/
inductive SymbolKind where
  | function
  | classLike
  | interface
  | variable
  | importName
  | method
  | property
  deriving DecidableEq, Repr, Inhabited

namespace SymbolKind

/-- Every kind, in display order. -/
def all : List SymbolKind :=
  [.function, .classLike, .interface, .variable, .importName, .method, .property]

/-- The written name of a kind. -/
def label : SymbolKind → String
  | .function => "function"
  | .classLike => "class"
  | .interface => "interface"
  | .variable => "variable"
  | .importName => "import"
  | .method => "method"
  | .property => "property"

/-- The kind of a written name. -/
def ofLabel? (name : String) : Option SymbolKind :=
  all.find? fun kind => kind.label = name

/-- Reading the written name of a kind gives the kind back. -/
theorem ofLabel?_label (kind : SymbolKind) : ofLabel? kind.label = some kind := by
  cases kind <;> decide

end SymbolKind

/-- A named entity. Lines count from one and include both ends. -/
structure SymbolFact where
  name : String
  kind : SymbolKind
  startLine : Nat
  endLine : Nat
  signature : Option String
  deriving DecidableEq, Repr, Inhabited

/-- One import: the module as written and the names it binds. -/
structure ImportFact where
  source : String
  specifiers : List String
  line : Nat
  deriving DecidableEq, Repr, Inhabited

/-- One exported name. -/
structure ExportFact where
  name : String
  line : Nat
  deriving DecidableEq, Repr, Inhabited

/-- The facts of one file. -/
structure FileFacts where
  symbols : List SymbolFact := []
  imports : List ImportFact := []
  exports : List ExportFact := []
  deriving DecidableEq, Repr, Inhabited

/-- A source of facts about files. -/
structure FactParser where
  /-- Whether files of this path can be parsed. -/
  supports : String → Bool
  /-- The facts of a path and text, or why there are none. -/
  parse : String → String → Except String FileFacts

end SourceAtlas

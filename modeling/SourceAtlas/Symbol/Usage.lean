import SourceAtlas.Symbol.Table

/-!
# Usages of a name

A usage is an occurrence of a name as a whole identifier in the text of an
indexed file. Its kind is read off the line it stands on.
-/

namespace SourceAtlas

/-- What an occurrence does with a name. -/
inductive UsageKind where
  | definition
  | call
  | reference
  | import_
  | export_
  deriving DecidableEq, Repr

/-- The written name of a usage kind. -/
def UsageKind.label : UsageKind → String
  | .definition => "definition"
  | .call => "call"
  | .reference => "reference"
  | .import_ => "import"
  | .export_ => "export"

/-- A usage kind as it is shown. -/
def UsageKind.title : UsageKind → String
  | .definition => "Definition"
  | .call => "Call"
  | .reference => "Reference"
  | .import_ => "Import"
  | .export_ => "Export"

/-- Which files are scanned. -/
inductive UsageScope where
  | definingFiles
  | allFiles
  deriving DecidableEq, Repr

/-- One occurrence; line and column count from one. -/
structure Usage where
  file : String
  line : Nat
  column : Nat
  kind : UsageKind
  /-- The line without surrounding white space. -/
  text : String
  deriving DecidableEq, Repr

/-- Where a name is defined, used, imported and exported. -/
structure CrossReference where
  name : String
  definitionFiles : List String
  usageFiles : List String
  importedBy : List String
  exportedFrom : List String
  deriving DecidableEq, Repr

namespace Usage

/-- Characters of identifiers. -/
def isIdentifierChar (c : Char) : Bool := Text.isLetterOrNumber c || c = '_' || c = '$'

/-- Whether the next character, if any, satisfies a test. -/
def headIs (p : Char → Bool) : List Char → Bool
  | c :: _ => p c
  | [] => false

/-- The positions of non-overlapping occurrences of `name`, each with the text behind it, where no
identifier character touches it. `previous` is the character before the position, and `skip`
counts the characters that belong to an occurrence already found. -/
def occurrencesFrom (name : List Char) :
    Nat → Option Char → Nat → List Char → List (Nat × List Char)
  | _, _, _, [] => []
  | position, _, skip + 1, c :: rest =>
    occurrencesFrom name (position + 1) (some c) skip rest
  | position, previous, 0, c :: rest =>
    if name.isPrefixOf (c :: rest) then
      let after := (c :: rest).drop name.length
      let found := occurrencesFrom name (position + 1) (some c) (name.length - 1) rest
      if (previous.map isIdentifierChar).getD false || headIs isIdentifierChar after then found
      else (position, after) :: found
    else occurrencesFrom name (position + 1) (some c) 0 rest

/-- The positions at which `name` stands in a line as a whole identifier. -/
def occurrences (name line : String) : List (Nat × List Char) :=
  occurrencesFrom name.toList 0 none 0 line.toList

/-- Whether a line continues with a word that ends there. -/
def startsWithWord (word : String) (line : List Char) : Bool :=
  word.toList.isPrefixOf line && !headIs Text.isWord (line.drop word.length)

/-- Whether a line is `from`, something, `import`. -/
def isFromImport (line : List Char) : Bool :=
  if "from".toList.isPrefixOf line && headIs Text.isBlank (line.drop 4) then
    let module_ := (line.drop 4).dropWhile Text.isBlank
    let behind := module_.dropWhile fun c => !Text.isBlank c
    !module_.isEmpty && headIs Text.isBlank behind &&
      startsWithWord "import" (behind.dropWhile Text.isBlank)
  else false

/-- Whether `require` stands somewhere as a word with an opening parenthesis behind it. -/
def hasRequireCall : Option Char → List Char → Bool
  | _, [] => false
  | previous, c :: rest =>
    ("require".toList.isPrefixOf (c :: rest) && !(previous.map Text.isWord).getD false &&
        headIs (· == '(') (((c :: rest).drop 7).dropWhile Text.isBlank)) ||
      hasRequireCall (some c) rest

/-- Whether a line imports something. -/
def isImportLine (line : String) : Bool :=
  let body := line.toList.dropWhile Text.isBlank
  startsWithWord "import" body || isFromImport body ||
    ("use".toList.isPrefixOf body && headIs Text.isBlank (body.drop 3)) ||
    hasRequireCall none line.toList

/-- Whether a line exports something. -/
def isExportLine (line : String) : Bool :=
  let body := line.toList.dropWhile Text.isBlank
  startsWithWord "export" body || startsWithWord "pub" body || startsWithWord "module.exports" body

/-- The kind of an occurrence with the text behind it. -/
def classify (line : String) (behind : List Char) (isDefinitionLine : Bool) : UsageKind :=
  if isImportLine line then .import_
  else if isDefinitionLine then .definition
  else if isExportLine line then .export_
  else if headIs (· == '(') (behind.dropWhile Text.isBlank) then .call
  else .reference

/-- The usages on one line. -/
def onLine (file name : String) (definitionLines : List Nat) (number : Nat) (line : String) :
    List Usage :=
  (occurrences name line).map fun (position, behind) =>
    { file
      line := number
      column := position + 1
      kind := classify line behind (definitionLines.contains number)
      text := Text.trim line }

/-- The usages in a text, from top to bottom. -/
def inText (file name : String) (definitionLines : List Nat) (text : String) : List Usage :=
  ((Text.lines text).mapIdx fun index line =>
    onLine file name definitionLines (index + 1) line).flatten

end Usage

namespace SymbolTable

/-- The files that define a name, in order. -/
def definingFiles (table : SymbolTable) (name : String) : List String :=
  (Std.ExtTreeSet.ofList ((table.named name).map Symbol.file) compare).toList

/-- The lines on which a file defines a name. -/
def definitionLines (table : SymbolTable) (name file : String) : List Nat :=
  ((table.named name).filter fun symbol => symbol.file = file).map Symbol.startLine

/-- The usages of a name in the files of a scope, ordered by file, line and column. Files that
cannot be read are passed over. -/
def usages (table : SymbolTable) (name : String) (scope : UsageScope)
    (read : String → Option String) : List Usage :=
  if name.isEmpty then []
  else
    let files := match scope with
      | .definingFiles => table.definingFiles name
      | .allFiles => table.files
    files.flatMap fun file =>
      match read file with
      | some text => Usage.inText file name (table.definitionLines name file) text
      | none => []

/-- The files of the usages that satisfy a test, in order. -/
def usageFiles (usages : List Usage) (p : UsageKind → Bool) : List String :=
  (Std.ExtTreeSet.ofList ((usages.filter fun usage => p usage.kind).map Usage.file) compare).toList

/-- Where a name is defined and used, when it is defined at all. -/
def crossReference? (table : SymbolTable) (name : String) (read : String → Option String) :
    Option CrossReference :=
  let definitionFiles := table.definingFiles name
  if definitionFiles.isEmpty then none
  else
    let all := table.usages name .allFiles read
    some
      { name
        definitionFiles
        usageFiles := usageFiles all fun kind => kind = .call || kind = .reference
        importedBy := usageFiles all (· = .import_)
        exportedFrom := usageFiles all (· = .export_) }

end SymbolTable

end SourceAtlas

import SourceAtlas.Code.Crate.Lexer
import SourceAtlas.Code.Crate.Use
import SourceAtlas.Code.Span

/-!
# Items of Rust source

The facts of a file come from its items, those of inline modules included.
Bodies of functions are not entered. A module declared without a body imports
the file it names.
-/

namespace SourceAtlas.Code.Crate

/-- Attributes passed over. -/
def skipAttributes : List Tree → List Tree
  | hash :: mark :: list :: rest =>
    if hash.isMark "#" && list.isGroup "[" && mark.isMark "!" then skipAttributes rest
    else if hash.isMark "#" && mark.isGroup "[" then skipAttributes (list :: rest)
    else hash :: mark :: list :: rest
  | [hash, list] => if hash.isMark "#" && list.isGroup "[" then [] else [hash, list]
  | other => other

/-- The trees behind a visibility, and whether there is one. -/
def skipVisibility : List Tree → Bool × List Tree
  | word :: scope :: rest =>
    if word.isWord "pub" then (true, if scope.isGroup "(" then rest else scope :: rest)
    else (false, word :: scope :: rest)
  | other => (false, other)

/-- The words that may stand before a function, an implementation or a trait. -/
def modifiers : List String := ["async", "const", "default", "extern", "unsafe"]

/-- Modifiers passed over. -/
def skipModifiers (trees : List Tree) : List Tree :=
  trees.dropWhile fun tree => modifiers.any tree.isWord || tree.isText

/-- The depth of angle brackets behind a tree. -/
def angleDepth (depth : Nat) (tree : Tree) : Nat :=
  if tree.isMark "<" then depth + 1 else if tree.isMark ">" then depth - 1 else depth

/-- Where an item ends: the trees of its header, its body and the last token. -/
structure ItemEnd where
  header : List Tree
  body : Option Tree
  last : Token
  rest : List Tree

/-- The end of an item that closes with a body or a semicolon. Braces between angle brackets are
part of the header. -/
def endAtBody : Nat → List Tree → Token → List Tree → ItemEnd
  | _, header, last, [] => { header := header.reverse, body := none, last, rest := [] }
  | depth, header, _, tree :: rest =>
    if tree.isMark ";" then
      { header := header.reverse, body := none, last := tree.last, rest }
    else if depth = 0 && tree.isGroup "\x7b" then
      { header := header.reverse, body := some tree, last := tree.last, rest }
    else endAtBody (angleDepth depth tree) (tree :: header) tree.last rest

/-- The end of an item that closes with a semicolon. -/
def endAtSemicolon : List Tree → Token → List Tree → ItemEnd
  | header, last, [] => { header := header.reverse, body := none, last, rest := [] }
  | header, _, tree :: rest =>
    if tree.isMark ";" then
      { header := header.reverse, body := none, last := tree.last, rest }
    else endAtSemicolon (tree :: header) tree.last rest

/-- Whether an equals sign stands outside of angle brackets. -/
def hasValue : Nat → List Tree → Bool
  | _, [] => false
  | depth, tree :: rest =>
    (depth = 0 && tree.isMark "=") || hasValue (angleDepth depth tree) rest

/-- The name that follows, past the words of a static. -/
def nameIn (trees : List Tree) : String :=
  match trees.dropWhile fun tree => tree.isWord "mut" || tree.isWord "ref" with
  | name :: _ => if name.isAnyWord then name.word else ""
  | [] => ""

/-- Cut the fields of a struct at the commas outside of angle brackets. -/
def fieldsOf : Nat → List Tree → List Tree → List (List Tree)
  | _, current, [] => [current.reverse]
  | depth, current, tree :: rest =>
    if depth = 0 && tree.isMark "," then current.reverse :: fieldsOf 0 [] rest
    else fieldsOf (angleDepth depth tree) (tree :: current) rest

/-- The symbol of a field: a name with a type. -/
def fieldFacts (field : List Tree) : FileFacts :=
  let field := skipAttributes field
  match field, (skipVisibility field).2, field.getLast? with
  | first :: _, name :: colon :: _, some last =>
    if colon.isMark ":" then
      declared .property name.word (Span.ofTokens first.first last.last) none
    else {}
  | _, _, _ => {}

/-- The facts of the body of an item, given the facts of a list of items. -/
def bodyFacts (itemsOf : List Tree → FileFacts) (body : Option Tree) : FileFacts :=
  match body with
  | some body => itemsOf body.inner
  | none => {}

/-- The facts of items. `inside` says that they stand in an implementation or a trait, where nothing
is exported. The fuel bounds the number of items on the way to the innermost one. -/
def itemFacts (source : List Char) : Nat → Bool → List Tree → FileFacts
  | 0, _, _ => {}
  | fuel + 1, inside, trees =>
    match skipAttributes trees with
    | [] => {}
    | first :: others =>
      let (isPublic, visible) := skipVisibility (first :: others)
      let plain := skipModifiers visible
      let continueWith := itemFacts source fuel inside
      let exportIf := fun (name : String) (span : Span) =>
        if isPublic && !inside then exported name span.line else ({} : FileFacts)
      let item := fun (kind : SymbolKind) (name : String) (span : Span) =>
        declared kind name span none ++ exportIf name span
      match plain, visible with
      | keyword :: after, head :: afterHead =>
        let name := nameIn after
        if keyword.isWord "fn" then
          let found := endAtBody 0 [] keyword.last after
          let span := Span.ofTokens first.first found.last
          let kind := if inside || found.body.isNone then SymbolKind.method else .function
          let header := signature source span (found.body.map (·.first.start))
          declared kind name span header ++ exportIf name span ++ continueWith found.rest
        else if head.isWord "const" || head.isWord "static" then
          let found := endAtSemicolon [] head.last afterHead
          item .variable (nameIn afterHead) (Span.ofTokens first.first found.last) ++
            continueWith found.rest
        else if keyword.isWord "struct" then
          let found := endAtBody 0 [] keyword.last after
          let fields := (found.body.map Tree.inner).getD []
          item .classLike name (Span.ofTokens first.first found.last) ++
            FileFacts.concat ((fieldsOf 0 [] fields).map fieldFacts) ++ continueWith found.rest
        else if keyword.isWord "enum" || (keyword.isWord "union" && name ≠ "") then
          let found := endAtBody 0 [] keyword.last after
          item .classLike name (Span.ofTokens first.first found.last) ++ continueWith found.rest
        else if keyword.isWord "trait" then
          let found := endAtBody 0 [] keyword.last after
          item .interface name (Span.ofTokens first.first found.last) ++
            bodyFacts (itemFacts source fuel true) found.body ++ continueWith found.rest
        else if keyword.isWord "impl" then
          let found := endAtBody 0 [] keyword.last after
          bodyFacts (itemFacts source fuel true) found.body ++ continueWith found.rest
        else if keyword.isWord "type" then
          let found := endAtSemicolon [] keyword.last after
          (if hasValue 0 found.header then
            item .interface name (Span.ofTokens first.first found.last) else {}) ++
            continueWith found.rest
        else if keyword.isWord "mod" then
          let found := endAtBody 0 [] keyword.last after
          (match found.body with
            | some body => itemFacts source fuel false body.inner
            | none => imported ("./" ++ name) [name] (Span.ofTokens first.first found.last)) ++
            continueWith found.rest
        else if keyword.isWord "use" then
          let found := endAtSemicolon [] keyword.last after
          (match found.header, found.header.getLast? with
            | start :: _, some stop =>
              let argument := (Span.ofTokens start.first stop.last).text source
              imported argument (useBindings argument) (Span.ofTokens first.first found.last)
            | _, _ => {}) ++
            continueWith found.rest
        else continueWith (endAtBody 0 [] first.last (first :: others)).rest
      | _, _ => {}

/-- The facts of a source text. -/
def facts (source : String) : FileFacts :=
  let chars := source.toList
  (itemFacts chars (chars.length + 1) false (trees chars)).sorted

end SourceAtlas.Code.Crate

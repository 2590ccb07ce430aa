import SourceAtlas.Code.Offside.Imports

/-!
# Blocks of Python source

The facts of a file come from the statements of the module and of its classes,
also where they stand under a condition, a handler or a context. Bodies of
functions and of loops are not entered.

A block reaches to its last statement and takes in the comments behind it that
are indented at least as far.
-/

namespace SourceAtlas.Code.Offside

/-- Where statements stand. -/
inductive Scope where
  | module
  | classBody
  deriving DecidableEq, Repr

/-- An export of a name that is not private, at module level. -/
def exportPublic (scope : Scope) (name : String) (line : Nat) : FileFacts :=
  if scope = .module && !Text.startsWith "_" name then exported name line else {}

/-- The facts of one simple statement. -/
def simpleFacts (source : List Char) (scope : Scope) (trees : List Tree) : FileFacts :=
  match trees, spanOf? trees with
  | head :: rest, some span =>
    if head.isWord "import" then importFacts source span rest
    else if head.isWord "from" then fromFacts source span rest
    else
      match rest with
      | mark :: _ =>
        if head.isAnyWord && !head.isWord "lambda" && (mark.isMark "=" || mark.isMark ":") then
          let kind := if scope = .module then SymbolKind.variable else .property
          declared kind head.word span none ++ exportPublic scope head.word span.line
        else {}
      | [] => {}
  | _, _ => {}

/-- The facts of the simple statements of a line. -/
def simpleLineFacts (source : List Char) (scope : Scope) (trees : List Tree) : FileFacts :=
  FileFacts.concat ((splitAtMark ";" [] trees).map (simpleFacts source scope))

/-- Cut a header at its colon; the colons of lambdas, whose number is given, belong to them. -/
def cutHeader : Nat → List Tree → List Tree → Option (List Tree × List Tree)
  | _, _, [] => none
  | lambdas, header, tree :: rest =>
    if tree.isMark ":" then
      match lambdas with
      | 0 => some (header.reverse, rest)
      | lambdas + 1 => cutHeader lambdas (tree :: header) rest
    else
      cutHeader (if tree.isWord "lambda" then lambdas + 1 else lambdas) (tree :: header) rest

/-- The kinds of statements that have a body. -/
inductive Compound where
  | classDefinition
  | function
  /-- A condition, a handler or a context: its statements count as those around it. -/
  | transparent
  /-- Its statements are not looked at. -/
  | covered
  deriving DecidableEq, Repr

/-- What kind of compound statement starts with the given trees. An `else` or `finally` belongs to
the compound statement before it, which `chain` tells. -/
def compoundOf? (chain : Compound) (trees : List Tree) : Option Compound :=
  match trees with
  | first :: second :: _ =>
    let word := if first.isWord "async" then second else first
    if word.isWord "class" then some .classDefinition
    else if word.isWord "def" then some .function
    else if ["if", "try", "with"].any word.isWord then some .transparent
    else if ["else", "except", "finally"].any word.isWord then some chain
    else if ["for", "while", "elif"].any word.isWord then some .covered
    else if (word.isWord "match" || word.isWord "case") && !second.isMark "=" &&
        !second.isMark ":" && !second.isMark "." &&
        (trees.getLast?.any fun last => last.isMark ":") then
      some .covered
    else none
  | _ => none

/-- The kind of clause that later clauses of the same statement belong to. -/
def chainAfter (chain : Compound) (trees : List Tree) (kind : Compound) : Compound :=
  match trees with
  | first :: _ => if ["elif", "else", "except", "finally"].any first.isWord then chain else kind
  | [] => kind

/-- The name behind `class` or `def`. -/
def definedName (header : List Tree) : String :=
  match (header.dropWhile fun tree => !(tree.isWord "class" || tree.isWord "def")).drop 1 with
  | name :: _ => name.word
  | [] => ""

/-- The facts of some lines, their last token and the lines left. -/
structure BlockRead where
  facts : FileFacts := {}
  last : Option Token := none
  rest : List Line := []

/-- The indentation of the next line that is not a comment. -/
def nextIndent : List Line → Nat
  | [] => 0
  | line :: rest => if line.isComment then nextIndent rest else line.indent

/-- The first line that is not a comment. -/
def firstStatement? (lines : List Line) : Option Line := lines.find? fun line => !line.isComment

/-- Read the lines of a block with the given indentation. The fuel bounds the number of lines. -/
def readBlock (source : List Char) : Nat → Scope → Nat → Compound → Option Token → List Line →
    BlockRead
  | 0, _, _, _, last, rest => { last, rest }
  | _ + 1, _, _, _, last, [] => { last }
  | fuel + 1, scope, indent, chain, last, line :: rest =>
    let lineEnd := (line.trees.getLast?.map Tree.last).or last
    let prepend := fun (facts : FileFacts) (read : BlockRead) =>
      { read with facts := facts ++ read.facts }
    if line.isComment then
      if indent ≤ line.indent || indent ≤ nextIndent rest then
        readBlock source fuel scope indent chain lineEnd rest
      else { last, rest := line :: rest }
    else if line.indent < indent then { last, rest := line :: rest }
    else
      match compoundOf? chain line.trees, cutHeader 0 [] line.trees with
      | some kind, some (header, inline) =>
        let innerScope := if kind = .classDefinition then Scope.classBody else scope
        let body : BlockRead :=
          if inline.isEmpty then
            let inner := nextIndent rest
            if inner ≤ line.indent then { last := lineEnd, rest }
            else readBlock source fuel innerScope inner .covered lineEnd rest
          else { facts := simpleLineFacts source innerScope inline, last := lineEnd, rest }
        let bodyStart :=
          match inline with
          | first :: _ => some first.first.start
          | [] => (firstStatement? rest).bind fun inner =>
              inner.trees.head?.map fun tree => tree.first.start
        let facts :=
          match line.trees, body.last with
          | first :: _, some stop =>
            let span := Span.ofTokens first.first stop
            let name := definedName header
            match kind with
            | .classDefinition =>
              declared .classLike name span none ++ exportPublic scope name span.line ++ body.facts
            | .function =>
              let symbolKind := if scope = .module then SymbolKind.function else .method
              declared symbolKind name span (signature source span bodyStart) ++
                exportPublic scope name span.line
            | .transparent => body.facts
            | .covered => {}
          | _, _ => {}
        prepend facts
          (readBlock source fuel scope indent (chainAfter chain line.trees kind) body.last body.rest)
      | _, _ =>
        prepend (simpleLineFacts source scope line.trees)
          (readBlock source fuel scope indent chain lineEnd rest)

/-- The facts of a source text. -/
def facts (source : String) : FileFacts :=
  let chars := source.toList
  (readBlock chars (chars.length + 1) .module 0 .covered none (lines chars)).facts.sorted

end SourceAtlas.Code.Offside

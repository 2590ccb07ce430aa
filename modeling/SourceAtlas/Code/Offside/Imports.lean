import SourceAtlas.Code.Offside.Lexer
import SourceAtlas.Code.Span
import SourceAtlas.Path.Key

/-!
# Imports of Python source

A relative module becomes a path: one dot is the importer's own directory, each
further dot one directory up.
-/

namespace SourceAtlas.Code.Offside

/-- The specifier of a module: a relative one as a path, any other as it is. Dots alone name the
package itself. -/
def moduleSpecifier (module : String) : String :=
  let dots := (module.toList.takeWhile (· = '.')).length
  if dots = 0 then module
  else
    let lead := if dots = 1 then "./" else Text.repeated (dots - 1) "../"
    let rest := Text.replaceChar '.' "/" (String.ofList (module.toList.drop dots))
    lead ++ if rest = "" then "__init__" else rest

/-- Cut trees at the given mark. -/
def splitAtMark (mark : String) : List Tree → List Tree → List (List Tree)
  | current, [] => [current.reverse]
  | current, tree :: rest =>
    if tree.isMark mark then current.reverse :: splitAtMark mark [] rest
    else splitAtMark mark (tree :: current) rest

/-- The span of some trees. -/
def spanOf? (trees : List Tree) : Option Span :=
  match trees, trees.getLast? with
  | first :: _, some last => some (Span.ofTokens first.first last.last)
  | _, _ => none

/-- The text of some trees. -/
def textOf (source : List Char) (trees : List Tree) : String :=
  match spanOf? trees with
  | some span => span.text source
  | none => ""

/-- The module and the rename of one imported item. -/
def itemParts (source : List Char) (item : List Tree) : String × Option String :=
  let name := item.takeWhile fun tree => !tree.isWord "as"
  let rename := (item.dropWhile fun tree => !tree.isWord "as").drop 1
  (textOf source name, if rename.isEmpty then none else some (textOf source rename))

/-- The facts of `import a.b, c as d`, given what follows the word. -/
def importFacts (source : List Char) (span : Span) (items : List Tree) : FileFacts :=
  FileFacts.concat ((splitAtMark "," [] items).map fun item =>
    match itemParts source item with
    | ("", _) => {}
    | (module, some rename) => imported module [rename] span
    | (module, none) => imported module ((Text.split '.' module).take 1) span)

/-- The facts of `from a.b import c, d as e`, given what follows the first word. -/
def fromFacts (source : List Char) (span : Span) (trees : List Tree) : FileFacts :=
  let module := textOf source (trees.takeWhile fun tree => !tree.isWord "import")
  let items := (trees.dropWhile fun tree => !tree.isWord "import").drop 1
  let items :=
    match items with
    | [list] => if list.isGroup "(" then list.inner else items
    | _ => items
  let names := (splitAtMark "," [] items).filterMap fun item =>
    match itemParts source item with
    | ("", _) => none
    | ("*", _) => none
    | (name, rename) => some (rename.getD name)
  if module = "" ∨ module = "__future__" then {}
  else imported (moduleSpecifier module) names span

end SourceAtlas.Code.Offside

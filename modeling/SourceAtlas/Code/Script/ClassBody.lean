import SourceAtlas.Code.Script.Expression
import SourceAtlas.Code.Span

/-!
# Classes

A class yields its own symbol and one for each method and field. Bodies of
methods and values of fields are not entered.
-/

namespace SourceAtlas.Code.Script

/-- What a reader of source text knows: the text and whether types may be written. -/
structure Source where
  chars : List Char
  typed : Bool

/-- The last token among the trees read between two places, or the given one. -/
def lastRead (fallback : Token) (before after : List Tree) : Token :=
  match (readTrees before after).getLast? with
  | some tree => tree.last
  | none => fallback

/-- The trees behind the name of a decorator: further members and calls. -/
def afterDecoratorName : List Tree → List Tree
  | dot :: name :: rest =>
    if dot.isMark "." && name.isAnyWord then afterDecoratorName rest
    else if dot.isGroup "(" then name :: rest
    else dot :: name :: rest
  | [call] => if call.isGroup "(" then [] else [call]
  | [] => []

/-- The trees behind some decorators. The fuel bounds their number. -/
def skipDecorators : Nat → List Tree → List Tree
  | 0, trees => trees
  | fuel + 1, trees =>
    match trees with
    | mark :: _ :: rest =>
      if mark.isMark "@" then skipDecorators fuel (afterDecoratorName rest) else trees
    | _ => trees

/-- The words that may stand before the name of a member. -/
def memberWords : List String :=
  ["public", "private", "protected", "static", "abstract", "override", "readonly", "declare",
    "async", "accessor", "get", "set"]

/-- Whether a tree can name a member. -/
def isMemberName (tree : Tree) : Bool :=
  match tree with
  | .leaf token => [LexemeKind.word, .text, .number].contains token.kind
  | .group opening _ _ => opening.text = "["

/-- The trees from the name of a member on. A word is a modifier only when a name follows. -/
def skipMemberWords : List Tree → List Tree
  | word :: next :: rest =>
    if word.isMark "*" then skipMemberWords (next :: rest)
    else if memberWords.any word.isWord && (isMemberName next || next.isMark "*") &&
        !(word.isWord "async" && next.first.afterBreak) then
      skipMemberWords (next :: rest)
    else word :: next :: rest
  | other => other

/-- The written name of a member. -/
def memberName (source : Source) (tree : Tree) : String :=
  match tree with
  | .leaf token => token.text
  | .group .. => (Span.ofTree tree).text source.chars

/-- Whether a bracketed name is an index signature: a name with a type. -/
def isIndexSignature (source : Source) (tree : Tree) : Bool :=
  source.typed && tree.isGroup "[" &&
    match tree.inner with
    | name :: mark :: _ => name.isAnyWord && (mark.isMark ":" || mark.isWord "in")
    | _ => false

/-- Whether a method follows the name: parameters, perhaps behind type parameters. -/
def startsParameters (source : Source) (trees : List Tree) : Bool :=
  match trees with
  | tree :: _ => tree.isGroup "(" || (source.typed && tree.isMark "<")
  | [] => false

/-- The trees behind the mark of an optional or definite member. -/
def skipMemberMark (trees : List Tree) : List Tree :=
  match trees with
  | mark :: rest => if mark.isMark "?" || mark.isMark "!" then rest else trees
  | [] => []

/-- The trees behind the value of a field. -/
def skipFieldValue (source : Source) (trees : List Tree) : List Tree :=
  let trees := if source.typed then skipAnnotation trees else trees
  match trees with
  | mark :: rest => if mark.isMark "=" then (expression source.typed rest).2 else trees
  | [] => []

/-- The facts of one member and the trees behind it. In typed source the decorators of a method are
not part of it. -/
def memberFacts (source : Source) (trees : List Tree) : FileFacts × List Tree :=
  let plain := skipDecorators trees.length trees
  match trees, plain, skipMemberWords plain with
  | first :: _, head :: _, name :: behind =>
    if !isMemberName name then ({}, plain.drop 1)
    else if isIndexSignature source name then ({}, skipFieldValue source behind)
    else
      let behind := skipMemberMark behind
      let label := memberName source name
      if startsParameters source behind then
        let start := if source.typed then head.first else first.first
        let bodyAhead := afterFunction source.typed behind
        let rest := afterBody bodyAhead
        let span := Span.ofTokens start (lastRead name.last trees rest)
        let bodyStart := if rest.length < bodyAhead.length then
            bodyAhead.head?.map fun body => body.first.start
          else none
        (declared .method label span (signature source.chars span bodyStart), rest)
      else
        let rest := skipFieldValue source behind
        (declared .property label (Span.ofTokens first.first (lastRead name.last trees rest)) none,
          rest)
  | _, _, _ => ({}, plain.drop 1)

/-- The facts of the members of a class. The fuel bounds their number. -/
def membersFacts (source : Source) : Nat → List Tree → FileFacts
  | 0, _ => {}
  | _ + 1, [] => {}
  | fuel + 1, tree :: rest =>
    if tree.isMark ";" || tree.isMark "," then membersFacts source fuel rest
    else
      match tree.isWord "static", rest with
      | true, block :: behind =>
        if block.isGroup "\x7b" then membersFacts source fuel behind
        else
          let (facts, left) := memberFacts source (tree :: rest)
          facts ++ membersFacts source fuel left
      | _, _ =>
        let (facts, left) := memberFacts source (tree :: rest)
        facts ++ membersFacts source fuel left

/-- The name behind the keyword of a class, empty when there is none. -/
def className (trees : List Tree) : String :=
  match (trees.dropWhile fun tree => !tree.isWord "class").drop 1 with
  | name :: _ =>
    if name.isAnyWord && !name.isWord "extends" && !name.isWord "implements" then name.word else ""
  | [] => ""

/-- The facts of a class that starts at a token, given its trees from the keyword on. -/
def classFacts (source : Source) (start : Token) (trees : List Tree) : FileFacts × List Tree :=
  match classBody? (trees.length + 1) trees with
  | some (body, rest) =>
    (declared .classLike (className trees) (Span.ofTokens start body.last) none ++
      membersFacts source (2 * body.inner.length + 1) body.inner, rest)
  | none => ({}, [])

end SourceAtlas.Code.Script

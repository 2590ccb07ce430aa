import SourceAtlas.Code.Script.Lexer
import SourceAtlas.Code.Script.Linkage

/-!
# Statements

The facts of a file come from its statements outside of blocks and functions,
and from the classes inside of their expressions. A statement under a condition,
in a loop or behind a label counts when it is not in braces.
-/

namespace SourceAtlas.Code.Script

/-- The words that end without an operand and stand alone. -/
def jumpWords : List String := ["break", "continue", "debugger"]

/-- Whether the last clause of a loop header is divided by semicolons. -/
def hasSemicolon (trees : List Tree) : Bool := trees.any fun tree => tree.isMark ";"

mutual

/-- The facts of the classes in some pieces of an expression. -/
def piecesFacts (source : Source) : Nat → List Piece → FileFacts
  | 0, _ => {}
  | _ + 1, [] => {}
  | fuel + 1, piece :: rest =>
    (match piece with
      | .tree tree => groupFacts source fuel tree
      | .function => {}
      | .classLike trees =>
        match trees with
        | first :: _ => (classFacts source first.first trees).1
        | [] => {}) ++ piecesFacts source fuel rest

/-- The facts of the classes inside of a bracketed part of an expression. -/
def groupFacts (source : Source) : Nat → Tree → FileFacts
  | 0, _ => {}
  | _ + 1, .leaf _ => {}
  | fuel + 1, .group opening inner _ =>
    if opening.text = "\x7b" then objectFacts source fuel inner
    else if opening.text = "\x60" || opening.text = "<" then markupFacts source fuel inner
    else listFacts source fuel inner

/-- The facts of the classes in the expressions embedded in a template or in markup. -/
def markupFacts (source : Source) : Nat → List Tree → FileFacts
  | 0, _ => {}
  | _ + 1, [] => {}
  | fuel + 1, tree :: rest =>
    (if tree.isGroup "<" then groupFacts source fuel tree else listFacts source fuel tree.inner) ++
      markupFacts source fuel rest

/-- The facts of the classes in a list of expressions. -/
def listFacts (source : Source) : Nat → List Tree → FileFacts
  | 0, _ => {}
  | _ + 1, [] => {}
  | fuel + 1, tree :: rest =>
    let (pieces, left) := expression source.typed (tree :: rest)
    piecesFacts source fuel pieces ++
      listFacts source fuel (if left.length < (tree :: rest).length then left else rest)

/-- The facts of the classes in the values of an object literal. -/
def objectFacts (source : Source) : Nat → List Tree → FileFacts
  | 0, _ => {}
  | _ + 1, [] => {}
  | fuel + 1, tree :: rest =>
    if tree.isMark "," then objectFacts source fuel rest
    else
      match skipMemberWords (tree :: rest) with
      | [] => {}
      | name :: behind =>
        if isMemberName name && startsParameters source behind then
          objectFacts source fuel (afterBody (afterFunction source.typed behind))
        else
          let value :=
            match behind with
            | colon :: value =>
              if isMemberName name && (colon.isMark ":" || colon.isMark "=") then value
              else tree :: rest
            | [] => tree :: rest
          let (pieces, left) := expression source.typed value
          piecesFacts source fuel pieces ++
            objectFacts source fuel (if left.length < (tree :: rest).length then left else rest)

end

/-- The facts of the classes in an expression statement, which may hold several expressions, and
the trees behind it. -/
def expressionFacts (source : Source) : Nat → List Tree → FileFacts × List Tree
  | 0, trees => ({}, trees.drop 1)
  | fuel + 1, trees =>
    let (pieces, left) := expression source.typed trees
    let facts := piecesFacts source (fuel + 1) pieces
    match left with
    | mark :: rest =>
      if mark.isMark "," then
        let (more, behind) := expressionFacts source fuel rest
        (facts ++ more, behind)
      else if mark.isMark ";" then (facts, rest)
      else if left.length < trees.length then (facts, left)
      else (facts, rest)
    | [] => (facts, [])

/-- The facts of the header of a loop. Only a header with semicolons declares variables. -/
def loopHeaderFacts (source : Source) (fuel : Nat) (header : List Tree) : FileFacts :=
  match header with
  | first :: _ =>
    if hasSemicolon header then
      match declaration? source first.first header with
      | some found => found.facts ++ listFacts source fuel found.rest
      | none => listFacts source fuel header
    else listFacts source fuel ((header.dropWhile fun tree => !binaryWords.any tree.isWord).drop 1)
  | [] => {}

mutual

/-- The facts of one statement and the trees behind it. -/
def statementFacts (source : Source) : Nat → List Tree → FileFacts × List Tree
  | 0, trees => ({}, trees.drop 1)
  | _ + 1, [] => ({}, [])
  | fuel + 1, first :: rest =>
    let trees := first :: rest
    let joined := fun (facts : FileFacts) (read : FileFacts × List Tree) =>
      (facts ++ read.1, read.2)
    let headed := fun (behind : List Tree) =>
      match behind with
      | header :: body =>
        if header.isGroup "(" then
          joined (listFacts source fuel header.inner) (statementFacts source fuel body)
        else ({}, behind)
      | [] => ({}, [])
    if first.isMark ";" || first.isGroup "\x7b" then ({}, rest)
    else if first.isMark "@" then
      let plain := skipDecorators trees.length trees
      match plain with
      | word :: behind =>
        if word.isWord "export" then exportFacts source first.first behind
        else
          match declaration? source first.first plain with
          | some found => (found.facts, found.rest)
          | none => ({}, behind)
      | [] => ({}, [])
    else if first.isWord "import" && !(rest.head?.any fun next => next.isGroup "(" || next.isMark ".")
    then importFacts source first rest
    else if first.isWord "export" then exportFacts source first.first rest
    else
      match declaration? source first.first trees with
      | some found => (found.facts, found.rest)
      | none =>
        if first.isWord "if" then
          let (facts, behind) := headed rest
          match behind with
          | word :: other =>
            if word.isWord "else" then joined facts (statementFacts source fuel other)
            else (facts, behind)
          | [] => (facts, [])
        else if first.isWord "while" || first.isWord "with" then headed rest
        else if first.isWord "for" then
          let behind := rest.dropWhile fun tree => tree.isWord "await"
          match behind with
          | header :: body =>
            joined (loopHeaderFacts source fuel header.inner) (statementFacts source fuel body)
          | [] => ({}, [])
        else if first.isWord "do" then
          let (facts, behind) := statementFacts source fuel rest
          match behind with
          | _ :: header :: left =>
            (facts ++ listFacts source fuel header.inner,
              match left with
              | mark :: more => if mark.isMark ";" then more else left
              | [] => [])
          | _ => (facts, [])
        else if first.isWord "switch" then
          match rest with
          | header :: body :: behind =>
            (listFacts source fuel header.inner ++ casesFacts source fuel body.inner, behind)
          | _ => ({}, [])
        else if first.isWord "try" then
          ({}, rest.dropWhile fun tree =>
            tree.isGroup "\x7b" || tree.isGroup "(" || tree.isWord "catch" ||
              tree.isWord "finally")
        else if first.isWord "return" || first.isWord "throw" then
          expressionFacts source fuel rest
        else if jumpWords.any first.isWord then
          match rest with
          | label :: behind =>
            if label.isAnyWord && !label.first.afterBreak then ({}, behind) else ({}, rest)
          | [] => ({}, [])
        else
          match first.isAnyWord, rest with
          | true, colon :: behind =>
            if colon.isMark ":" then statementFacts source fuel behind
            else expressionFacts source fuel trees
          | _, _ => expressionFacts source fuel trees

/-- The facts of the clauses of a switch. -/
def casesFacts (source : Source) : Nat → List Tree → FileFacts
  | 0, _ => {}
  | _ + 1, [] => {}
  | fuel + 1, first :: rest =>
    if first.isWord "case" then
      let (pieces, behind) := expression source.typed rest
      piecesFacts source fuel pieces ++ casesFacts source fuel (behind.drop 1)
    else if first.isWord "default" && (rest.head?.any fun next => next.isMark ":") then
      casesFacts source fuel (rest.drop 1)
    else
      let (facts, behind) := statementFacts source fuel (first :: rest)
      facts ++ casesFacts source fuel behind

end

/-- The facts of a list of statements. The fuel bounds their number. -/
def statementsFacts (source : Source) : Nat → List Tree → FileFacts
  | 0, _ => {}
  | _ + 1, [] => {}
  | fuel + 1, first :: rest =>
    let (facts, behind) := statementFacts source fuel (first :: rest)
    facts ++ statementsFacts source fuel behind

/-- The facts of a source text: those of its statements, then the modules that calls load. -/
def facts (dialect : Dialect) (text : String) : FileFacts :=
  let chars := text.toList
  let source := { chars, typed := dialect.typed : Source }
  let all := trees dialect chars
  (statementsFacts source (chars.length + 1) all ++
    { imports := loadsOfTrees dialect.typed none 0 all }).sorted

end SourceAtlas.Code.Script

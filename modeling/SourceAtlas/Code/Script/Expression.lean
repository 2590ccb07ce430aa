import SourceAtlas.Code.Script.TypeExtent

/-!
# Extents of expressions

An expression alternates between operands and operators. Reading it finds where
it ends, at a comma, a semicolon or a line break that ends a statement, and
tells apart the pieces that facts can hide in: functions, which are not entered,
classes, and everything else.
-/

namespace SourceAtlas.Code.Script

/-- The pieces of an expression. -/
inductive Piece where
  | tree (tree : Tree)
  /-- A function with all its parts. -/
  | function
  /-- A class from its first to its last tree. -/
  | classLike (trees : List Tree)

/-- The words that stand before an operand. -/
def unaryWords : List String := ["typeof", "void", "delete", "new", "await", "yield"]

/-- The words that stand between operands. -/
def binaryWords : List String := ["in", "instanceof", "of"]

/-- The trees that were read between two places of a list. -/
def readTrees (before after : List Tree) : List Tree :=
  before.take (before.length - after.length)

/-- Whether a tree at the start of a line continues the expression above it. -/
def continuesLine (tree : Tree) : Bool :=
  match tree with
  | .leaf token =>
    (token.kind = .mark && !(["++", "--", "!", "~", "@", "..."].contains token.text)) ||
      (token.kind = .word && binaryWords.contains token.text)
  | .group opening _ _ => ["(", "[", "\x60"].contains opening.text

/-- The trees behind the head of an arrow function, its arrow included, when one stands ahead. A
head is a name or a parenthesised list, in typed code also with type parameters and a result
type; `inCondition` rules the result type out. -/
def afterArrow? (typed inCondition : Bool) (trees : List Tree) : Option (List Tree) :=
  let plain :=
    match trees with
    | first :: second :: rest =>
      if first.isWord "async" && !second.first.afterBreak &&
          (second.isAnyWord || second.isGroup "(" || second.isMark "<") then second :: rest
      else first :: second :: rest
    | other => other
  let head := if typed then skipAngles plain else plain
  match head with
  | first :: arrow :: rest =>
    if arrow.isMark "=>" && (first.isAnyWord || first.isGroup "(") then some rest
    else if typed && !inCondition && first.isGroup "(" && arrow.isMark ":" then
      match skipType rest with
      | arrow :: rest => if arrow.isMark "=>" then some rest else none
      | [] => none
    else none
  | _ => none

/-- The trees behind a function expression or declaration from its keyword on: the parameters, the
result type and the body, if there is one. -/
def afterFunction (typed : Bool) (trees : List Tree) : List Tree :=
  let named := trees.dropWhile fun tree => tree.isMark "*" || tree.isAnyWord
  let parameters := if typed then skipAngles named else named
  match parameters with
  | list :: rest =>
    if list.isGroup "(" then if typed then skipAnnotation rest else rest else parameters
  | [] => []

/-- The trees behind a body in braces, when one stands ahead. -/
def afterBody (trees : List Tree) : List Tree :=
  match trees with
  | body :: rest => if body.isGroup "\x7b" then rest else trees
  | [] => []

/-- The body of a class: the first group in braces behind its header, with the trees behind it. -/
def classBody? : Nat → List Tree → Option (Tree × List Tree)
  | 0, _ => none
  | _ + 1, [] => none
  | fuel + 1, tree :: rest =>
    if tree.isMark "<" then
      match closeAngles? 1 rest with
      | some behind => classBody? fuel behind
      | none => classBody? fuel rest
    else if tree.isGroup "\x7b" then some (tree, rest)
    else classBody? fuel rest

/-- Whether what follows a list of types in an expression shows that it was one. -/
def followsTypes : List Tree → Bool
  | [] => true
  | tree :: _ =>
    tree.first.afterBreak || tree.isGroup "(" || tree.isGroup "\x60" ||
      [",", ";", ".", "?.", ":", "?", "=", "==", "===", "!=", "!==", "&&", "||", "??", "|", "&"].any
        tree.isMark

/-- Whether a function keyword stands ahead, perhaps behind `async`. -/
def startsFunction : List Tree → Bool
  | first :: second :: _ =>
    first.isWord "function" ||
      (first.isWord "async" && second.isWord "function" && !second.first.afterBreak)
  | [first] => first.isWord "function"
  | [] => false

/-- Read an expression up to a comma or its end. `due` says that an operand is due, `conditions`
counts the conditionals whose alternative is still to come. Gives the pieces, first one first, and
the trees behind. The fuel bounds the number of steps. -/
def readExpression (typed : Bool) : Nat → Bool → Nat → List Tree → List Piece × List Tree
  | 0, _, _, trees => ([], trees)
  | _ + 1, _, _, [] => ([], [])
  | fuel + 1, true, conditions, tree :: rest =>
    let push := fun (piece : Piece) (read : List Piece × List Tree) => (piece :: read.1, read.2)
    if [",", ";", ":"].any tree.isMark then ([], tree :: rest)
    else if startsFunction (tree :: rest) then
      let behind := afterBody (afterFunction typed (tree :: rest))
      push .function (readExpression typed fuel false conditions behind)
    else if tree.isWord "class" then
      match classBody? fuel rest with
      | some (_, behind) =>
        push (.classLike (readTrees (tree :: rest) behind))
          (readExpression typed fuel false conditions behind)
      | none => ([], [])
    else
      match afterArrow? typed (0 < conditions) (tree :: rest) with
      | some body =>
        match body with
        | block :: behind =>
          if block.isGroup "\x7b" then
            push .function (readExpression typed fuel false conditions behind)
          else
            let (_, behind) := readExpression typed fuel true 0 body
            push .function (readExpression typed fuel false conditions behind)
        | [] => ([.function], [])
      | none =>
        match tree with
        | .group .. => push (.tree tree) (readExpression typed fuel false conditions rest)
        | .leaf token =>
          if token.kind = .mark then
            if typed && token.text = "<" then
              let behind := (closeAngles? 1 rest).getD rest
              readExpression typed fuel true conditions behind
            else readExpression typed fuel true conditions rest
          else
            let due := token.kind = .word && unaryWords.contains token.text
            readExpression typed fuel due conditions rest
  | fuel + 1, false, conditions, tree :: rest =>
    let push := fun (piece : Piece) (read : List Piece × List Tree) => (piece :: read.1, read.2)
    if tree.first.afterBreak && !continuesLine tree then ([], tree :: rest)
    else
      match tree with
      | .group opening _ _ =>
        if ["(", "[", "\x60"].contains opening.text then
          push (.tree tree) (readExpression typed fuel false conditions rest)
        else ([], tree :: rest)
      | .leaf token =>
        if token.kind = .word then
          if typed && (token.text = "as" || token.text = "satisfies") then
            readExpression typed fuel false conditions (skipType rest)
          else if binaryWords.contains token.text then
            readExpression typed fuel true conditions rest
          else ([], tree :: rest)
        else if token.kind ≠ .mark then ([], tree :: rest)
        else if [",", ";"].contains token.text then ([], tree :: rest)
        else if token.text = "." || token.text = "?." then
          match rest with
          | name :: behind =>
            if name.isAnyWord then readExpression typed fuel false conditions behind
            else readExpression typed fuel false conditions rest
          | [] => ([], [])
        else if token.text = "++" || token.text = "--" then
          readExpression typed fuel false conditions rest
        else if typed && token.text = "!" then
          readExpression typed fuel false conditions rest
        else if typed && token.text = "<" then
          match closeAngles? 1 rest with
          | some behind =>
            if followsTypes behind then readExpression typed fuel false conditions behind
            else readExpression typed fuel true conditions rest
          | none => readExpression typed fuel true conditions rest
        else if token.text = "?" then readExpression typed fuel true (conditions + 1) rest
        else if token.text = ":" then
          match conditions with
          | 0 => ([], tree :: rest)
          | conditions + 1 => readExpression typed fuel true conditions rest
        else readExpression typed fuel true conditions rest

/-- Read an expression up to a comma or its end. -/
def expression (typed : Bool) (trees : List Tree) : List Piece × List Tree :=
  readExpression typed (2 * trees.length + 2) true 0 trees

end SourceAtlas.Code.Script

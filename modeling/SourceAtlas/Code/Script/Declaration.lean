import SourceAtlas.Code.Script.ClassBody

/-!
# Declarations

Functions, classes, variables and, in typed source, interfaces, type aliases,
enumerations, namespaces and ambient declarations. A declaration tells its facts
and the names that exporting it would export.
-/

namespace SourceAtlas.Code.Script

/-- A declaration that was read. -/
structure Declared where
  facts : FileFacts := {}
  /-- The names it exports when it is exported. -/
  names : List String := []
  rest : List Tree

/-- The last token of a statement that ends with a semicolon or a line break, and the trees behind
it. Comments on the line belong to a statement without a semicolon. -/
def statementEnd (last : Token) (trees : List Tree) : Token × List Tree :=
  let tailed := { last with stop := last.tailStop, lastLine := last.tailLine }
  match trees with
  | mark :: rest => if mark.isMark ";" then (mark.last, rest) else (tailed, trees)
  | [] => (tailed, [])

/-- The name behind the keyword of a function. -/
def functionName (trees : List Tree) : String :=
  let behind := (trees.dropWhile fun tree => !tree.isWord "function").drop 1
  match behind.dropWhile fun tree => tree.isMark "*" with
  | name :: _ => if name.isAnyWord then name.word else ""
  | [] => ""

/-- Whether a function is a generator. -/
def isGenerator (trees : List Tree) : Bool :=
  match (trees.dropWhile fun tree => !tree.isWord "function").drop 1 with
  | mark :: _ => mark.isMark "*"
  | [] => false

/-- Read a function declaration. One without a body only announces a name. -/
def readFunction (source : Source) (trees : List Tree) : Declared :=
  let name := functionName trees
  match trees, afterFunction source.typed trees with
  | first :: _, body :: rest =>
    if body.isGroup "\x7b" then
      let span := Span.ofTokens first.first body.last
      { facts := declared .function name span
          (signature source.chars span (some body.first.start))
        names := [name], rest }
    else { names := [name], rest := (statementEnd first.last (body :: rest)).2 }
  | _, rest => { names := [name], rest }

/-- Read a class declaration that starts at a token. -/
def readClass (source : Source) (start : Token) (trees : List Tree) : Declared :=
  let (facts, rest) := classFacts source start trees
  { facts, names := [className trees], rest }

/-- One variable of a declaration. -/
structure Variable where
  /-- Empty for a pattern. -/
  name : String
  isFunction : Bool

/-- Whether a value is a function and nothing else, given the trees behind the value. -/
def isFunctionValue (source : Source) (value rest : List Tree) : Bool :=
  if startsFunction value then
    !isGenerator value &&
      (afterBody (afterFunction source.typed value)).length = rest.length
  else (afterArrow? source.typed false value).isSome

/-- Read the variables of a declaration behind its keyword. The fuel bounds their number. -/
def readVariables (source : Source) : Nat → List Tree → List Variable × List Tree
  | 0, trees => ([], trees)
  | _ + 1, [] => ([], [])
  | fuel + 1, target :: behind =>
    let name := if target.isAnyWord then target.word else ""
    let typed := if source.typed then skipAnnotation (skipMemberMark behind) else behind
    let (isFunction, rest) :=
      match typed with
      | mark :: value =>
        if mark.isMark "=" then
          let rest := (expression source.typed value).2
          (isFunctionValue source value rest, rest)
        else (false, typed)
      | [] => (false, [])
    match rest with
    | comma :: more =>
      if comma.isMark "," then
        let (others, left) := readVariables source fuel more
        (⟨name, isFunction⟩ :: others, left)
      else ([⟨name, isFunction⟩], rest)
    | [] => ([⟨name, isFunction⟩], [])

/-- Read a variable declaration. The whole declaration is the header of each function in it. -/
def readVariableDeclaration (source : Source) (keyword : Tree) (trees : List Tree) : Declared :=
  let (bound, behind) := readVariables source (trees.length + 1) trees
  let (last, rest) := statementEnd (lastRead keyword.last trees behind) behind
  let span := Span.ofTokens keyword.first last
  let named := bound.filter (·.name ≠ "")
  { facts := FileFacts.concat (named.map fun target =>
      if target.isFunction then
        declared .function target.name span (signature source.chars span none)
      else declared .variable target.name span none)
    names := named.map (·.name), rest }

/-- Read a declaration that has a name and a body in braces. -/
def readBraced (kind : SymbolKind) (start : Token) (name : Tree) (trees : List Tree) : Declared :=
  match classBody? (trees.length + 1) trees with
  | some (body, rest) =>
    { facts := declared kind name.word (Span.ofTokens start body.last) none
      names := [name.word], rest }
  | none => { rest := [] }

/-- Read a type alias behind its name. -/
def readAlias (start : Token) (name : Tree) (trees : List Tree) : Declared :=
  let behind :=
    match skipAngles trees with
    | mark :: value => if mark.isMark "=" then skipType value else mark :: value
    | [] => []
  let (last, rest) := statementEnd (lastRead name.last trees behind) behind
  { facts := declared .interface name.word (Span.ofTokens start last) none
    names := [name.word], rest }

/-- Read a namespace behind its keyword. Its body is not entered. -/
def readNamespace (source : Source) (trees : List Tree) : Declared :=
  let title := trees.takeWhile fun tree =>
    tree.isAnyWord || tree.isText || tree.isMark "."
  let name :=
    match title, title.getLast? with
    | first :: _, some last => (Span.ofTokens first.first last.last).text source.chars
    | _, _ => ""
  { names := [name], rest := afterBody (trees.drop title.length) }

/-- Whether a word on the same line as the next tree starts a declaration of typed source. -/
def startsTyped (source : Source) (word : String) (trees : List Tree) : Bool :=
  match trees with
  | first :: next :: _ =>
    source.typed && first.isWord word && !next.first.afterBreak &&
      (next.isAnyWord || (word = "module" && next.isText))
  | _ => false

/-- Whether a type alias stands ahead. -/
def startsAlias (source : Source) (trees : List Tree) : Bool :=
  startsTyped source "type" trees &&
    match trees with
    | _ :: _ :: mark :: _ => mark.isMark "=" || mark.isMark "<"
    | _ => false

/-- Read a declaration, when one stands ahead. `start` is the token where a class among them
starts. The fuel bounds the number of leading words. -/
def readDeclaration? (source : Source) : Nat → Token → List Tree → Option Declared
  | 0, _, _ => none
  | _ + 1, _, [] => none
  | fuel + 1, start, first :: rest =>
    let trees := first :: rest
    if startsFunction trees then some (readFunction source trees)
    else if first.isWord "class" then some (readClass source start trees)
    else if startsTyped source "abstract" trees then
      match rest with
      | next :: _ => if next.isWord "class" then some (readClass source start trees) else none
      | [] => none
    else if first.isWord "const" || first.isWord "let" || first.isWord "var" then
      match rest with
      | next :: behind =>
        if source.typed && first.isWord "const" && next.isWord "enum" then
          match behind with
          | name :: body => some (readBraced .classLike first.first name body)
          | [] => none
        else if next.isAnyWord || next.isGroup "[" || next.isGroup "\x7b" then
          some (readVariableDeclaration source first rest)
        else none
      | [] => none
    else if startsTyped source "enum" trees then
      rest.head?.map fun name => readBraced .classLike first.first name (rest.drop 1)
    else if startsTyped source "interface" trees then
      rest.head?.map fun name => readBraced .interface first.first name (rest.drop 1)
    else if startsAlias source trees then
      rest.head?.map fun name => readAlias first.first name (rest.drop 1)
    else if startsTyped source "namespace" trees || startsTyped source "module" trees then
      some (readNamespace source rest)
    else if startsTyped source "declare" trees then
      match rest with
      | next :: behind =>
        if next.isWord "global" then some { rest := afterBody behind }
        else
          match readDeclaration? source fuel next.first rest with
          | some inner => some { inner with names := [] }
          | none => none
      | [] => none
    else none

/-- Read a declaration, when one stands ahead. -/
def declaration? (source : Source) (start : Token) (trees : List Tree) : Option Declared :=
  readDeclaration? source 3 start trees

end SourceAtlas.Code.Script

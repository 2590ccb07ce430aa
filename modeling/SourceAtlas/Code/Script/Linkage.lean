import SourceAtlas.Code.Script.Declaration

/-!
# Imports and exports

Import and export statements, and the calls that load a module while the program
runs.
-/

namespace SourceAtlas.Code.Script

/-- Cut trees at commas. -/
def splitAtCommas : List Tree → List Tree → List (List Tree)
  | current, [] => [current.reverse]
  | current, tree :: rest =>
    if tree.isMark "," then current.reverse :: splitAtCommas [] rest
    else splitAtCommas (tree :: current) rest

/-- The name that an item of an import or export list makes known: its rename or its name. A leading
`type` is passed over when a name follows. -/
def itemName? (typed : Bool) (item : List Tree) : Option String :=
  let item :=
    match item with
    | lead :: next :: rest =>
      if typed && (lead.isWord "type" || lead.isWord "typeof") && !next.isWord "as" then
        next :: rest
      else lead :: next :: rest
    | other => other
  match item with
  | [name] => some name.word
  | [_, _, rename] => some rename.word
  | _ => none

/-- The names of an import or export list. -/
def listNames (typed : Bool) (list : Tree) : List String :=
  (splitAtCommas [] list.inner).filterMap (itemName? typed)

/-- The names bound by the clause of an import statement. -/
def clauseNames (typed : Bool) (clause : List Tree) : List String :=
  (splitAtCommas [] clause).flatMap fun part =>
    match part with
    | [name] => if name.isGroup "\x7b" then listNames typed name else [name.word]
    | [star, _, name] => if star.isMark "*" then [name.word] else []
    | _ => []

/-- The trees of an import clause: a leading `type` is passed over when a clause follows. -/
def dropTypeWord (typed : Bool) (trees : List Tree) : List Tree :=
  match trees with
  | lead :: next :: behind =>
    if typed && (lead.isWord "type" || lead.isWord "typeof") &&
        (next.isGroup "\x7b" || next.isMark "*" ||
          (next.isAnyWord && (!next.isWord "from" || (behind.head?.any (·.isWord "from"))))) then
      next :: behind
    else trees
  | _ => trees

/-- The trees behind import attributes, when they stand ahead. -/
def skipAttributes (trees : List Tree) : List Tree :=
  match trees with
  | word :: list :: rest =>
    if (word.isWord "with" || word.isWord "assert") && list.isGroup "\x7b" then rest else trees
  | _ => trees

/-- Whether attributes stand ahead. -/
def hasAttributes (trees : List Tree) : Bool := (skipAttributes trees).length < trees.length

/-- The facts of an import statement behind its keyword. An import by assignment has none. -/
def importFacts (source : Source) (keyword : Tree) (trees : List Tree) : FileFacts × List Tree :=
  let plain := dropTypeWord source.typed trees
  let clause := plain.takeWhile fun tree =>
    !tree.isText && !tree.isWord "from" && !tree.isMark "=" && !tree.isMark ";"
  match plain.drop clause.length with
  | mark :: behind =>
    let finish := fun (text : Tree) (rest : List Tree) =>
      let rest := skipAttributes rest
      let (last, left) := statementEnd (lastRead text.last trees rest) rest
      (imported (withoutQuotes text.word) (clauseNames source.typed clause)
        (Span.ofTokens keyword.first last), left)
    if mark.isText then finish mark behind
    else if mark.isWord "from" then
      match behind with
      | text :: rest =>
        if text.isText then finish text rest else ({}, behind)
      | [] => ({}, [])
    else if mark.isMark "=" then
      ({}, (statementEnd mark.last (expression source.typed behind).2).2)
    else ({}, behind)
  | [] => ({}, [])

/-- The facts of a list that is exported from a line, and perhaps from another module. -/
def exportListFacts (line : Nat) (names : List String) (trees : List Tree) :
    FileFacts × List Tree :=
  let exports := FileFacts.concat (names.map fun name => exported name line)
  match trees with
  | word :: text :: rest =>
    if word.isWord "from" && text.isText then
      if hasAttributes rest then ({}, (statementEnd text.last (skipAttributes rest)).2)
      else
        let import_ : ImportFact :=
          { source := withoutQuotes text.word, specifiers := names, line }
        ({ imports := [import_] } ++ exports, (statementEnd text.last rest).2)
    else (exports, (statementEnd word.last trees).2)
  | _ => (exports, match trees with
    | mark :: rest => if mark.isMark ";" then rest else trees
    | [] => [])

/-- Whether the trees start a declaration that a default export may be. -/
def declaresByDefault (source : Source) (trees : List Tree) : Bool :=
  match trees with
  | first :: _ =>
    (startsFunction trees && functionName trees ≠ "") ||
      ((first.isWord "class" || startsTyped source "abstract" trees) && className trees ≠ "") ||
      startsTyped source "interface" trees
  | [] => false

/-- The facts of a default export behind the word `default`. -/
def defaultFacts (source : Source) (line : Nat) (trees : List Tree) : FileFacts × List Tree :=
  let plain := skipDecorators trees.length trees
  let (facts, rest) :=
    match trees, plain with
    | start :: _, first :: _ =>
      match declaresByDefault source plain, declaration? source start.first plain with
      | true, some found =>
        (found.facts ++ FileFacts.concat (found.names.map fun name => exported name line),
          found.rest)
      | _, _ =>
        if first.isWord "class" then classFacts source start.first plain
        else
          let behind := (expression source.typed plain).2
          ({}, (statementEnd first.last behind).2)
    | _, _ => ({}, [])
  (facts ++ exported "default" line, rest)

/-- The facts of an export statement that starts at a token, behind its keyword. -/
def exportFacts (source : Source) (start : Token) (trees : List Tree) :
    FileFacts × List Tree :=
  let line := start.line
  let plain := match trees with
    | lead :: next :: rest =>
      if source.typed && lead.isWord "type" && (next.isGroup "\x7b" || next.isMark "*") then
        next :: rest
      else trees
    | _ => trees
  match plain with
  | [] => ({}, [])
  | first :: rest =>
    if first.isMark "*" then
      let behind := match rest with
        | word :: _ :: behind => if word.isWord "as" then behind else rest
        | _ => rest
      exportListFacts line [] behind
    else if first.isGroup "\x7b" then
      exportListFacts line (listNames source.typed first) rest
    else if first.isWord "default" then defaultFacts source line rest
    else if first.isMark "=" then ({}, (statementEnd first.last (expression source.typed rest).2).2)
    else if first.isWord "as" then ({}, (statementEnd first.last (rest.drop 2)).2)
    else if first.isWord "import" then ({}, (importFacts source first rest).2)
    else
      let inner := skipDecorators plain.length plain
      match declaration? source first.first inner with
      | some found =>
        (found.facts ++ FileFacts.concat (found.names.map fun name => exported name line),
          found.rest)
      | none => ({}, rest)

/-- Whether the arguments of a call start with a string literal and nothing else stands in its
place. -/
def literalArgument? (arguments : Tree) : Option String :=
  match arguments.inner with
  | [text] => if text.isText && !text.first.afterComment then some text.word else none
  | text :: comma :: _ =>
    if text.isText && comma.isMark "," && !text.first.afterComment then some text.word else none
  | [] => none

/-- The arguments of a call behind its callee. -/
def callArguments? (typed : Bool) (trees : List Tree) : Option Tree :=
  let behind :=
    match trees with
    | mark :: rest => if mark.isMark "?." then rest else trees
    | [] => []
  match if typed then skipAngles behind else behind with
  | list :: _ => if list.isGroup "(" then some list else none
  | [] => none

/-- Whether the tree before a name makes it something else than a function that is called. -/
def hidesCallee (before : Option Tree) : Bool :=
  before.any fun tree => tree.isMark "." || tree.isMark "?." || tree.isWord "new"

/-- Whether an import by assignment stands ahead; its words are not a call. -/
def importsByAssignment (trees : List Tree) : Bool :=
  match trees with
  | word :: name :: equals :: _ =>
    word.isWord "import" && name.isAnyWord &&
      (equals.isMark "=" || (name.isWord "type" && equals.isAnyWord))
  | _ => false

mutual

/-- The modules that a tree loads with calls. -/
def loadsOfTree (typed : Bool) : Tree → List ImportFact
  | .leaf _ => []
  | .group _ inner _ => loadsOfTrees typed none 0 inner

/-- The modules that trees load with calls, in order. `passed` counts the trees ahead that are
words of another statement. -/
def loadsOfTrees (typed : Bool) (before : Option Tree) (passed : Nat) :
    List Tree → List ImportFact
  | [] => []
  | tree :: rest =>
    let own :=
      match passed, (tree.isWord "require" || tree.isWord "import") && !hidesCallee before,
          (callArguments? typed rest).bind literalArgument? with
      | 0, true, some text =>
        [{ source := withoutQuotes text, specifiers := [], line := tree.first.line : ImportFact }]
      | _, _, _ => []
    let next := if importsByAssignment (tree :: rest) then 4 else passed - 1
    own ++ loadsOfTree typed tree ++ loadsOfTrees typed (some tree) next rest

end

end SourceAtlas.Code.Script

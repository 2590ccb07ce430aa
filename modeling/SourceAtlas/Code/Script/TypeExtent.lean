import SourceAtlas.Code.Token

/-!
# Extents of types

Types carry no facts; what matters is where they end. A type alternates between
operands (names, literals, bracketed parts) and operators (unions, member
access, arrows, conditions) and ends where neither follows.
-/

namespace SourceAtlas.Code.Script

/-- The marks that cannot stand between angle brackets of types. -/
def nonTypeMarks : List String :=
  [";", "&&", "||", "==", "===", "!=", "!==", "+", "*", "/", "++", "--", "??", "<=", "%", "^", "~",
    "!", "+=", "-=", "**"]

/-- The trees behind the closing angle bracket that matches `depth` open ones. -/
def closeAngles? : Nat → List Tree → Option (List Tree)
  | _, [] => none
  | depth, tree :: rest =>
    if tree.isMark "<" then closeAngles? (depth + 1) rest
    else if tree.isMark ">" then
      if depth ≤ 1 then some rest else closeAngles? (depth - 1) rest
    else if nonTypeMarks.any tree.isMark then none
    else closeAngles? depth rest

/-- The trees behind a list of types or type parameters, when one stands ahead. -/
def skipAngles (trees : List Tree) : List Tree :=
  match trees with
  | open_ :: rest => if open_.isMark "<" then (closeAngles? 1 rest).getD trees else trees
  | [] => []

/-- The words that stand before a type. -/
def typeLeadWords : List String :=
  ["keyof", "typeof", "unique", "readonly", "infer", "asserts", "new", "abstract"]

/-- Whether a tree can only follow a leading word, not be one's continuation: the leading word is
then a name itself. -/
def endsTypeName (tree : Tree) : Bool :=
  [";", ",", "=", ">", "|", "&", "=>", ":", "?", "."].any tree.isMark

/-- Whether a parenthesised part of a type is a list of parameters. -/
def isParameterList (inner : List Tree) : Bool :=
  match inner with
  | [] => true
  | [first] => first.isAnyWord || first.isGroup "\x7b" || first.isGroup "["
  | first :: next :: _ =>
    first.isMark "..." || first.isMark "@" ||
      ((first.isAnyWord || first.isGroup "\x7b" || first.isGroup "[") &&
        [",", ":", "?", "="].any next.isMark)

/-- The trees behind the arrow of a function type, when its parameters stand ahead. -/
def afterTypeArrow? (trees : List Tree) : Option (List Tree) :=
  match trees with
  | list :: arrow :: rest =>
    if list.isGroup "(" && arrow.isMark "=>" && isParameterList list.inner then some rest else none
  | _ => none

/-- The trees behind a type. The flag says that an operand is due, `conditions` counts the
conditions whose alternative is still to come. The fuel bounds the number of steps. -/
def skipTypeFrom : Nat → Bool → Nat → List Tree → List Tree
  | 0, _, _, trees => trees
  | _ + 1, _, _, [] => []
  | fuel + 1, true, conditions, tree :: rest =>
    if ["|", "&", "-", "..."].any tree.isMark then skipTypeFrom fuel true conditions rest
    else if tree.isMark "<" then skipTypeFrom fuel true conditions (skipAngles (tree :: rest))
    else if typeLeadWords.any tree.isWord then
      match rest with
      | next :: _ =>
        skipTypeFrom fuel (!(endsTypeName next || next.first.afterBreak)) conditions rest
      | [] => []
    else
      match afterTypeArrow? (tree :: rest), tree with
      | some behind, _ => skipTypeFrom fuel true conditions behind
      | none, .group opening _ _ =>
        if ["(", "[", "\x7b", "\x60"].contains opening.text then
          skipTypeFrom fuel false conditions rest
        else tree :: rest
      | none, .leaf token =>
        if [LexemeKind.word, .text, .number].contains token.kind then
          skipTypeFrom fuel false conditions rest
        else tree :: rest
  | fuel + 1, false, conditions, tree :: rest =>
    if ["|", "&", "."].any tree.isMark then skipTypeFrom fuel true conditions rest
    else if tree.isMark "<" then
      match closeAngles? 1 rest with
      | some behind => skipTypeFrom fuel false conditions behind
      | none => tree :: rest
    else if tree.isMark "?" && 0 < conditions then skipTypeFrom fuel true conditions rest
    else if tree.isMark ":" && 0 < conditions then
      skipTypeFrom fuel true (conditions - 1) rest
    else if tree.first.afterBreak then tree :: rest
    else if tree.isGroup "[" then skipTypeFrom fuel false conditions rest
    else if tree.isWord "extends" then skipTypeFrom fuel true (conditions + 1) rest
    else if tree.isWord "is" then skipTypeFrom fuel true conditions rest
    else if tree.isGroup "(" then skipTypeFrom fuel false conditions rest
    else tree :: rest

/-- The trees behind a type. -/
def skipType (trees : List Tree) : List Tree := skipTypeFrom (trees.length + 1) true 0 trees

/-- The trees behind a type annotation, when one stands ahead. -/
def skipAnnotation (trees : List Tree) : List Tree :=
  match trees with
  | colon :: rest => if colon.isMark ":" then skipType rest else trees
  | [] => []

end SourceAtlas.Code.Script

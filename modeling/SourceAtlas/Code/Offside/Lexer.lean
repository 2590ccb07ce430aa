import SourceAtlas.Code.Token
import SourceAtlas.Text.CharClass

/-!
# Lexemes of Python source

Line breaks matter outside of brackets. Such a break, with the blank lines and
the indentation behind it, is a mark; a comment that has a line of its own is a
fragment, because it may lengthen the block above it.
-/

namespace SourceAtlas.Code.Offside

/-- What encloses a place inside of a string literal. -/
inductive Enclosure where
  | quotes (quote : Char) (triple formatted : Bool)
  /-- A replacement field of a formatted string. -/
  | field
  deriving DecidableEq, Repr

/-- The length of a literal from a place inside of it to its end. `previous` is the character before
that place. -/
def literalLength : List Enclosure → Char → List Char → Nat
  | [], _, _ => 0
  | _ :: _, _, [] => 0
  | .quotes quote triple formatted :: outer, _, c :: rest =>
    if c = '\\' then
      match rest with
      | [] => 1
      | d :: rest => 2 + literalLength (.quotes quote triple formatted :: outer) d rest
    else if c = quote then
      if triple then
        match rest with
        | d :: e :: rest =>
          if d = quote ∧ e = quote then 3 + literalLength outer e rest
          else 1 + literalLength (.quotes quote triple formatted :: outer) c (d :: e :: rest)
        | rest => 1 + literalLength (.quotes quote triple formatted :: outer) c rest
      else 1 + literalLength outer c rest
    else if formatted ∧ c = '\x7b' then
      match rest with
      | '\x7b' :: rest => 2 + literalLength (.quotes quote triple formatted :: outer) c rest
      | rest => 1 + literalLength (.field :: .quotes quote triple formatted :: outer) c rest
    else 1 + literalLength (.quotes quote triple formatted :: outer) c rest
  | .field :: outer, previous, c :: rest =>
    if c = '\x7b' then 1 + literalLength (.field :: .field :: outer) c rest
    else if c = '\x7d' then 1 + literalLength outer c rest
    else if c = '"' ∨ c = '\'' then
      let formatted := previous = 'f' || previous = 'F'
      match rest with
      | d :: e :: rest =>
        if d = c ∧ e = c then
          3 + literalLength (.quotes c true formatted :: .field :: outer) e rest
        else 1 + literalLength (.quotes c false formatted :: .field :: outer) c (d :: e :: rest)
      | rest => 1 + literalLength (.quotes c false formatted :: .field :: outer) c rest
    else 1 + literalLength (.field :: outer) c rest

/-- The length of a string literal at its opening quote, if there is one. -/
def literalAt? (formatted : Bool) : List Char → Option Nat
  | c :: rest =>
    if c = '"' ∨ c = '\'' then
      match rest with
      | d :: e :: behind =>
        if d = c ∧ e = c then some (3 + literalLength [.quotes c true formatted] e behind)
        else some (1 + literalLength [.quotes c false formatted] c rest)
      | _ => some (1 + literalLength [.quotes c false formatted] c rest)
    else none
  | [] => none

/-- The length of a string literal with up to two letters before its quote, if there is one. -/
def string? (chars : List Char) : Option Nat :=
  let letters := (chars.takeWhile fun c => "rRbBuUfF".toList.contains c).take 2
  let formatted := letters.any fun c => c = 'f' || c = 'F'
  (literalAt? formatted (chars.drop letters.length)).map (· + letters.length)

/-- Whether a blank keeps a line going: white space without a break, or an escaped break. -/
def isGap (c : Char) : Bool := Text.isBlank c && c ≠ '\n'

/-- The length of the blanks behind a break: blank lines and an indentation. -/
def leadingBlanks (chars : List Char) : Nat := (chars.takeWhile Text.isBlank).length

/-- What the lexer keeps in mind: open brackets, and whether a line has just started. -/
structure State where
  depth : Nat := 0
  atStart : Bool := true

/-- Marks of two characters. -/
def isDoubleMark (c d : Char) : Bool :=
  (d = '=' && "=!<>+-*/%&|^:@".toList.contains c) || (c = '-' && d = '>')

/-- The kind and length of the next lexeme and the state behind it. -/
def step (state : State) (chars : List Char) : LexemeKind × Nat × State :=
  match chars with
  | [] => (.blank, 0, state)
  | '\\' :: '\n' :: _ => (.blank, 2, state)
  | '\\' :: '\r' :: '\n' :: _ => (.blank, 3, state)
  | c :: rest =>
    let within := { state with atStart := false }
    if c = '\uFEFF' then (.blank, 1, state)
    else if c = '\n' ∧ state.depth = 0 then
      (.mark, 1 + leadingBlanks rest, { state with atStart := true })
    else if c = '\n' then (.blank, 1, state)
    else if isGap c then (.blank, 1 + (rest.takeWhile isGap).length, state)
    else if c = '#' then
      let kind := if state.atStart && state.depth = 0 then LexemeKind.fragment else .comment
      (kind, 1 + (rest.takeWhile (· ≠ '\n')).length, within)
    else
      match string? chars with
      | some count => (.text, count, within)
      | none =>
        if c = '_' || Text.isLetter c then
          (.word, 1 + (rest.takeWhile Text.isWord).length, within)
        else if c.isDigit then
          (.number, 1 + (rest.takeWhile fun d => Text.isWord d || d = '.').length, within)
        else if c = '(' ∨ c = '[' ∨ c = '\x7b' then
          (.opening, 1, { within with depth := state.depth + 1 })
        else if c = ')' ∨ c = ']' ∨ c = '\x7d' then
          (.closing, 1, { within with depth := state.depth - 1 })
        else
          match rest with
          | d :: _ => (.mark, if isDoubleMark c d then 2 else 1, within)
          | [] => (.mark, 1, within)

/-- A logical line: its indentation and its trees. -/
structure Line where
  indent : Nat
  trees : List Tree
  deriving Repr

/-- Whether a line is a comment. -/
def Line.isComment (line : Line) : Bool :=
  match line.trees with
  | .leaf token :: _ => token.kind = .fragment
  | _ => false

/-- The width of an indentation; a tab counts eight, and a return or form feed starts over. -/
def indentWidth (blanks : List Char) : Nat :=
  blanks.foldl
    (fun width c =>
      if c = ' ' then width + 1 else if c = '\t' then width + 8 else 0)
    0

/-- Whether a tree is a line break. -/
def isBreak : Tree → Bool
  | .leaf token => token.kind = .mark && Text.startsWith "\n" token.text
  | .group .. => false

/-- Cut trees at the line breaks. -/
def linesFrom (indent : Nat) : List Tree → List Tree → List Line
  | current, [] => if current.isEmpty then [] else [⟨indent, current.reverse⟩]
  | current, tree :: rest =>
    if isBreak tree then
      let next := linesFrom (indentWidth tree.word.toList) [] rest
      if current.isEmpty then next else ⟨indent, current.reverse⟩ :: next
    else linesFrom indent (tree :: current) rest

/-- The logical lines of a source text. -/
def lines (source : List Char) : List Line :=
  linesFrom 0 [] (Tree.build (tokens (scan step source.length {} source)))

end SourceAtlas.Code.Offside

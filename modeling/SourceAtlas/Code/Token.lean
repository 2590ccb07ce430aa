/-!
# Lexemes and tokens

A lexer cuts source text into lexemes that cover it without a gap, `scan` being
the loop that all lexers share. Tokens are the lexemes that mean something, with
their place in the text and what stands between them: line breaks and comments.
-/

namespace SourceAtlas.Code

/-- The kinds of lexemes. -/
inductive LexemeKind where
  | blank
  | comment
  | word
  | number
  /-- A string or character literal. -/
  | text
  /-- A regular expression literal. -/
  | pattern
  /-- Plain text inside of a template or of markup. -/
  | fragment
  | mark
  | opening
  | closing
  deriving DecidableEq, Repr

/-- A piece of source text. -/
structure Lexeme where
  kind : LexemeKind
  text : List Char
  deriving DecidableEq, Repr

/-- Cut a text. A step looks at the text ahead, which is not empty, and gives the kind and length of
the next lexeme with the state to go on with; every lexeme has at least one character. The fuel
bounds the number of lexemes; the length of the text is always enough. -/
def scan {σ : Type} (step : σ → List Char → LexemeKind × Nat × σ) :
    Nat → σ → List Char → List Lexeme
  | 0, _, _ => []
  | _ + 1, _, [] => []
  | fuel + 1, state, c :: rest =>
    let (kind, count, next) := step state (c :: rest)
    { kind, text := c :: rest.take (count - 1) } :: scan step fuel next (rest.drop (count - 1))

/-- The lexemes that a lexer makes of a text, put together, are the text. -/
theorem flatMap_text_scan {σ : Type} (step : σ → List Char → LexemeKind × Nat × σ) (fuel : Nat)
    (state : σ) (chars : List Char) (enough : chars.length ≤ fuel) :
    (scan step fuel state chars).flatMap Lexeme.text = chars := by
  induction fuel generalizing state chars with
  | zero =>
    cases chars with
    | nil => rfl
    | cons c rest => simp at enough
  | succ fuel inductionHypothesis =>
    cases chars with
    | nil => rfl
    | cons c rest =>
      have shorter : (rest.drop ((step state (c :: rest)).2.1 - 1)).length ≤ fuel := by
        simp only [List.length_cons, List.length_drop] at *
        omega
      simp [scan, inductionHypothesis _ _ shorter]

/-- A token: a lexeme that is neither blank nor comment, with its place. Offsets count characters,
lines count from one. -/
structure Token where
  kind : LexemeKind
  text : String
  start : Nat
  stop : Nat
  line : Nat
  lastLine : Nat
  /-- A line break stands between the token before and this one. -/
  afterBreak : Bool
  /-- A comment stands between the token before and this one. -/
  afterComment : Bool
  /-- The end of the comments that follow on the same line, or of the token itself. -/
  tailStop : Nat
  tailLine : Nat
  deriving DecidableEq, Repr

/-- A place in the text. -/
structure Position where
  offset : Nat := 0
  line : Nat := 1
  deriving DecidableEq, Repr

/-- The place behind some text. -/
def Position.advance (position : Position) (text : List Char) : Position where
  offset := position.offset + text.length
  line := position.line + text.count '\n'

/-- The end of the comments that stand between the end of a token and the next line break. -/
def tailEnd : Position → Position → List Lexeme → Position
  | stop, _, [] => stop
  | stop, position, lexeme :: rest =>
    let next := position.advance lexeme.text
    match lexeme.kind with
    | .comment => tailEnd next next rest
    | .blank => if lexeme.text.contains '\n' then stop else tailEnd stop next rest
    | _ => stop

/-- The tokens of some lexemes that start at a place. -/
def tokensFrom : Position → Bool → Bool → List Lexeme → List Token
  | _, _, _, [] => []
  | position, afterBreak, afterComment, lexeme :: rest =>
    let next := position.advance lexeme.text
    let breaks := afterBreak || lexeme.text.contains '\n'
    match lexeme.kind with
    | .blank => tokensFrom next breaks afterComment rest
    | .comment => tokensFrom next breaks true rest
    | kind =>
      let tail := tailEnd next next rest
      { kind, text := String.ofList lexeme.text, start := position.offset, stop := next.offset
        line := position.line, lastLine := next.line, afterBreak, afterComment
        tailStop := tail.offset, tailLine := tail.line } :: tokensFrom next false false rest

/-- The tokens of a text's lexemes. -/
def tokens (lexemes : List Lexeme) : List Token := tokensFrom {} false false lexemes

/-- A token, or a bracketed group of them. -/
inductive Tree where
  | leaf (token : Token)
  | group (opening : Token) (inner : List Tree) (closing : Token)
  deriving Repr

namespace Tree

/-- The first token. -/
def first : Tree → Token
  | leaf token => token
  | group opening _ _ => opening

/-- The last token. -/
def last : Tree → Token
  | leaf token => token
  | group _ _ closing => closing

/-- Whether a tree is the given word. -/
def isWord (tree : Tree) (word : String) : Bool :=
  match tree with
  | leaf token => token.kind = .word && token.text = word
  | group .. => false

/-- Whether a tree is any word. -/
def isAnyWord : Tree → Bool
  | leaf token => token.kind = .word
  | group .. => false

/-- Whether a tree is the given mark. -/
def isMark (tree : Tree) (mark : String) : Bool :=
  match tree with
  | leaf token => token.kind = .mark && token.text = mark
  | group .. => false

/-- Whether a tree is a string literal. -/
def isText : Tree → Bool
  | leaf token => token.kind = .text
  | group .. => false

/-- Whether a tree is a group opened by the given bracket. -/
def isGroup (tree : Tree) (bracket : String) : Bool :=
  match tree with
  | leaf _ => false
  | group opening _ _ => opening.text = bracket

/-- The trees inside of a group. -/
def inner : Tree → List Tree
  | leaf _ => []
  | group _ inner _ => inner

/-- The text of a single token, empty for a group. -/
def word : Tree → String
  | leaf token => token.text
  | group .. => ""

/-- Put the groups together that are still open at the end of the text. -/
def closeAll : List (Token × List Tree) → List Tree → List Tree
  | [], current => current.reverse
  | (opening, outer) :: stack, current =>
    closeAll stack (group opening current.reverse opening :: outer)

/-- Group tokens by their brackets. The stack holds the open brackets with the trees before them,
`current` the trees of the innermost open bracket, last one first. -/
def buildFrom : List (Token × List Tree) → List Tree → List Token → List Tree
  | stack, current, [] => closeAll stack current
  | stack, current, token :: rest =>
    match token.kind, stack with
    | .opening, _ => buildFrom ((token, current) :: stack) [] rest
    | .closing, (opening, outer) :: stack' =>
      buildFrom stack' (group opening current.reverse token :: outer) rest
    | .closing, [] => buildFrom [] current rest
    | _, _ => buildFrom stack (leaf token :: current) rest

/-- The trees of some tokens. -/
def build (tokens : List Token) : List Tree := buildFrom [] [] tokens

end Tree

end SourceAtlas.Code

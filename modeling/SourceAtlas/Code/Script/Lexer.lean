import SourceAtlas.Code.Token
import SourceAtlas.Text.CharClass

/-!
# Lexemes of JavaScript and TypeScript source

Three things make these lexemes depend on what stands before them: a slash is a
division or starts a pattern, a brace may return to the template around it, and
an angle bracket may start markup. The state of the lexer is the stack of what
encloses the next character and whether an operand is due there.
-/

namespace SourceAtlas.Code.Script

/-- What encloses a character. -/
inductive Mode where
  | code
  /-- Between backquotes. -/
  | template
  /-- Between the angle brackets of an element. -/
  | tag
  /-- Between the tags of an element. -/
  | content
  deriving DecidableEq, Repr

/-- The dialects of the language. -/
structure Dialect where
  /-- Types may be written. -/
  typed : Bool
  /-- Elements may be written. -/
  markup : Bool
  deriving DecidableEq, Repr

/-- What the lexer keeps in mind. -/
structure State where
  modes : List Mode := []
  /-- An operand is due, not an operator. -/
  operandDue : Bool := true
  deriving DecidableEq, Repr

/-- Characters that start a word. -/
def startsWord (c : Char) : Bool := c = '_' || c = '$' || c = '\\' || Text.isLetter c

/-- Characters that continue a word. -/
def continuesWord (c : Char) : Bool := c = '$' || c = '\\' || Text.isWord c

/-- The words behind which an operand is due. -/
def operandWords : List String :=
  ["return", "typeof", "case", "do", "else", "in", "instanceof", "new", "void", "delete", "throw",
    "yield", "await", "of", "default", "extends"]

/-- The length of a quoted literal behind its opening quote, the closing one included. -/
def quoted (quote : Char) : List Char → Nat
  | [] => 0
  | '\\' :: _ :: rest => 2 + quoted quote rest
  | c :: rest => if c = quote then 1 else 1 + quoted quote rest

/-- The length of a block comment behind its opening. -/
def blockComment : List Char → Nat
  | [] => 0
  | '*' :: '/' :: _ => 2
  | _ :: rest => 1 + blockComment rest

/-- The length of a pattern behind its opening slash; a slash inside of a class does not end it. -/
def patternLength (inClass : Bool) : List Char → Nat
  | [] => 0
  | '\\' :: _ :: rest => 2 + patternLength inClass rest
  | c :: rest =>
    if c = '\n' then 0
    else if c = '/' ∧ !inClass then 1 + (rest.takeWhile continuesWord).length
    else 1 + patternLength (if c = '[' then true else if c = ']' then false else inClass) rest

/-- The length of the plain text of a template. -/
def templateText : List Char → Nat
  | [] => 0
  | '\\' :: _ :: rest => 2 + templateText rest
  | '$' :: '\x7b' :: _ => 0
  | c :: rest => if c.toNat = 0x60 then 0 else 1 + templateText rest

/-- The marks of several characters, longest first. A closing angle bracket always stands alone,
because it may close a list of types. -/
def longMarks : List (List Char) :=
  ["===", "!==", "...", "**=", "<<=", "&&=", "||=", "??=", "=>", "==", "!=", "&&", "||", "??",
    "++", "--", "+=", "-=", "*=", "%=", "&=", "|=", "^=", "<=", "**"].map String.toList

/-- The length of the mark ahead. -/
def markLength (chars : List Char) : Nat :=
  match chars with
  | '?' :: '.' :: d :: _ => if d.isDigit then 1 else 2
  | _ =>
    match longMarks.find? fun mark => mark.isPrefixOf chars with
    | some mark => mark.length
    | none => 1

/-- Whether the text behind an angle bracket is a list of type parameters of a function rather than
an element. -/
def isTypeParameters (dialect : Dialect) (chars : List Char) : Bool :=
  let behind := (chars.dropWhile continuesWord).dropWhile Text.isBlank
  dialect.typed && (behind.head? = some ',' || "extends ".toList.isPrefixOf behind)

/-- Whether an element starts behind an angle bracket. -/
def startsElement (dialect : Dialect) (state : State) (chars : List Char) : Bool :=
  match chars with
  | [] => false
  | c :: _ =>
    dialect.markup && state.operandDue && (c = '>' || startsWord c) &&
      !isTypeParameters dialect chars

/-- Enter a mode. -/
def State.enter (state : State) (mode : Mode) : State where
  modes := mode :: state.modes
  operandDue := true

/-- Leave the innermost mode. -/
def State.leave (state : State) (operandDue : Bool) : State where
  modes := state.modes.drop 1
  operandDue

/-- Stay in the mode. -/
def State.stay (state : State) (operandDue : Bool) : State := { state with operandDue }

/-- The next lexeme of code. -/
def codeStep (dialect : Dialect) (state : State) (chars : List Char) :
    LexemeKind × Nat × State :=
  match chars with
  | [] => (.blank, 0, state)
  | '/' :: '/' :: rest => (.comment, 2 + (rest.takeWhile (· ≠ '\n')).length, state)
  | '/' :: '*' :: rest => (.comment, 2 + blockComment rest, state)
  | c :: rest =>
    if Text.isBlank c || c = '\uFEFF' then
      (.blank, 1 + (rest.takeWhile Text.isBlank).length, state)
    else if c = '"' ∨ c = '\'' then (.text, 1 + quoted c rest, state.stay false)
    else if c.toNat = 0x60 then (.opening, 1, state.enter .template)
    else if c = '/' ∧ state.operandDue then
      (.pattern, 1 + patternLength false rest, state.stay false)
    else if c = '<' ∧ startsElement dialect state rest then (.opening, 1, state.enter .tag)
    else if c = '(' ∨ c = '[' ∨ c = '\x7b' then (.opening, 1, state.enter .code)
    else if c = ')' ∨ c = ']' then (.closing, 1, state.leave false)
    else if c = '\x7d' then (.closing, 1, state.leave true)
    else if startsWord c || c = '#' then
      let count := 1 + (rest.takeWhile continuesWord).length
      let word := String.ofList (chars.take count)
      (.word, count, state.stay (operandWords.contains word))
    else if c.isDigit || (c = '.' && rest.head?.any Char.isDigit) then
      let count := 1 + (rest.takeWhile fun d => continuesWord d || d = '.').length
      (.number, count, state.stay false)
    else
      let count := markLength chars
      let mark := String.ofList (chars.take count)
      (.mark, count, state.stay (mark ≠ "++" && mark ≠ "--"))

/-- The next lexeme inside of a template. -/
def templateStep (state : State) (chars : List Char) : LexemeKind × Nat × State :=
  match chars with
  | '$' :: '\x7b' :: _ => (.opening, 2, state.enter .code)
  | c :: _ =>
    if c.toNat = 0x60 then (.closing, 1, state.leave false)
    else (.fragment, templateText chars, state)
  | [] => (.blank, 0, state)

/-- The next lexeme inside of a tag. -/
def tagStep (state : State) (chars : List Char) : LexemeKind × Nat × State :=
  match chars with
  | '/' :: '>' :: _ => (.closing, 2, state.leave false)
  | '/' :: '/' :: rest => (.comment, 2 + (rest.takeWhile (· ≠ '\n')).length, state)
  | '/' :: '*' :: rest => (.comment, 2 + blockComment rest, state)
  | c :: rest =>
    if c = '>' then (.fragment, 1, { state with modes := .content :: state.modes.drop 1 })
    else if c = '\x7b' then (.opening, 1, state.enter .code)
    else if c = '<' then (.opening, 1, state.enter .tag)
    else if c = '"' ∨ c = '\'' then
      (.fragment, 1 + (rest.takeWhile (· ≠ c)).length + 1, state)
    else if Text.isBlank c then (.blank, 1, state)
    else (.fragment, 1, state)
  | [] => (.blank, 0, state)

/-- The next lexeme between tags. -/
def contentStep (state : State) (chars : List Char) : LexemeKind × Nat × State :=
  match chars with
  | '<' :: '/' :: rest =>
    (.closing, 3 + (rest.takeWhile (· ≠ '>')).length, state.leave false)
  | '<' :: _ => (.opening, 1, state.enter .tag)
  | '\x7b' :: _ => (.opening, 1, state.enter .code)
  | c :: rest =>
    (.fragment, 1 + (((c :: rest).drop 1).takeWhile fun d => d ≠ '<' && d ≠ '\x7b').length, state)
  | [] => (.blank, 0, state)

/-- The next lexeme. -/
def step (dialect : Dialect) (state : State) (chars : List Char) : LexemeKind × Nat × State :=
  match state.modes with
  | .template :: _ => templateStep state chars
  | .tag :: _ => tagStep state chars
  | .content :: _ => contentStep state chars
  | _ => codeStep dialect state chars

/-- A first line that names an interpreter becomes a comment. -/
def maskShebang : List Char → List Char
  | '#' :: '!' :: rest => '/' :: '/' :: rest
  | other => other

/-- The trees of a source text. -/
def trees (dialect : Dialect) (source : List Char) : List Tree :=
  let source := maskShebang source
  Tree.build (tokens (scan (step dialect) source.length {} source))

end SourceAtlas.Code.Script

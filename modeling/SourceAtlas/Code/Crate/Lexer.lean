import SourceAtlas.Code.Token
import SourceAtlas.Text.CharClass

/-!
# Lexemes of Rust source

Comments nest, raw strings end at a quote with as many hashes as they started
with, and a quote starts either a character or a lifetime.
-/

namespace SourceAtlas.Code.Crate

/-- Characters that start a word. -/
def startsWord (c : Char) : Bool := c = '_' || Text.isLetter c

/-- Characters that continue a word. -/
def continuesWord (c : Char) : Bool := Text.isWord c

/-- The length of a block comment behind its opening, with the depth of nesting. -/
def blockComment : Nat → List Char → Nat
  | _, [] => 0
  | depth, '*' :: '/' :: rest =>
    match depth with
    | 0 => 2
    | depth + 1 => 2 + blockComment depth rest
  | depth, '/' :: '*' :: rest => 2 + blockComment (depth + 1) rest
  | depth, _ :: rest => 1 + blockComment depth rest

/-- The length of a quoted literal behind its opening quote, the closing one included. -/
def quoted (quote : Char) : List Char → Nat
  | [] => 0
  | '\\' :: _ :: rest => 2 + quoted quote rest
  | c :: rest => if c = quote then 1 else 1 + quoted quote rest

/-- The length of a raw string behind its opening quote. -/
def rawQuoted (hashes : Nat) : List Char → Nat
  | [] => 0
  | c :: rest =>
    if c = '"' ∧ (List.replicate hashes '#').isPrefixOf rest then 1 + hashes
    else 1 + rawQuoted hashes rest

/-- The length of a raw string that starts with hashes or a quote, if there is one. -/
def rawString? (chars : List Char) : Option Nat :=
  let hashes := (chars.takeWhile (· = '#')).length
  match chars.drop hashes with
  | '"' :: rest => some (hashes + 1 + rawQuoted hashes rest)
  | _ => none

/-- The length of a string with a letter before its quote, if there is one. -/
def prefixedString? : List Char → Option Nat
  | 'b' :: 'r' :: rest => (rawString? rest).map (· + 2)
  | 'c' :: 'r' :: rest => (rawString? rest).map (· + 2)
  | 'r' :: rest => (rawString? rest).map (· + 1)
  | 'b' :: '"' :: rest => some (2 + quoted '"' rest)
  | 'c' :: '"' :: rest => some (2 + quoted '"' rest)
  | 'b' :: '\'' :: rest => some (2 + quoted '\'' rest)
  | _ => none

/-- The length of a number. A dot belongs to it only before another digit. -/
def numberLength : List Char → Nat
  | '.' :: d :: rest => if d.isDigit then 2 + numberLength rest else 0
  | c :: rest => if continuesWord c then 1 + numberLength rest else 0
  | [] => 0

/-- The length of a character literal or a lifetime behind its quote, and whether it is a
literal. -/
def afterQuote : List Char → Bool × Nat
  | '\\' :: rest => (true, quoted '\'' ('\\' :: rest))
  | _ :: '\'' :: _ => (true, 2)
  | rest => (false, (rest.takeWhile continuesWord).length)

/-- The kind and length of the next lexeme. -/
def nextLexeme : List Char → LexemeKind × Nat
  | [] => (.blank, 0)
  | '/' :: '/' :: rest => (.comment, 2 + (rest.takeWhile (· ≠ '\n')).length)
  | '/' :: '*' :: rest => (.comment, 2 + blockComment 0 rest)
  | '"' :: rest => (.text, 1 + quoted '"' rest)
  | '\'' :: rest =>
    let (isLiteral, count) := afterQuote rest
    (if isLiteral then .text else .mark, 1 + count)
  | '-' :: '>' :: _ => (.mark, 2)
  | '=' :: '>' :: _ => (.mark, 2)
  | c :: rest =>
    if Text.isBlank c then (.blank, 1 + (rest.takeWhile Text.isBlank).length)
    else
      match prefixedString? (c :: rest) with
      | some count => (.text, count)
      | none =>
        if c = 'r' ∧ rest.head? = some '#' then
          (.word, 2 + ((rest.drop 1).takeWhile continuesWord).length)
        else if startsWord c then (.word, 1 + (rest.takeWhile continuesWord).length)
        else if c.isDigit then (.number, 1 + numberLength rest)
        else if c = '(' ∨ c = '[' ∨ c = '\x7b' then (.opening, 1)
        else if c = ')' ∨ c = ']' ∨ c = '\x7d' then (.closing, 1)
        else (.mark, 1)

/-- The first line, when it names an interpreter, is passed over. -/
def shebang : List Char → Nat
  | '#' :: '!' :: '[' :: _ => 0
  | '#' :: '!' :: rest => 2 + (rest.takeWhile (· ≠ '\n')).length
  | _ => 0

/-- The trees of a source text. -/
def trees (source : List Char) : List Tree :=
  let step := fun (atStart : Bool) (chars : List Char) =>
    let skipped := if atStart then shebang chars else 0
    if 0 < skipped then (LexemeKind.comment, skipped, false)
    else
      let (kind, count) := nextLexeme chars
      (kind, count, false)
  Tree.build (tokens (scan step source.length true source))

end SourceAtlas.Code.Crate

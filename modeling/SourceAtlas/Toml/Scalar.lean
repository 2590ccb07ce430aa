import SourceAtlas.Number.Word
import SourceAtlas.Toml.Value

/-!
# Texts, numbers and dates in TOML

Readers for the values without inner structure. Each takes the text from some
point on and gives a value and the rest, or nothing when the text does not
start with such a value.
-/

namespace SourceAtlas.Toml

/-- A reader of something at the start of a text. -/
abbrev Reader (α : Type) := List Char → Option (α × List Char)

/-- Blanks within a line. -/
def isBlank (c : Char) : Bool := c = ' ' || c = '\t'

/-- The text behind blanks. -/
def skipBlanks (chars : List Char) : List Char := chars.dropWhile isBlank

/-- The text behind a line end. -/
def newline? : List Char → Option (List Char)
  | '\n' :: rest => some rest
  | '\r' :: '\n' :: rest => some rest
  | _ => none

/-- Characters that stand for themselves in texts: no control characters but the tab. -/
def isPlain (c : Char) : Bool := c = '\t' || (32 ≤ c.toNat && c.toNat ≠ 127)

/-- The value of a digit in a base up to sixteen. -/
def digitOf? (base : Nat) (c : Char) : Option Nat :=
  let value :=
    if '0' ≤ c ∧ c ≤ '9' then c.toNat - '0'.toNat
    else if 'a' ≤ c ∧ c ≤ 'f' then c.toNat - 'a'.toNat + 10
    else if 'A' ≤ c ∧ c ≤ 'F' then c.toNat - 'A'.toNat + 10
    else base
  if value < base then some value else none

/-- Whether a character is a digit of a base. -/
def isDigitOf (base : Nat) (c : Char) : Bool := (digitOf? base c).isSome

/-- The number written by digits of a base. -/
def numberOf (base : Nat) (digits : List Char) : Nat :=
  digits.foldl (fun value c => base * value + (digitOf? base c).getD 0) 0

/-- A character given by so many hexadecimal digits. -/
def codeChar? (count : Nat) : Reader Char := fun chars =>
  let digits := chars.take count
  let code := numberOf 16 digits
  if digits.length = count ∧ digits.all (isDigitOf 16) ∧ code.isValidChar then
    some (Char.ofNat code, chars.drop count)
  else none

/-- The character behind a backslash. -/
def escape? : Reader Char
  | 'b' :: rest => some ('\x08', rest)
  | 'f' :: rest => some ('\x0c', rest)
  | 'n' :: rest => some ('\n', rest)
  | 'r' :: rest => some ('\r', rest)
  | 't' :: rest => some ('\t', rest)
  | '\\' :: rest => some ('\\', rest)
  | '"' :: rest => some ('"', rest)
  | 'u' :: rest => codeChar? 4 rest
  | 'U' :: rest => codeChar? 8 rest
  | _ => none

/-- The characters of a text on one line up to its closing quote. -/
def lineText? (literal : Bool) : Nat → Reader (List Char)
  | 0, _ => none
  | _, [] => none
  | fuel + 1, c :: rest =>
    if c = (if literal then '\'' else '"') then some ([], rest)
    else if c = '\\' ∧ !literal then do
      let (read, rest) ← escape? rest
      let (more, rest) ← lineText? literal fuel rest
      some (read :: more, rest)
    else if isPlain c then do
      let (more, rest) ← lineText? literal fuel rest
      some (c :: more, rest)
    else none

/-- The text behind blanks and line ends. -/
def skipSpace : Nat → List Char → List Char
  | 0, chars => chars
  | fuel + 1, chars =>
    match chars with
    | ' ' :: rest => skipSpace fuel rest
    | '\t' :: rest => skipSpace fuel rest
    | '\n' :: rest => skipSpace fuel rest
    | '\r' :: '\n' :: rest => skipSpace fuel rest
    | other => other

/-- The characters of a text over several lines up to its closing quotes. Up to two quotes may
stand before the closing three. A backslash at the end of a line hides the space that follows. -/
def blockText? (literal : Bool) : Nat → Reader (List Char)
  | 0, _ => none
  | _, [] => none
  | fuel + 1, c :: rest =>
    let quote := if literal then '\'' else '"'
    if c = quote then
      let run := rest.takeWhile (· = quote)
      let behind := rest.dropWhile (· = quote)
      if run.length < 2 then do
        let (more, rest) ← blockText? literal fuel behind
        some (c :: run ++ more, rest)
      else if run.length ≤ 4 then some (List.replicate (run.length - 2) quote, behind)
      else none
    else if c = '\\' ∧ !literal then
      match newline? (skipBlanks rest) with
      | some next => blockText? literal fuel (skipSpace next.length next)
      | none => do
        let (read, rest) ← escape? rest
        let (more, rest) ← blockText? literal fuel rest
        some (read :: more, rest)
    else
      match newline? (c :: rest) with
      | some next => do
        let (more, rest) ← blockText? literal fuel next
        some ('\n' :: more, rest)
      | none =>
        if isPlain c then do
          let (more, rest) ← blockText? literal fuel rest
          some (c :: more, rest)
        else none

/-- The text behind a line end, if there is one. -/
def skipNewline (chars : List Char) : List Char := (newline? chars).getD chars

/-- A text in quotes of any kind. -/
def text? : Reader String := fun chars =>
  let block := fun (literal : Bool) (rest : List Char) =>
    (blockText? literal (rest.length + 1) (skipNewline rest)).map fun read =>
      (String.ofList read.1, read.2)
  let line := fun (literal : Bool) (rest : List Char) =>
    (lineText? literal (rest.length + 1) rest).map fun read => (String.ofList read.1, read.2)
  match chars with
  | '"' :: '"' :: '"' :: rest => block false rest
  | '\'' :: '\'' :: '\'' :: rest => block true rest
  | '"' :: rest => line false rest
  | '\'' :: rest => line true rest
  | _ => none

/-- Digits of a base; a single underscore may stand between two of them. -/
def digitsFrom (base : Nat) : Bool → List Char → List Char × List Char
  | _, [] => ([], [])
  | afterDigit, c :: rest =>
    if isDigitOf base c then
      let (digits, rest) := digitsFrom base true rest
      (c :: digits, rest)
    else if c = '_' ∧ afterDigit then
      match rest with
      | next :: others =>
        if isDigitOf base next then
          let (digits, rest) := digitsFrom base true others
          (next :: digits, rest)
        else ([], c :: rest)
      | [] => ([], c :: rest)
    else ([], c :: rest)

/-- One digit at least. -/
def digits? (base : Nat) : Reader (List Char) := fun chars =>
  match digitsFrom base false chars with
  | ([], _) => none
  | read => some read

/-- A sign, if there is one, as whether it is a minus. -/
def sign : List Char → Bool × List Char
  | '+' :: rest => (false, rest)
  | '-' :: rest => (true, rest)
  | rest => (false, rest)

/-- The digits of a whole number: a zero alone, or digits that do not start with one. -/
def wholeDigits? : Reader (List Char)
  | '0' :: rest => some (['0'], rest)
  | chars => digits? 10 chars

/-- A whole number as a signed word of 64 bits. -/
def word? (value : Int) : Option Int :=
  if -(Word64.half : Int) ≤ value ∧ value < Word64.half then some value else none

/-- An integer in a base other than ten. -/
def basedInteger? (base : Nat) : Reader TomlValue := fun chars => do
  let (digits, rest) ← digits? base chars
  let value ← word? (numberOf base digits)
  some (.integer value, rest)

/-- An integer. -/
def integer? : Reader TomlValue
  | '0' :: 'x' :: rest => basedInteger? 16 rest
  | '0' :: 'o' :: rest => basedInteger? 8 rest
  | '0' :: 'b' :: rest => basedInteger? 2 rest
  | chars => do
    let (negative, rest) := sign chars
    let (digits, rest) ← wholeDigits? rest
    let size : Int := numberOf 10 digits
    let value ← word? (if negative then -size else size)
    some (.integer value, rest)

/-- The digits behind a point, if one comes next. -/
def fraction? : Reader (Option (List Char))
  | '.' :: rest => (digits? 10 rest).map fun read => (some read.1, read.2)
  | rest => some (none, rest)

/-- The exponent of a number, if one comes next. -/
def exponent? : Reader (Option Int)
  | c :: rest =>
    if c = 'e' ∨ c = 'E' then do
      let (negative, rest) := sign rest
      let (digits, rest) ← digits? 10 rest
      let size : Int := numberOf 10 digits
      some (some (if negative then -size else size), rest)
    else some (none, c :: rest)
  | [] => some (none, [])

/-- A number far outside the range of doubles reads like one just outside it. -/
def boundedExponent (exponent : Int) : Int := max (-5000) (min 5000 exponent)

/-- Infinity and the value that is no number, behind an optional sign. -/
def specialReal? : Reader TomlValue := fun chars =>
  let (negative, rest) := sign chars
  let signed := fun (x : Float) => if negative then -x else x
  match rest with
  | 'i' :: 'n' :: 'f' :: rest => some (.real (signed (1.0 / 0.0)), rest)
  | 'n' :: 'a' :: 'n' :: rest => some (.real (signed (Float.ofBits 0x7FF8000000000000)), rest)
  | _ => none

/-- A number with a fraction or an exponent. One too large is refused unless it is negative. -/
def real? : Reader TomlValue := fun chars => do
  let (negative, rest) := sign chars
  let (whole, rest) ← wholeDigits? rest
  let (fraction, rest) ← fraction? rest
  let (exponent, rest) ← exponent? rest
  if fraction.isNone ∧ exponent.isNone then none
  else
    let behind := fraction.getD []
    let number : Decimal :=
      { negative
        significand := numberOf 10 (whole ++ behind)
        exponent := boundedExponent (exponent.getD 0 - behind.length) }
    let value := number.toFloat
    if value.isInf ∧ !negative then none else some (.real value, rest)

/-- A number of exactly so many digits within bounds. -/
def field? (count low high : Nat) : Reader Nat := fun chars =>
  let digits := chars.take count
  let value := numberOf 10 digits
  if digits.length = count ∧ digits.all Char.isDigit ∧ low ≤ value ∧ value ≤ high then
    some (value, chars.drop count)
  else none

/-- A character that has to come next. -/
def char? (wanted : Char) : Reader Unit
  | c :: rest => if c = wanted then some ((), rest) else none
  | [] => none

/-- The number of days of a month. -/
def daysOf (year month : Nat) : Nat :=
  if month = 2 then
    if year % 4 = 0 ∧ (year % 100 ≠ 0 ∨ year % 400 = 0) then 29 else 28
  else if [4, 6, 9, 11].contains month then 30
  else 31

/-- A date. -/
def date? : Reader Unit := fun chars => do
  let (year, rest) ← field? 4 0 9999 chars
  let ((), rest) ← char? '-' rest
  let (month, rest) ← field? 2 1 12 rest
  let ((), rest) ← char? '-' rest
  let (_, rest) ← field? 2 1 (daysOf year month) rest
  some ((), rest)

/-- A time of day; a leap second is one. -/
def time? : Reader Unit := fun chars => do
  let (_, rest) ← field? 2 0 23 chars
  let ((), rest) ← char? ':' rest
  let (_, rest) ← field? 2 0 59 rest
  let ((), rest) ← char? ':' rest
  let (_, rest) ← field? 2 0 60 rest
  match rest with
  | '.' :: behind =>
    let digits := behind.takeWhile Char.isDigit
    if digits.isEmpty then none else some ((), behind.dropWhile Char.isDigit)
  | _ => some ((), rest)

/-- The distance from universal time, if one comes next. -/
def offset? : Reader Unit
  | 'Z' :: rest => some ((), rest)
  | 'z' :: rest => some ((), rest)
  | c :: rest =>
    if c = '+' ∨ c = '-' then do
      let (_, rest) ← field? 2 0 23 rest
      let ((), rest) ← char? ':' rest
      let (_, rest) ← field? 2 0 59 rest
      some ((), rest)
    else some ((), c :: rest)
  | [] => some ((), [])

/-- Whether a character divides a date from a time. -/
def dividesMoment (c : Char) : Bool := c = 'T' || c = 't' || c = ' '

/-- The part of a moment behind its date: a time and an offset, or nothing. A blank divides only
when a time follows. -/
def timePart? : Reader Unit
  | c :: rest =>
    if dividesMoment c then
      match time? rest with
      | some ((), rest) => offset? rest
      | none => if c = ' ' then some ((), c :: rest) else none
    else some ((), c :: rest)
  | [] => some ((), [])

/-- Whether a text starts like a date: four digits and a hyphen. -/
def startsLikeDate (chars : List Char) : Bool :=
  (chars.take 4).length = 4 && (chars.take 4).all Char.isDigit && (chars.drop 4).head? = some '-'

/-- Whether a text starts like a time: two digits and a colon. -/
def startsLikeTime (chars : List Char) : Bool :=
  (chars.take 2).length = 2 && (chars.take 2).all Char.isDigit && (chars.drop 2).head? = some ':'

/-- A date, a time or both. -/
def moment? : Reader TomlValue := fun chars => do
  let ((), rest) ←
    if startsLikeDate chars then
      match date? chars with
      | some ((), rest) => timePart? rest
      | none => none
    else time? chars
  some (.moment (String.ofList (chars.take (chars.length - rest.length))), rest)

/-- A number, a date or a time. -/
def numeric? : Reader TomlValue := fun chars =>
  if startsLikeDate chars || startsLikeTime chars then moment? chars
  else
    match specialReal? chars with
    | some read => some read
    | none =>
      match (sign chars).2 with
      | '0' :: c :: _ =>
        if ['x', 'o', 'b'].contains c then integer? chars
        else (real? chars).or (integer? chars)
      | _ => (real? chars).or (integer? chars)

end SourceAtlas.Toml

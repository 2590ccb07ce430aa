import SourceAtlas.Json.Value
import SourceAtlas.Number.Single
import SourceAtlas.Number.Word

/-!
# Reading JSON text

`JsonValue.parse?` reads one value with blanks around it and nothing else.
Every step returns the rest of the text; fuel bounds the nesting of values and
the number of items, and the length of the text is always enough of it.
-/

namespace SourceAtlas.JsonValue

/-- Blanks between the parts of a text. -/
def isBlank (c : Char) : Bool := c = ' ' || c = '\n' || c = '\t' || c = '\r'

/-- The text behind leading blanks. -/
def skipBlanks (chars : List Char) : List Char := chars.dropWhile isBlank

/-- The value of a hexadecimal digit. -/
def hexDigit? (c : Char) : Option Nat :=
  if '0' ≤ c ∧ c ≤ '9' then some (c.toNat - '0'.toNat)
  else if 'a' ≤ c ∧ c ≤ 'f' then some (c.toNat - 'a'.toNat + 10)
  else if 'A' ≤ c ∧ c ≤ 'F' then some (c.toNat - 'A'.toNat + 10)
  else none

/-- The code of four hexadecimal digits. -/
def hexCode? : List Char → Option (Nat × List Char)
  | a :: b :: c :: d :: rest => do
    let code := 4096 * (← hexDigit? a) + 256 * (← hexDigit? b) + 16 * (← hexDigit? c) +
      (← hexDigit? d)
    some (code, rest)
  | _ => none

/-- The character of a code written with four digits; a code of the upper half of a pair is
followed by one of the lower half. -/
def codeEscape? (chars : List Char) : Option (Char × List Char) := do
  let (code, rest) ← hexCode? chars
  if 0xDC00 ≤ code ∧ code ≤ 0xDFFF then none
  else if 0xD800 ≤ code ∧ code ≤ 0xDBFF then
    match rest with
    | '\\' :: 'u' :: rest =>
      let (low, rest) ← hexCode? rest
      if 0xDC00 ≤ low ∧ low ≤ 0xDFFF then
        some (Char.ofNat (0x10000 + (code - 0xD800) * 1024 + (low - 0xDC00)), rest)
      else none
    | _ => none
  else some (Char.ofNat code, rest)

/-- The character behind a backslash. -/
def escape? : List Char → Option (Char × List Char)
  | '"' :: rest => some ('"', rest)
  | '\\' :: rest => some ('\\', rest)
  | '/' :: rest => some ('/', rest)
  | 'b' :: rest => some ('\x08', rest)
  | 'f' :: rest => some ('\x0c', rest)
  | 'n' :: rest => some ('\n', rest)
  | 'r' :: rest => some ('\r', rest)
  | 't' :: rest => some ('\t', rest)
  | 'u' :: rest => codeEscape? rest
  | _ => none

/-- The characters up to the closing quote. -/
def quotedFrom? : Nat → List Char → Option (List Char × List Char)
  | 0, _ => none
  | _, [] => none
  | fuel + 1, c :: rest =>
    if c = '"' then some ([], rest)
    else if c = '\\' then do
      let (read, rest) ← escape? rest
      let (more, rest) ← quotedFrom? fuel rest
      some (read :: more, rest)
    else if c.toNat < 32 then none
    else do
      let (more, rest) ← quotedFrom? fuel rest
      some (c :: more, rest)

/-- The value of a run of digits. -/
def digitsValue (digits : List Char) : Nat :=
  digits.foldl (fun value c => 10 * value + (c.toNat - '0'.toNat)) 0

/-- A significand holds digits while it fits into 64 bits; every digit behind those only counts. -/
def significandFrom (value dropped : Nat) : List Char → Nat × Nat
  | [] => (value, dropped)
  | c :: rest =>
    let next := 10 * value + (c.toNat - '0'.toNat)
    if next < Word64.count ∧ dropped = 0 then significandFrom next 0 rest
    else significandFrom value (dropped + 1) rest

/-- The digits behind a point, if there is one; a point needs a digit behind it. -/
def fraction? : List Char → Option (Option (List Char) × List Char)
  | '.' :: rest =>
    let digits := rest.takeWhile Char.isDigit
    if digits.isEmpty then none else some (some digits, rest.dropWhile Char.isDigit)
  | rest => some (none, rest)

/-- The digits of an exponent with their sign. -/
def exponentDigits? (negative : Bool) (chars : List Char) : Option (Option Int × List Char) :=
  let digits := chars.takeWhile Char.isDigit
  if digits.isEmpty then none
  else
    let size : Int := digitsValue digits
    some (some (if negative then -size else size), chars.dropWhile Char.isDigit)

/-- The exponent of a number, if there is one. -/
def exponent? : List Char → Option (Option Int × List Char)
  | c :: rest =>
    if c = 'e' ∨ c = 'E' then
      match rest with
      | '+' :: rest => exponentDigits? false rest
      | '-' :: rest => exponentDigits? true rest
      | rest => exponentDigits? false rest
    else some (none, c :: rest)
  | [] => some (none, [])

/-- The number of its parts. An integer that does not fit into 64 bits is a real number, and so is
negative zero. -/
def numberOf (negative : Bool) (whole : List Char) (fraction : Option (List Char))
    (exponent : Option Int) : JsonValue :=
  let value : Int := digitsValue whole
  let signed := if negative then -value else value
  let fits := if negative then 0 < value ∧ value ≤ Word64.half else value < Word64.count
  if fraction.isNone ∧ exponent.isNone ∧ fits then .integer signed
  else
    let behind := fraction.getD []
    let (significand, dropped) := significandFrom 0 0 (whole ++ behind)
    .real
      { negative, significand
        exponent := exponent.getD 0 + dropped - behind.length }

/-- A number. Its whole part starts with a zero only when that is all of it. -/
def number? (negative : Bool) (chars : List Char) : Option (JsonValue × List Char) := do
  let whole := chars.takeWhile Char.isDigit
  let rest := chars.dropWhile Char.isDigit
  if whole.isEmpty ∨ (1 < whole.length ∧ whole.head? = some '0') then none
  else do
    let (fraction, rest) ← fraction? rest
    let (exponent, rest) ← exponent? rest
    some (numberOf negative whole fraction exponent, rest)

/-- The text behind a word that has to come next. -/
def after? : List Char → List Char → Option (List Char)
  | [], rest => some rest
  | _ :: _, [] => none
  | c :: word, other :: rest => if c = other then after? word rest else none

mutual

/-- A value at the start of a text. -/
def value? : Nat → List Char → Option (JsonValue × List Char)
  | 0, _ => none
  | fuel + 1, chars =>
    match skipBlanks chars with
    | 'n' :: rest => (after? "ull".toList rest).map fun rest => (.null, rest)
    | 't' :: rest => (after? "rue".toList rest).map fun rest => (.boolean true, rest)
    | 'f' :: rest => (after? "alse".toList rest).map fun rest => (.boolean false, rest)
    | '"' :: rest =>
      (quotedFrom? rest.length.succ rest).map fun read => (.text (String.ofList read.1), read.2)
    | '[' :: rest =>
      match skipBlanks rest with
      | ']' :: rest => some (.array [], rest)
      | rest => (items? fuel rest).map fun read => (.array read.1, read.2)
    | '\x7b' :: rest =>
      match skipBlanks rest with
      | '\x7d' :: rest => some (.object [], rest)
      | rest => (members? fuel rest).map fun read => (.object read.1, read.2)
    | '-' :: rest => number? true rest
    | rest => number? false rest

/-- The items of an array up to its closing bracket. -/
def items? : Nat → List Char → Option (List JsonValue × List Char)
  | 0, _ => none
  | fuel + 1, chars => do
    let (item, rest) ← value? fuel chars
    match skipBlanks rest with
    | ']' :: rest => some ([item], rest)
    | ',' :: rest =>
      let (more, rest) ← items? fuel rest
      some (item :: more, rest)
    | _ => none

/-- The members of an object up to its closing brace. -/
def members? : Nat → List Char → Option (List (String × JsonValue) × List Char)
  | 0, _ => none
  | fuel + 1, chars =>
    match skipBlanks chars with
    | '"' :: rest => do
      let (key, rest) ← quotedFrom? rest.length.succ rest
      match skipBlanks rest with
      | ':' :: rest =>
        let (value, rest) ← value? fuel rest
        match skipBlanks rest with
        | '\x7d' :: rest => some ([(String.ofList key, value)], rest)
        | ',' :: rest =>
          let (more, rest) ← members? fuel rest
          some ((String.ofList key, value) :: more, rest)
        | _ => none
      | _ => none
    | _ => none

end

/-- The value of a text that holds nothing else. -/
def parse? (text : String) : Option JsonValue :=
  let chars := text.toList
  match value? (2 * chars.length + 2) chars with
  | some (value, rest) => if (skipBlanks rest).isEmpty then some value else none
  | none => none

/-- Powers of ten up to the largest one of a double. -/
def largestPower : Nat := 308

/-- The double of a decimal as readers compute it: the rounded significand, multiplied or divided
by a rounded power of ten. Smaller numbers are divided more than once; too large ones have no
value. -/
def scaled? : Nat → Float → Int → Option Float
  | 0, size, _ => some size
  | fuel + 1, size, exponent =>
    if exponent.natAbs ≤ largestPower then
      let power := Float.ofScientific 1 false exponent.natAbs
      if 0 ≤ exponent then
        let product := size * power
        if product.isFinite then some product else none
      else some (size / power)
    else if size == 0.0 then some size
    else if 0 ≤ exponent then none
    else scaled? fuel (size / Float.ofScientific 1 false largestPower) (exponent + largestPower)

/-- The double of a number. -/
def float? : JsonValue → Option Float
  | .integer value =>
    let size := value.natAbs.toUInt64.toFloat
    some (if value < 0 then -size else size)
  | .real number =>
    (scaled? 5 number.significand.toUInt64.toFloat number.exponent).map fun size =>
      if number.negative then -size else size
  | _ => none

/-- The single nearest to the double of a number. -/
def float32? (value : JsonValue) : Option Float32 := value.float?.map nearestSingle

/-- An integer of a range. -/
def int? (low high : Int) : JsonValue → Option Int
  | .integer value => if low ≤ value ∧ value ≤ high then some value else none
  | _ => none

/-- A signed integer of 64 bits. -/
def int64? (value : JsonValue) : Option Int := value.int? (-(Word64.half : Int)) (Word64.half - 1)

/-- A natural number of 64 bits. -/
def nat64? (value : JsonValue) : Option Nat := (value.int? 0 (Word64.count - 1)).map Int.toNat

/-- A text. -/
def text? : JsonValue → Option String
  | .text value => some value
  | _ => none

/-- A truth value. -/
def bool? : JsonValue → Option Bool
  | .boolean value => some value
  | _ => none

/-- Null, or a value of some kind. -/
def option? {α : Type} (decode : JsonValue → Option α) : JsonValue → Option (Option α)
  | .null => some none
  | value => (decode value).map some

/-- An array with items of one kind. -/
def list? {α : Type} (decode : JsonValue → Option α) : JsonValue → Option (List α)
  | .array items => items.mapM decode
  | _ => none

/-- An object read as a map from keys to values of one kind, in the order of its members. -/
def map? {α : Type} (decode : JsonValue → Option α) : JsonValue → Option (List (String × α))
  | .object members => members.mapM fun member =>
      (decode member.2).map fun value => (member.1, value)
  | _ => none

/-- The parts of a record with the given field names: a field is written at most once, and members
with other names are passed over. A record may also be an array of its fields in order. -/
def fields? (names : List String) : JsonValue → Option (List (Option JsonValue))
  | .object members => names.mapM fun name =>
      match members.filter fun member => member.1 = name with
      | [] => some none
      | [member] => some (some member.2)
      | _ => none
  | .array items =>
    if items.length ≤ names.length then
      some (items.map some ++ List.replicate (names.length - items.length) none)
    else none
  | _ => none

end SourceAtlas.JsonValue

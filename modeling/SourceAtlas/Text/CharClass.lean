import SourceAtlas.Text.Split
import SourceAtlas.Text.CharTable.Alphabetic
import SourceAtlas.Text.CharTable.Case

/-!
# Character classes and letter case

Classes follow the Unicode properties. ASCII characters are decided by a rule
and never reach a table, so closed examples over source text stay cheap.
-/

namespace SourceAtlas.Text

/-- Membership of a code point in a table of inclusive ranges. -/
def inRanges (ranges : Array (Nat × Nat)) (code : Nat) : Bool :=
  ranges.any fun range => range.1 ≤ code && code ≤ range.2

/-- Membership of a code point in a table of inclusive ranges with a step. -/
def inSteppedRanges (ranges : Array (Nat × Nat × Nat)) (code : Nat) : Bool :=
  ranges.any fun range =>
    range.1 ≤ code && code ≤ range.2.1 && (code - range.1) % range.2.2 == 0

/-- The image of a code point under a table of shifted ranges, itself outside of them. -/
def shiftedCode (ranges : Array (Nat × Nat × Nat × Int)) (code : Nat) : Nat :=
  match ranges.find? fun range =>
      range.1 ≤ code && code ≤ range.2.1 && (code - range.1) % range.2.2.1 == 0 with
  | some range => (Int.ofNat code + range.2.2.2).toNat
  | none => code

/-- White space: the property White_Space. -/
def isBlank (c : Char) : Bool :=
  let code := c.toNat
  (9 ≤ code && code ≤ 13) || code == 0x20 || code == 0x85 || code == 0xA0 || code == 0x1680 ||
    (0x2000 ≤ code && code ≤ 0x200A) || code == 0x2028 || code == 0x2029 || code == 0x202F ||
    code == 0x205F || code == 0x3000

/-- Letters: the property Alphabetic. -/
def isLetter (c : Char) : Bool :=
  if c.toNat < 128 then c.isAlpha else inRanges CharTable.alphabetic c.toNat

/-- Numbers: the general categories Nd, Nl and No. -/
def isNumber (c : Char) : Bool :=
  if c.toNat < 128 then c.isDigit else inRanges CharTable.numeric c.toNat

/-- Letters and numbers. -/
def isLetterOrNumber (c : Char) : Bool := isLetter c || isNumber c

/-- Upper case: the property Uppercase. -/
def isUpper (c : Char) : Bool :=
  if c.toNat < 128 then c.isUpper else inSteppedRanges CharTable.uppercase c.toNat

/-- Lower case: the property Lowercase. -/
def isLower (c : Char) : Bool :=
  if c.toNat < 128 then c.isLower else inSteppedRanges CharTable.lowercase c.toNat

/-- Word characters: letters, marks, decimal digits, connectors and join controls. -/
def isWord (c : Char) : Bool :=
  if c.toNat < 128 then c.isAlphanum || c == '_'
  else
    inRanges CharTable.alphabetic c.toNat || inRanges CharTable.mark c.toNat ||
      inRanges CharTable.decimalDigit c.toNat || inRanges CharTable.connector c.toNat

/-- The lower case image of one character. Only U+0130 has an image of two characters. -/
def lowerChars (c : Char) : List Char :=
  if c.toNat < 128 then [c.toLower]
  else if c.toNat = 0x130 then ['i', Char.ofNat 0x307]
  else [Char.ofNat (shiftedCode CharTable.toLower c.toNat)]

/-- Simple case folding of one character. -/
def foldChar (c : Char) : Char :=
  if c.toNat < 128 then c.toLower else Char.ofNat (shiftedCode CharTable.simpleFold c.toNat)

/-- Characters that have a case. -/
def isCased (c : Char) : Bool :=
  if c.toNat < 128 then c.isAlpha
  else isUpper c || isLower c || inSteppedRanges CharTable.titlecase c.toNat

/-- Characters that case rules look through. -/
def isCaseIgnorable (c : Char) : Bool :=
  if c.toNat < 128 then
    c == '\'' || c == '.' || c == ':' || c == '^' || c.toNat == 0x60
  else inSteppedRanges CharTable.caseIgnorable c.toNat

/-- Whether the first character past the case-ignorable ones has a case. -/
def nextIsCased (chars : List Char) : Bool :=
  match chars.dropWhile isCaseIgnorable with
  | c :: _ => isCased c
  | [] => false

/-- Lower case with the rule that a sigma at the end of a word takes its final form.
`before` is the text already read, nearest character first. -/
def lowerFrom (before : List Char) : List Char → List Char
  | [] => []
  | c :: rest =>
    (if c.toNat = 0x3A3 then
      [if nextIsCased before && !nextIsCased rest then Char.ofNat 0x3C2 else Char.ofNat 0x3C3]
    else lowerChars c) ++ lowerFrom (c :: before) rest

/-- The lower case form of a text. -/
def lower (text : String) : String := String.ofList (lowerFrom [] text.toList)

/-- Drop white space at both ends. -/
def trim (text : String) : String := trimMatches isBlank text

/-- Drop white space at the end. -/
def trimEnd (text : String) : String := trimEndMatches isBlank text

/-- Drop white space at the start. -/
def trimStart (text : String) : String := trimStartMatches isBlank text

/-- The runs of characters between white space. -/
def words (text : String) : List String :=
  (runsOutside isBlank text.toList).map String.ofList

/-- White space runs shrunk to one space and dropped at the ends. -/
def collapseBlanks (text : String) : String := join " " (words text)

end SourceAtlas.Text

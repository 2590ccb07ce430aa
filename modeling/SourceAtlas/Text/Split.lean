/-!
# Cutting and joining text

Every path, module name and source line in this library is taken apart by the
functions of this module. They are defined on character lists, where each of
them is a structural recursion, and lifted to `String`.
-/

namespace SourceAtlas.Text

/-- Cut at every occurrence of `separator`; `n` separators make `n + 1` runs. -/
def splitChars (separator : Char) : List Char → List (List Char)
  | [] => [[]]
  | c :: rest =>
    if c = separator then [] :: splitChars separator rest
    else
      match splitChars separator rest with
      | [] => [[c]]
      | run :: runs => (c :: run) :: runs

/-- Put `separator` between neighbouring runs. -/
def joinChars (separator : List Char) : List (List Char) → List Char
  | [] => []
  | [run] => run
  | run :: next :: runs => run ++ separator ++ joinChars separator (next :: runs)

/-- `splitChars` on text. -/
def split (separator : Char) (text : String) : List String :=
  (splitChars separator text.toList).map String.ofList

/-- `joinChars` on text. -/
def join (separator : String) (parts : List String) : String :=
  String.ofList (joinChars separator.toList (parts.map String.toList))

/-- The part before and the part after the first occurrence of `pattern`. -/
def cutChars (pattern : List Char) : List Char → Option (List Char × List Char)
  | [] => if pattern.isEmpty then some ([], []) else none
  | c :: rest =>
    if pattern.isPrefixOf (c :: rest) then some ([], (c :: rest).drop pattern.length)
    else (cutChars pattern rest).map fun cut => (c :: cut.1, cut.2)

/-- `cutChars` on text. -/
def cut (pattern text : String) : Option (String × String) :=
  (cutChars pattern.toList text.toList).map fun parts =>
    (String.ofList parts.1, String.ofList parts.2)

/-- The parts around the last occurrence of the character `separator`. -/
def cutLast (separator : Char) (text : String) : Option (String × String) :=
  (cutChars [separator] text.toList.reverse).map fun parts =>
    (String.ofList parts.2.reverse, String.ofList parts.1.reverse)

/-- Whether `pattern` occurs in `text`. -/
def contains (pattern text : String) : Bool :=
  (cutChars pattern.toList text.toList).isSome

/-- The text after `lead`, when it starts with it. -/
def afterLead (lead text : String) : Option String :=
  if lead.toList.isPrefixOf text.toList then
    some (String.ofList (text.toList.drop lead.length))
  else none

/-- Whether `text` starts with `lead`. -/
def startsWith (lead text : String) : Bool :=
  lead.toList.isPrefixOf text.toList

/-- Whether `text` ends with `tail`. -/
def endsWith (tail text : String) : Bool :=
  tail.toList.isSuffixOf text.toList

/-- Every occurrence of one character replaced by a text. -/
def replaceChar (old : Char) (new : String) (text : String) : String :=
  String.ofList (text.toList.flatMap fun c => if c = old then new.toList else [c])

/-- `count` copies of `text`. -/
def repeated (count : Nat) (text : String) : String :=
  String.join (List.replicate count text)

/-- Pad on the right with spaces to at least `width` characters. -/
def padRight (width : Nat) (text : String) : String :=
  text ++ String.ofList (List.replicate (width - text.length) ' ')

/-- Pad on the left with `fill` to at least `width` characters. -/
def padLeft (width : Nat) (fill : Char) (text : String) : String :=
  String.ofList (List.replicate (width - text.length) fill) ++ text

/-- A line as it is read: without the line feed that ends it and one carriage
return before that line feed. -/
def dropCarriageReturn (line : List Char) : List Char :=
  match line.reverse with
  | '\r' :: rest => rest.reverse
  | _ => line

/-- Lines of a character list. The last run is a line only when it is not empty, and it keeps a
trailing carriage return because no line feed follows it. -/
def linesOfRuns : List (List Char) → List (List Char)
  | [] => []
  | [last] => if last.isEmpty then [] else [last]
  | line :: next :: rest => dropCarriageReturn line :: linesOfRuns (next :: rest)

/-- The lines of a text. -/
def lines (text : String) : List String :=
  (linesOfRuns (splitChars '\n' text.toList)).map String.ofList

/-- Drop a block of characters satisfying `p` at both ends. -/
def trimMatches (p : Char → Bool) (text : String) : String :=
  String.ofList ((text.toList.dropWhile p).reverse.dropWhile p).reverse

/-- Drop the characters satisfying `p` at the end. -/
def trimEndMatches (p : Char → Bool) (text : String) : String :=
  String.ofList (text.toList.reverse.dropWhile p).reverse

/-- Drop the characters satisfying `p` at the start. -/
def trimStartMatches (p : Char → Bool) (text : String) : String :=
  String.ofList (text.toList.dropWhile p)

/-- The maximal runs of characters that do not satisfy `p`. -/
def runsOutside (p : Char → Bool) : List Char → List (List Char)
  | [] => []
  | c :: rest =>
    if p c then runsOutside p rest
    else
      match rest with
      | [] => [[c]]
      | d :: _ =>
        if p d then [c] :: runsOutside p rest
        else
          match runsOutside p rest with
          | [] => [[c]]
          | run :: runs => (c :: run) :: runs

end SourceAtlas.Text

import SourceAtlas.Text.Grapheme
import SourceAtlas.Text.CharTable.LatinBase

/-!
# Fuzzy matching

A needle matches a haystack when its characters occur there in order. The
score rewards matches at word starts and in runs and charges for gaps; it is
that of the best alignment, except for very large problems, where the shortest
window of the first greedy match is scored instead.
-/

namespace SourceAtlas.Fuzzy

/-- The classes of characters that scores depend on, from weakest to strongest. -/
inductive CharClass where
  | blank
  | nonWord
  | delimiter
  | lower
  | upper
  | letter
  | number
  deriving DecidableEq, Repr

/-- Whether a class belongs inside words. -/
def CharClass.isWord : CharClass → Bool
  | .blank => false
  | .nonWord => false
  | .delimiter => false
  | _ => true

/-- A match of one character. -/
def matchScore : Nat := 16
/-- The charge for the first character of a gap. -/
def gapStart : Nat := 3
/-- The charge for each further character of a gap. -/
def gapExtension : Nat := 1
/-- The bonus for a match at a word boundary. -/
def boundaryBonus : Nat := 8
/-- The bonus at the start of the text or behind white space. -/
def blankBonus : Nat := 10
/-- The bonus behind a delimiter. -/
def delimiterBonus : Nat := 9
/-- The bonus at a change of letter case or at the first digit of a number. -/
def camelBonus : Nat := 5
/-- The least bonus of a match that directly follows another. -/
def consecutiveBonus : Nat := 4
/-- The weight of the bonus of the first needle character. -/
def firstWeight : Nat := 2
/-- The largest window times needle that is aligned optimally. -/
def maxCells : Nat := 102400
/-- The longest needle that is aligned optimally. -/
def maxNeedle : Nat := 2048

/-- The characters that delimit path and list items. -/
def delimiters : List Char := ['/', ',', ':', ';', '|']

/-- The class of an ASCII character. -/
def asciiClass (c : Char) : CharClass :=
  if c.isLower then .lower
  else if c.isUpper then .upper
  else if c.isDigit then .number
  else if c = ' ' || c = '\t' || c = '\n' || c = '\r' || c.toNat = 12 then .blank
  else if delimiters.contains c then .delimiter
  else .nonWord

/-- The class of a character. -/
def classOf (c : Char) : CharClass :=
  if c.toNat < 128 then asciiClass c
  else if Text.isLower c then .lower
  else if Text.foldChar c ≠ c then .upper
  else if Text.isNumber c then .number
  else if Text.isLetter c then .letter
  else if Text.isBlank c then .blank
  else .nonWord

/-- The bonus of a match by the class before it and its own. -/
def bonusFor (previous class_ : CharClass) : Nat :=
  if class_.isWord && previous = .blank then blankBonus
  else if class_.isWord && previous = .delimiter then delimiterBonus
  else if class_.isWord && previous = .nonWord then boundaryBonus
  else if previous = .lower && class_ = .upper then camelBonus
  else if previous ≠ .number && class_ = .number then camelBonus
  else if class_ = .blank then blankBonus
  else if class_ = .nonWord then boundaryBonus
  else 0

/-- The ASCII base of a marked Latin letter; other characters stay. -/
def latinBase (c : Char) : Char :=
  if c.toNat < 0xC0 then c
  else
    match Text.CharTable.latinBase.find? fun pair => pair.1 == c.toNat with
    | some pair => Char.ofNat pair.2
    | none => c

/-- How the characters of a haystack are brought to the form of the needle. -/
structure Folding where
  ignoreCase : Bool
  stripMarks : Bool
  deriving DecidableEq, Repr

/-- The form of a haystack character that is compared when looking for a window. -/
def Folding.apply (folding : Folding) (c : Char) : Char :=
  let base := if folding.stripMarks then latinBase c else c
  if folding.ignoreCase then Text.foldChar base else base

/-- The form of a haystack character that is compared when scoring: without mark stripping only
upper case characters are folded. -/
def Folding.applyForScore (folding : Folding) (c : Char) : Char :=
  if c.toNat < 128 then if folding.ignoreCase then c.toLower else c
  else if folding.stripMarks || classOf c = .upper then folding.apply c
  else c

/-- Text in matching units, with whether it is plain ASCII. -/
structure Units where
  isAscii : Bool
  chars : List Char
  deriving DecidableEq, Repr

/-- Whether a text is ASCII without two-character line ends. -/
def isPlain (text : String) : Bool :=
  text.toList.all (·.toNat < 128) && !Text.contains "\r\n" text

/-- The units of a haystack. -/
def Units.ofText (text : String) : Units :=
  if isPlain text then { isAscii := true, chars := text.toList }
  else { isAscii := false, chars := Text.Grapheme.heads text }

/-- A needle ready for matching. -/
structure Atom where
  needle : Units
  folding : Folding
  deriving DecidableEq, Repr

/-- The text of a needle with escaped spaces made plain. -/
def unescapeSpaces : List Char → List Char
  | '\\' :: ' ' :: rest => ' ' :: unescapeSpaces rest
  | c :: rest => c :: unescapeSpaces rest
  | [] => []

/-- Cut a query at the spaces that no backslash stands before. -/
def splitAtoms : Bool → List Char → List (List Char)
  | _, [] => [[]]
  | escaped, c :: rest =>
    if c = ' ' && !escaped then [] :: splitAtoms false rest
    else
      match splitAtoms (c == '\\') rest with
      | [] => [[c]]
      | run :: runs => (c :: run) :: runs

/-- The atom of a needle text. A needle that itself has a marked letter keeps the marks of the
haystack. -/
def Atom.ofText (caseSensitive : Bool) (text : List Char) : Atom :=
  let needle := String.ofList (unescapeSpaces text)
  if needle.toList.all (·.toNat < 128) then
    { needle :=
        { isAscii := true
          chars := if caseSensitive then needle.toList else needle.toList.map Char.toLower }
      folding := { ignoreCase := !caseSensitive, stripMarks := true } }
  else
    let heads := Text.Grapheme.heads needle
    let chars := if caseSensitive then heads else heads.map Text.foldChar
    { needle := { isAscii := false, chars }
      folding :=
        { ignoreCase := !caseSensitive, stripMarks := chars.all fun c => latinBase c == c } }

/-- The atoms of a query; empty ones are dropped. -/
def atomsOf (query : String) (caseSensitive : Bool) : List Atom :=
  ((splitAtoms false query.toList).map (Atom.ofText caseSensitive)).filter
    fun atom => !atom.needle.chars.isEmpty

/-- A haystack character ready for scoring. -/
structure Cell where
  char : Char
  bonus : Nat
  deriving DecidableEq, Repr

/-- The cells of a run of characters behind a character of class `previous`. -/
def cellsFrom (folding : Folding) : CharClass → List Char → List Cell
  | _, [] => []
  | previous, c :: rest =>
    let class_ := classOf c
    { char := folding.applyForScore c, bonus := bonusFor previous class_ } ::
      cellsFrom folding class_ rest

/-- The class that stands before a position. -/
def classBefore (chars : List Char) (position : Nat) : CharClass :=
  if position = 0 then .blank else (chars[position - 1]?.map classOf).getD .blank

/-- The state of scoring one window from left to right. -/
structure RunState where
  score : Nat
  runBonus : Nat
  inRun : Bool
  inGap : Bool
  /-- The needle characters still to match, the last one staying. -/
  needle : List Char
  deriving DecidableEq, Repr

/-- Take in one more cell of the window. -/
def RunState.push (state : RunState) (cell : Cell) : RunState :=
  if state.needle.head? = some cell.char then
    let runBonus :=
      if state.inRun then
        if boundaryBonus ≤ cell.bonus && state.runBonus < cell.bonus then cell.bonus
        else state.runBonus
      else cell.bonus
    let bonus := if state.inRun then max (max cell.bonus runBonus) consecutiveBonus else cell.bonus
    { score := state.score + matchScore + bonus
      runBonus
      inRun := true
      inGap := false
      needle := match state.needle with
        | _ :: next :: rest => next :: rest
        | last => last }
  else
    { state with
      score := state.score - (if state.inGap then gapExtension else gapStart)
      inRun := false
      inGap := true }

/-- The score of a window whose first cell matches the first needle character. -/
def windowScore (needle : List Char) : List Cell → Nat
  | [] => 0
  | first :: rest =>
    let start : RunState :=
      { score := matchScore + firstWeight * first.bonus
        runBonus := first.bonus
        inRun := true
        inGap := false
        needle := match needle with
          | _ :: next :: more => next :: more
          | last => last }
    (rest.foldl RunState.push start).score % 65536

/-- The score of the window from `first` up to but not including `last`. -/
def scoreWindow (atom : Atom) (haystack : List Char) (first last : Nat) : Nat :=
  windowScore atom.needle.chars
    (cellsFrom atom.folding (classBefore haystack first) ((haystack.take last).drop first))

/-- The score when the window equals the needle. -/
def exactScore? (atom : Atom) (haystack : List Char) (first last : Nat) : Option Nat :=
  if ((haystack.take last).drop first).map atom.folding.apply = atom.needle.chars then
    some (scoreWindow atom haystack first last)
  else none

/-- The best score of a single character in plain text. -/
def singlePlain? (needle : Char) (folding : Folding) (haystack : List Char) : Option Nat :=
  (cellsFrom folding .blank haystack).foldl (fun best cell =>
    if cell.char = needle then
      some (max (best.getD 0) (matchScore + firstWeight * cell.bonus))
    else best) none

/-- The best score of a single character in other text. The class before a match is that of the
match before it. -/
def singleMarked? (needle : Char) (folding : Folding) (haystack : List Char) : Option Nat :=
  match haystack.findIdx? (fun c => folding.apply c == needle) with
  | none => none
  | some first =>
    let step := fun (state : CharClass × Nat) (c : Char) =>
      if folding.applyForScore c = needle then
        let class_ := classOf c
        (class_, max state.2 (matchScore + firstWeight * bonusFor state.1 class_))
      else state
    some ((haystack.drop first).foldl step (classBefore haystack first, 0)).2

/-- The position behind the earliest occurrence in order of all needle characters. -/
def greedyEnd? (folding : Folding) : Nat → List Char → List Char → Option Nat
  | position, [], _ => some position
  | _, _ :: _, [] => none
  | position, n :: needle, c :: haystack =>
    if folding.apply c = n then greedyEnd? folding (position + 1) needle haystack
    else greedyEnd? folding (position + 1) (n :: needle) haystack

/-- The window of an alignment: where it starts, where the greedy match ends and where the last
possible match ends. -/
structure Window where
  first : Nat
  greedyLast : Nat
  last : Nat
  deriving DecidableEq, Repr

/-- The position behind the last occurrence of a character from a position on. -/
def lastOccurrence? (folding : Folding) (target : Char) (haystack : List Char) (start : Nat) :
    Option Nat :=
  let found := (haystack.drop start).reverse.findIdx? fun c => folding.apply c == target
  found.map fun back => haystack.length - back

/-- The window of a needle of at least two characters in a longer haystack. -/
def window? (atom : Atom) (haystack : Units) : Option Window :=
  match atom.needle.chars with
  | [] => none
  | head :: tail =>
    let room := haystack.chars.length - atom.needle.chars.length + 1
    match (haystack.chars.take room).findIdx? fun c => atom.folding.apply c == head with
    | none => none
    | some first =>
      let target := tail.getLast?.getD head
      if haystack.isAscii then
        match greedyEnd? atom.folding (first + 1) tail (haystack.chars.drop (first + 1)) with
        | none => none
        | some greedyLast =>
          let last := (lastOccurrence? atom.folding target haystack.chars greedyLast).getD
            greedyLast
          some { first, greedyLast, last }
      else
        match lastOccurrence? atom.folding target haystack.chars (first + 1) with
        | none => none
        | some last =>
          if last - first < atom.needle.chars.length then none
          else some { first, greedyLast := first + 1, last }

/-- The score of ending a match at a column. -/
structure MatchCell where
  score : Nat
  runBonus : Nat
  /-- Whether the column matches at all. -/
  isMatch : Bool
  deriving DecidableEq, Repr

/-- A column without a match. -/
def MatchCell.none : MatchCell := { score := 0, runBonus := 0, isMatch := false }

/-- Match the next needle character behind a column that scored `cell`, when the best score with a
gap up to there is `gapped`. -/
def MatchCell.next (gapped bonus : Nat) (cell : MatchCell) : MatchCell :=
  if !cell.isMatch then
    { score := gapped + bonus + matchScore, runBonus := bonus, isMatch := true }
  else
    let atLeast := max cell.runBonus consecutiveBonus
    let runBonus := if boundaryBonus ≤ bonus && atLeast < bonus then bonus else atLeast
    let consecutive := cell.score + max runBonus bonus
    let skipping := gapped + bonus
    if skipping < consecutive then
      { score := consecutive + matchScore, runBonus, isMatch := true }
    else { score := skipping + matchScore, runBonus := bonus, isMatch := true }

/-- The best score that is in a gap, one column on. -/
def gapScore (gapped matched : Nat) : Nat :=
  max (matched - gapStart) (gapped - gapExtension)

/-- The row of a needle character from the row of the one before it. `cells` are the haystack cells
one column on, `barred` the number of columns in which the character cannot match yet. -/
def nextRow (target : Char) : Nat → Nat → Nat → List MatchCell → List Cell → List MatchCell
  | barred, prevGap, prevMatch, cell :: row, column :: cells =>
    let gapped := gapScore prevGap prevMatch
    let entry :=
      if barred = 0 && column.char = target then MatchCell.next gapped column.bonus cell
      else MatchCell.none
    entry :: nextRow target (barred - 1) gapped cell.score row cells
  | _, _, _, _, _ => []

/-- The first column each needle character can match in, when all can. -/
def rowStarts : Nat → List Char → List Cell → Option (List Nat)
  | _, [], _ => some []
  | _, _ :: _, [] => none
  | column, n :: needle, cell :: cells =>
    if cell.char = n then (rowStarts (column + 1) needle cells).map (column :: ·)
    else rowStarts (column + 1) (n :: needle) cells

/-- The row of the first needle character. -/
def firstRow (target : Char) (width : Nat) (cells : List Cell) : List MatchCell :=
  (cells.take width).map fun cell =>
    if cell.char = target then
      { score := matchScore + firstWeight * cell.bonus, runBonus := cell.bonus, isMatch := true }
    else MatchCell.none

/-- The row of the last needle character. `index` is that of the current row. -/
def lastRow (index : Nat) (row : List MatchCell) :
    List Char → List Nat → List Cell → List MatchCell
  | target :: needle, start :: starts, cells =>
    let shifted := cells.drop 1
    let next := nextRow target (start - (index + 1)) 0 0 row shifted
    lastRow (index + 1) next needle starts shifted
  | _, _, _ => row

/-- The best score of aligning a needle with a window. -/
def alignScore? (needle : List Char) (cells : List Cell) : Option Nat :=
  match needle, rowStarts 0 needle cells with
  | head :: tail, some (_ :: starts) =>
    let width := cells.length + 1 - needle.length
    let row := lastRow 0 (firstRow head width cells) tail starts cells
    some (row.foldl (fun best cell => max best cell.score) 0)
  | _, _ => none

/-- The start of the shortest window that ends where the greedy match ends. -/
def shrinkStart (folding : Folding) : List Char → List Char → Nat → Nat
  | n :: needle, c :: reversed, position =>
    if folding.apply c = n then
      if needle.isEmpty then position - 1 else shrinkStart folding needle reversed (position - 1)
    else shrinkStart folding (n :: needle) reversed (position - 1)
  | _, _, position => position

/-- The score of the shortest window of the greedy match. -/
def greedyScore? (atom : Atom) (haystack : List Char) (window : Window) : Option Nat :=
  match greedyEnd? atom.folding (window.first + 1) (atom.needle.chars.drop 1)
      (haystack.drop (window.first + 1)) with
  | none => none
  | some last =>
    let first := shrinkStart atom.folding atom.needle.chars.reverse (haystack.take last).reverse last
    some (scoreWindow atom haystack first last)

/-- The score of one atom. -/
def Atom.score? (atom : Atom) (haystack : Units) : Option Nat :=
  let size := haystack.chars.length
  let needleSize := atom.needle.chars.length
  if size < needleSize then none
  else if haystack.isAscii && !atom.needle.isAscii then none
  else if size = needleSize then exactScore? atom haystack.chars 0 size
  else
    match atom.needle.chars with
    | [single] =>
      if haystack.isAscii then singlePlain? single atom.folding haystack.chars
      else singleMarked? single atom.folding haystack.chars
    | needle =>
      match window? atom haystack with
      | none => none
      | some window =>
        if needleSize = window.last - window.first then
          exactScore? atom haystack.chars window.first window.last
        else if maxCells < (window.last - window.first) * needleSize || maxNeedle < needleSize then
          greedyScore? atom haystack.chars window
        else
          alignScore? needle (cellsFrom atom.folding (classBefore haystack.chars window.first)
            ((haystack.chars.take window.last).drop window.first))

/-- The sum of the scores of all atoms, when each of them matches. -/
def score? (atoms : List Atom) (haystack : Units) : Option Nat :=
  atoms.foldl (fun total atom =>
    match total, atom.score? haystack with
    | some sum, some score => some (sum + score)
    | _, _ => none) (some 0)

end SourceAtlas.Fuzzy

import SourceAtlas.Text.CharClass
import SourceAtlas.Text.CharTable.Grapheme

/-!
# User-perceived characters

Text cut into extended grapheme clusters, each represented by its first
character. Fuzzy matching counts in these units.
-/

namespace SourceAtlas.Text.Grapheme

/-- The classes of characters that cluster boundaries depend on. -/
inductive Class where
  | carriageReturn
  | lineFeed
  | control
  | extend
  | joiner
  | regional
  | leading
  | spacingMark
  | hangulLead
  | hangulVowel
  | hangulTail
  | hangulOpen
  | hangulClosed
  | pictographic
  | other
  deriving DecidableEq, Repr

/-- The class of a character. -/
def classOf (c : Char) : Class :=
  let code := c.toNat
  if code = 13 then .carriageReturn
  else if code = 10 then .lineFeed
  else if code < 128 then if code < 32 || code = 127 then .control else .other
  else if code = 0x200D then .joiner
  else if inRanges CharTable.extend code then .extend
  else if inRanges CharTable.leading code then .leading
  else if inRanges CharTable.control code then .control
  else if 0x1F1E6 ≤ code && code ≤ 0x1F1FF then .regional
  else if inRanges CharTable.spacingMark code then .spacingMark
  else if (0x1100 ≤ code && code ≤ 0x115F) || (0xA960 ≤ code && code ≤ 0xA97C) then .hangulLead
  else if (0x1160 ≤ code && code ≤ 0x11A7) || (0xD7B0 ≤ code && code ≤ 0xD7C6) then .hangulVowel
  else if (0x11A8 ≤ code && code ≤ 0x11FF) || (0xD7CB ≤ code && code ≤ 0xD7FB) then .hangulTail
  else if 0xAC00 ≤ code && code ≤ 0xD7A3 then
    if (code - 0xAC00) % 28 = 0 then .hangulOpen else .hangulClosed
  else if inRanges CharTable.pictographic code then .pictographic
  else .other

/-- What a boundary decision needs to know of the text before it. -/
structure Context where
  previous : Class
  /-- The regional indicators just before are odd in number. -/
  oddRegional : Bool
  /-- A pictograph followed only by extending characters stands just before. -/
  afterPictograph : Bool
  /-- The previous character is a joiner behind such a pictograph. -/
  joinedPictograph : Bool

/-- The context behind one more character. -/
def Context.push (context : Option Context) (next : Class) : Context :=
  { previous := next
    oddRegional := next = .regional && !(context.map Context.oddRegional).getD false
    afterPictograph :=
      next = .pictographic || (next = .extend && (context.map Context.afterPictograph).getD false)
    joinedPictograph := next = .joiner && (context.map Context.afterPictograph).getD false }

/-- Whether the next character continues the cluster. -/
def Context.continues (context : Context) (next : Class) : Bool :=
  match context.previous, next with
  | .carriageReturn, .lineFeed => true
  | .carriageReturn, _ => false
  | .lineFeed, _ => false
  | .control, _ => false
  | _, .carriageReturn => false
  | _, .lineFeed => false
  | _, .control => false
  | .hangulLead, .hangulLead => true
  | .hangulLead, .hangulVowel => true
  | .hangulLead, .hangulOpen => true
  | .hangulLead, .hangulClosed => true
  | .hangulOpen, .hangulVowel => true
  | .hangulOpen, .hangulTail => true
  | .hangulVowel, .hangulVowel => true
  | .hangulVowel, .hangulTail => true
  | .hangulClosed, .hangulTail => true
  | .hangulTail, .hangulTail => true
  | _, .extend => true
  | _, .joiner => true
  | _, .spacingMark => true
  | .leading, _ => true
  | .joiner, .pictographic => context.joinedPictograph
  | .regional, .regional => context.oddRegional
  | _, _ => false

/-- The first characters of the clusters of a text. -/
def headsFrom : Option Context → List Char → List Char
  | _, [] => []
  | context, c :: rest =>
    let next := classOf c
    let pushed := Context.push context next
    if (context.map fun before => before.continues next).getD false then
      headsFrom (some pushed) rest
    else
      let head := match c, rest with
        | '\r', '\n' :: _ => '\n'
        | _, _ => c
      head :: headsFrom (some pushed) rest

/-- The first characters of the clusters of a text; a line end of two characters counts as the line
feed. -/
def heads (text : String) : List Char := headsFrom none text.toList

end SourceAtlas.Text.Grapheme

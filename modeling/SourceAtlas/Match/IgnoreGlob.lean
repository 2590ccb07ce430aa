import SourceAtlas.Text.Split

/-!
# Globs of ignore rules

A glob is matched against the bytes of a whole relative path. A star and a
question mark stay inside one path component; a double star that fills a
component crosses components. Braces hold alternatives, brackets hold classes,
and a backslash takes the next character as it is.

Reading expands the alternatives, so a glob is a list of plain token sequences
of which one has to match.
-/

namespace SourceAtlas

/-- The pieces of a glob. -/
inductive GlobToken where
  | byte (value : UInt8)
  /-- One byte other than a slash. -/
  | anyByte
  /-- Any number of bytes other than a slash. -/
  | anyRun
  /-- Whole components at the start of the path, or nothing. -/
  | anyLead
  /-- A slash and anything behind it. -/
  | anyTail
  /-- One slash, or whole components between two slashes. -/
  | anyMiddle
  | anything
  /-- One byte inside, or outside, of the spans. -/
  | oneOf (negated : Bool) (spans : List (UInt8 × UInt8))
  deriving DecidableEq, Repr

/-- What is wrong with a glob. -/
inductive GlobFault where
  | unclosedClass
  | invalidRange (first last : Char)
  | unopenedGroup
  | unclosedGroup
  | danglingEscape
  deriving DecidableEq, Repr

/-- The wording of a fault. -/
def GlobFault.message : GlobFault → String
  | .unclosedClass => "unclosed character class; missing ']'"
  | .invalidRange first last =>
    "invalid range; '" ++ String.singleton first ++ "' > '" ++ String.singleton last ++ "'"
  | .unopenedGroup =>
    "unopened alternate group; missing '\x7b' (maybe escape '\x7d' with '[\x7d]'?)"
  | .unclosedGroup =>
    "unclosed alternate group; missing '\x7d' (maybe escape '\x7b' with '[\x7b]'?)"
  | .danglingEscape => "dangling '\\'"

/-- A glob: one of the token sequences has to match. -/
structure IgnoreGlob where
  alternatives : List (List GlobToken)
  deriving DecidableEq, Repr

namespace IgnoreGlob

/-- A piece while a glob is read: a token, or a closed group with its alternatives. -/
inductive Item where
  | token (token : GlobToken)
  | group (alternatives : List (List GlobToken))
  deriving DecidableEq, Repr

/-- The token sequences of a list of items. -/
def expand : List Item → List (List GlobToken)
  | [] => [[]]
  | .token token :: rest => (expand rest).map (token :: ·)
  | .group alternatives :: rest =>
    alternatives.flatMap fun chosen => (expand rest).map (chosen ++ ·)

/-- The group of some branches. Branches that hold nothing are left out; a group of such branches
only is nothing itself. -/
def groupOf (branches : List (List Item)) : Item :=
  let filled := (branches.map expand).filter (· ≠ [[]])
  .group (if filled.isEmpty then [[]] else filled.flatten)

/-- An open group: what stands before it and its finished branches, all innermost first. -/
structure OpenGroup where
  before : List Item
  finished : List (List Item)

/-- The tokens of one literal character. -/
def literal (c : Char) : List Item :=
  ((String.utf8EncodeChar c).map fun value => Item.token (.byte value)).reverse

/-- A slash as a token. -/
def slash : UInt8 := 47

/-- The byte spans of a character range. A character beyond ASCII counts by its bytes. -/
def spansOf (range : Char × Char) : List (UInt8 × UInt8) :=
  let single := fun (value : UInt8) => (value, value)
  let first := String.utf8EncodeChar range.1
  if range.1 = range.2 then first.map single
  else
    match first.getLast?, String.utf8EncodeChar range.2 with
    | some low, high :: rest =>
      first.dropLast.map single ++ [(low, high)] ++ rest.map single
    | _, _ => []

/-- The outcome of reading a class. -/
inductive ClassText where
  | closed (ranges : List (Char × Char)) (rest : List Char)
  | unclosed
  | invalid (first last : Char)

/-- Read the members of a class, last range first. `inRange` says that a dash waits for the end of
the last range; the first member stands for itself even when it is a bracket or a dash. -/
def classMembers : List (Char × Char) → Bool → Bool → List Char → ClassText
  | _, _, _, [] => .unclosed
  | ranges, isFirst, inRange, c :: rest =>
    if c = ']' ∧ !isFirst then
      .closed (if inRange then ('-', '-') :: ranges else ranges) rest
    else if c = '-' ∧ !isFirst ∧ !inRange then classMembers ranges false true rest
    else
      match inRange, ranges with
      | true, (first, _) :: others =>
        if c < first then .invalid first c
        else classMembers ((first, c) :: others) false false rest
      | _, _ => classMembers ((c, c) :: ranges) false false rest

/-- Read a class behind its opening bracket. -/
def readClass : List Char → Bool × ClassText
  | '!' :: rest => (true, classMembers [] true false rest)
  | '^' :: rest => (true, classMembers [] true false rest)
  | rest => (false, classMembers [] true false rest)

/-- What a double star means, given whether it starts its branch, the character before it, whether
a group is open and the text behind it: its token, whether it takes the place of the slash before
it, and the text left. Otherwise it is two single stars. -/
def doubleStar? (starts : Bool) (previous : Option Char) (inGroup : Bool) (rest : List Char) :
    Option (GlobToken × List Char) :=
  if starts then
    match rest with
    | [] => some (.anyLead, [])
    | '/' :: behind => some (.anyLead, behind)
    | _ => none
  else if previous = some '/' ∨ (inGroup ∧ (previous = some ',' ∨ previous = some '\x7b')) then
    match rest with
    | [] => some (.anyTail, [])
    | '/' :: behind => some (.anyMiddle, behind)
    | c :: _ => if inGroup ∧ (c = ',' ∨ c = '\x7d') then some (.anyTail, rest) else none
  else none

/-- The items after a double star: it replaces the item before it, except that a leading or
trailing double star absorbs the ones that follow. -/
def pushDoubleStar (token : GlobToken) : List Item → List Item
  | [] => [.token token]
  | .token .anyLead :: before => .token .anyLead :: before
  | .token .anyTail :: before => .token .anyTail :: before
  | _ :: before => .token token :: before

/-- Read the items of a glob. `groups` are the open groups, `current` the items of the branch being
read, both innermost first. With `lenient` set a bracket that is never closed stands for itself.
The fuel bounds the number of steps. -/
def readItems (lenient : Bool) : Nat → Bool → List OpenGroup → List Item → Option Char →
    List Char → Except GlobFault (List Item)
  | 0, _, _, current, _, _ => .ok current.reverse
  | _ + 1, _, groups, current, _, [] =>
    if groups.isEmpty then .ok current.reverse else .error .unclosedGroup
  | fuel + 1, plainBrackets, groups, current, previous, c :: rest =>
    let next := fun (current : List Item) (rest : List Char) =>
      readItems lenient fuel plainBrackets groups current (some c) rest
    if c = '?' then next (.token .anyByte :: current) rest
    else if c = '*' then
      match rest with
      | '*' :: behind =>
        match doubleStar? current.isEmpty previous (!groups.isEmpty) behind with
        | some (token, left) =>
          let last := if left.length < behind.length then some '/' else some '*'
          readItems lenient fuel plainBrackets groups (pushDoubleStar token current) last left
        | none => next (.token .anyRun :: .token .anyRun :: current) behind
      | _ => next (.token .anyRun :: current) rest
    else if c = '[' ∧ !plainBrackets then
      match readClass rest with
      | (negated, .closed ranges left) =>
        let token := GlobToken.oneOf negated (ranges.reverse.flatMap spansOf)
        readItems lenient fuel plainBrackets groups (.token token :: current) (some ']') left
      | (_, .unclosed) =>
        if lenient then
          readItems lenient fuel true groups (literal c ++ current) (some c) rest
        else .error .unclosedClass
      | (_, .invalid first last) => .error (.invalidRange first last)
    else if c = '\x7b' then
      readItems lenient fuel plainBrackets (⟨current, []⟩ :: groups) [] (some c) rest
    else if c = '\x7d' then
      match groups with
      | [] => .error .unopenedGroup
      | group :: outer =>
        let closed := groupOf ((current :: group.finished).map List.reverse)
        readItems lenient fuel plainBrackets outer (closed :: group.before) (some c) rest
    else if c = ',' then
      match groups with
      | [] => next (literal c ++ current) rest
      | group :: outer =>
        let group := { group with finished := current :: group.finished }
        readItems lenient fuel plainBrackets (group :: outer) [] (some c) rest
    else if c = '\\' then
      match rest with
      | [] => .error .danglingEscape
      | escaped :: behind =>
        readItems lenient fuel plainBrackets groups (literal escaped ++ current) (some escaped)
          behind
    else next (literal c ++ current) rest

/-- Read a glob. One that is a leading double star alone matches everything. -/
def parse (lenient : Bool) (text : String) : Except GlobFault IgnoreGlob := do
  let items ← readItems lenient (text.length + 1) false [] [] none text.toList
  match items with
  | [.token .anyLead] => .ok ⟨[[.anything]]⟩
  | items => .ok ⟨expand items⟩

/-- Whether some rest of the text satisfies `accept`. -/
def anyRest (accept : List UInt8 → Bool) : List UInt8 → Bool
  | [] => accept []
  | value :: rest => accept (value :: rest) || anyRest accept rest

/-- Whether the text behind some slash satisfies `accept`. -/
def anyBehindSlash (accept : List UInt8 → Bool) : List UInt8 → Bool
  | [] => false
  | value :: rest => (value == slash && accept rest) || anyBehindSlash accept rest

/-- Whether the text left after some bytes other than slashes satisfies `accept`. -/
def anyWithin (accept : List UInt8 → Bool) : List UInt8 → Bool
  | [] => accept []
  | value :: rest => accept (value :: rest) || (value != slash && anyWithin accept rest)

/-- Whether tokens match a whole text. -/
def matchTokens : List GlobToken → List UInt8 → Bool
  | [], text => text.isEmpty
  | .anyRun :: tokens, text => anyWithin (matchTokens tokens) text
  | .anything :: tokens, text => anyRest (matchTokens tokens) text
  | .anyLead :: tokens, text =>
    matchTokens tokens text || anyBehindSlash (matchTokens tokens) text
  | .anyTail :: tokens, value :: rest => value == slash && anyRest (matchTokens tokens) rest
  | .anyMiddle :: tokens, value :: rest =>
    value == slash && (matchTokens tokens rest || anyBehindSlash (matchTokens tokens) rest)
  | .byte expected :: tokens, value :: rest => value == expected && matchTokens tokens rest
  | .anyByte :: tokens, value :: rest => value != slash && matchTokens tokens rest
  | .oneOf negated spans :: tokens, value :: rest =>
    (spans.any fun span => span.1 ≤ value && value ≤ span.2) != negated &&
      matchTokens tokens rest
  | _ :: _, [] => false

/-- Whether a glob matches the bytes of a path. -/
def accepts (glob : IgnoreGlob) (path : List UInt8) : Bool :=
  glob.alternatives.any fun tokens => matchTokens tokens path

end IgnoreGlob

end SourceAtlas

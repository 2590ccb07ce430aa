import SourceAtlas.Text.Split

/-!
# Path patterns of symbol queries

Globs matched against whole paths. A star and a question mark also match
slashes; a double star stands only as a whole path component and matches any
number of components.
-/

namespace SourceAtlas

/-- A member of a bracketed class: one character or a range. -/
structure CharSpan where
  first : Char
  last : Char
  deriving DecidableEq, Repr

/-- Whether a character lies in one of the spans. -/
def CharSpan.anyContains (spans : List CharSpan) (c : Char) : Bool :=
  spans.any fun span => span.first ≤ c && c ≤ span.last

/-- The pieces of a path pattern. -/
inductive PatternToken where
  | literal (c : Char)
  | anyChar
  | anySequence
  | anyComponents
  | within (spans : List CharSpan)
  | except (spans : List CharSpan)
  deriving DecidableEq, Repr

/-- What is wrong with a pattern. -/
inductive PatternFault where
  | tooManyStars
  | brokenComponent
  | invalidRange
  deriving DecidableEq, Repr

/-- The wording of a fault. -/
def PatternFault.message : PatternFault → String
  | .tooManyStars => "wildcards are either regular `*` or recursive `**`"
  | .brokenComponent => "recursive wildcards must form a single path component"
  | .invalidRange => "invalid range pattern"

/-- A fault and the character position it is reported at. -/
structure PatternError where
  position : Nat
  fault : PatternFault
  deriving DecidableEq, Repr

/-- The wording of an error. -/
def PatternError.message (error : PatternError) : String :=
  "Pattern syntax error near position " ++ toString error.position ++ ": " ++ error.fault.message

/-- A pattern over whole paths. -/
structure PathPattern where
  tokens : List PatternToken
  deriving DecidableEq, Repr

namespace PathPattern

/-- The spans of the text between brackets. -/
def spansOf : List Char → List CharSpan
  | first :: '-' :: last :: rest => { first, last } :: spansOf rest
  | c :: rest => { first := c, last := c } :: spansOf rest
  | [] => []

/-- The class text up to the closing bracket and the text behind it. The first character belongs to
the class even when it is a bracket. -/
def classText : List Char → Option (List Char × List Char)
  | first :: rest =>
    match Text.cutChars [']'] rest with
    | some (body, after) => some (first :: body, after)
    | none => none
  | [] => none

/-- Read the tokens of a pattern. `position` counts the characters read, `previous` is the one just
before; the fuel bounds the number of tokens. -/
def tokensFrom : Nat → Nat → Option Char → List Char → Except PatternError (List PatternToken)
  | 0, _, _, _ => .ok []
  | _ + 1, _, _, [] => .ok []
  | fuel + 1, position, previous, c :: rest =>
    if c = '?' then
      (tokensFrom fuel (position + 1) (some c) rest).map (PatternToken.anyChar :: ·)
    else if c = '*' then
      let more := rest.takeWhile (· = '*')
      let after := rest.dropWhile (· = '*')
      if 1 < more.length then .error ⟨position + 2, .tooManyStars⟩
      else if more.length = 1 then
        if previous.isNone || previous = some '/' then
          match after with
          | [] => .ok [.anyComponents]
          | next :: behind =>
            if next = '/' then
              (tokensFrom fuel (position + 3) (some '/') behind).map
                (PatternToken.anyComponents :: ·)
            else .error ⟨position + 2, .brokenComponent⟩
        else .error ⟨position - 1, .brokenComponent⟩
      else (tokensFrom fuel (position + 1) (some c) rest).map (PatternToken.anySequence :: ·)
    else if c = '[' then
      match rest with
      | '!' :: inner =>
        match classText inner with
        | some (body, after) =>
          (tokensFrom fuel (position + body.length + 3) (some ']') after).map
            (PatternToken.except (spansOf body) :: ·)
        | none => .error ⟨position, .invalidRange⟩
      | inner =>
        match classText inner with
        | some (body, after) =>
          (tokensFrom fuel (position + body.length + 2) (some ']') after).map
            (PatternToken.within (spansOf body) :: ·)
        | none => .error ⟨position, .invalidRange⟩
    else (tokensFrom fuel (position + 1) (some c) rest).map (PatternToken.literal c :: ·)

/-- Read a pattern. -/
def parse (pattern : String) : Except PatternError PathPattern :=
  (tokensFrom (pattern.length + 1) 0 none pattern.toList).map fun tokens => { tokens }

/-- Whether some suffix of a text satisfies `accept`. -/
def anySuffix (accept : List Char → Bool) : List Char → Bool
  | [] => accept []
  | c :: rest => accept (c :: rest) || anySuffix accept rest

/-- Whether the text itself, a suffix just after a slash, or the empty suffix satisfies
`accept`. -/
def anyComponentSuffix (accept : List Char → Bool) (text : List Char) : Bool :=
  accept text || behindSlash text
where
  /-- Look behind every slash and at the end. -/
  behindSlash : List Char → Bool
    | [] => accept []
    | c :: rest => (c == '/' && accept rest) || behindSlash rest

/-- Whether tokens match a whole text. -/
def matchTokens : List PatternToken → List Char → Bool
  | [], text => text.isEmpty
  | .anySequence :: tokens, text => anySuffix (matchTokens tokens) text
  | .anyComponents :: tokens, text => anyComponentSuffix (matchTokens tokens) text
  | .literal expected :: tokens, c :: rest => c == expected && matchTokens tokens rest
  | .anyChar :: tokens, _ :: rest => matchTokens tokens rest
  | .within spans :: tokens, c :: rest =>
    CharSpan.anyContains spans c && matchTokens tokens rest
  | .except spans :: tokens, c :: rest =>
    !CharSpan.anyContains spans c && matchTokens tokens rest
  | _ :: _, [] => false

/-- Whether a pattern matches a whole path. -/
def accepts (pattern : PathPattern) (path : String) : Bool :=
  matchTokens pattern.tokens path.toList

end PathPattern

end SourceAtlas

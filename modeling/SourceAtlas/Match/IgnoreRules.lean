import SourceAtlas.Match.IgnoreGlob
import SourceAtlas.Path.Key
import SourceAtlas.Text.CharClass

/-!
# Ignore rules

Rule lines say which paths below a directory are left out. The last rule that
matches decides; a line that starts with an exclamation mark keeps what an
earlier line left out. A rule without a slash matches at any depth, one that
ends in a slash matches directories only.
-/

namespace SourceAtlas

/-- What rules say about a path. -/
inductive Verdict where
  | undecided
  | ignored
  | kept
  deriving DecidableEq, Repr

/-- The first verdict that decides. -/
def Verdict.orElse : Verdict → Verdict → Verdict
  | .undecided, other => other
  | verdict, _ => verdict

/-- One rule. -/
structure IgnoreRule where
  glob : IgnoreGlob
  /-- A match keeps the path. -/
  keeps : Bool
  directoriesOnly : Bool
  deriving DecidableEq, Repr

/-- The rules of one file, in the order of its lines. -/
abbrev IgnoreRules := List IgnoreRule

namespace IgnoreRule

/-- The parts of a rule line: the text of its glob and its flags. -/
structure Line where
  text : String
  keeps : Bool
  directoriesOnly : Bool
  deriving DecidableEq, Repr

/-- A line without white space at its end, unless the last character is an escaped space. -/
def trimmed (line : String) : String :=
  if Text.endsWith "\\ " line then line else Text.trimEnd line

/-- Mark the glob as one for directories when it ends in a slash. -/
def dropFinalSlash (text : List Char) : List Char × Bool :=
  match text.reverse with
  | '/' :: '\\' :: rest => (rest.reverse, true)
  | '/' :: rest => (rest.reverse, true)
  | _ => (text, false)

/-- Give a glob without slashes, unless it is anchored, a leading double star; make a final double
star mean everything below. -/
def anchored (isAbsolute : Bool) (text : String) : String :=
  let text :=
    if !isAbsolute && !Text.contains "/" text && text ≠ "**" then "**/" ++ text else text
  if Text.endsWith "/**" text then text ++ "/*" else text

/-- The parts of a trimmed line; comments and blank lines have none. -/
def readLine? (line : String) : Option Line :=
  match line.toList with
  | [] => none
  | '#' :: _ => none
  | '\\' :: '!' :: rest => some (build false false ('!' :: rest))
  | '\\' :: '#' :: rest => some (build false false ('#' :: rest))
  | '!' :: '/' :: rest => some (build true true rest)
  | '!' :: rest => some (build true false rest)
  | '/' :: rest => some (build false true rest)
  | chars => some (build false false chars)
where
  /-- Assemble the parts from the text behind the marks. -/
  build (keeps isAbsolute : Bool) (chars : List Char) : Line :=
    let (text, directoriesOnly) := dropFinalSlash chars
    { text := anchored isAbsolute (String.ofList text), keeps, directoriesOnly }

/-- Read a rule from a line: no rule, a rule, or a faulty glob. -/
def ofLine (lenient : Bool) (line : String) : Except GlobFault (Option IgnoreRule) :=
  if Text.startsWith "#" line then .ok none
  else
    match readLine? (trimmed line) with
    | none => .ok none
    | some { text, keeps, directoriesOnly } =>
      (IgnoreGlob.parse lenient text).map fun glob => some { glob, keeps, directoriesOnly }

end IgnoreRule

namespace IgnoreRules

/-- The verdict of the last rule that matches a path. -/
def verdict (rules : IgnoreRules) (isDirectory : Bool) (path : String) : Verdict :=
  let bytes := path.toUTF8.toList
  match rules.reverse.find? fun rule =>
      (isDirectory || !rule.directoriesOnly) && rule.glob.accepts bytes with
  | none => .undecided
  | some rule => if rule.keeps then .kept else .ignored

/-- The path and every directory above it, nearest first; the last one is the empty path. -/
def ancestors : List String → List (List String)
  | [] => []
  | _ :: outer => outer :: ancestors outer

/-- The verdict on a path or, where there is none, on the nearest directory above it that has
one. -/
def verdictOnAncestry (rules : IgnoreRules) (path : String) : Verdict :=
  let parts := (PathKey.segments path).reverse
  (ancestors parts).foldl
    (fun found outer =>
      found.orElse (rules.verdict true (PathKey.ofSegments outer.reverse)))
    (rules.verdict false path)

/-- The lines of an ignore file, up to the first one that is not valid text. -/
def linesOf (content : List UInt8) : List String :=
  let texts := (runs content).map fun line => String.fromUTF8? ⟨line.toArray⟩
  ((texts.takeWhile Option.isSome).filterMap id).map dropReturn
where
  /-- The bytes between line feeds; each run but the last keeps a mark that a line feed ended it. -/
  runs : List UInt8 → List (List UInt8)
    | [] => []
    | value :: rest =>
      if value = 10 then [value] :: runs rest
      else
        match rest with
        | [] => [[value]]
        | _ =>
          match runs rest with
          | [] => [[value]]
          | run :: more => (value :: run) :: more
  /-- The text of a line without the characters that end it. -/
  dropReturn (line : String) : String :=
    match line.toList.reverse with
    | '\n' :: '\r' :: kept => String.ofList kept.reverse
    | '\n' :: kept => String.ofList kept.reverse
    | _ => line

/-- Drop byte order marks at the start of the first line. -/
def dropMarks : List String → List String
  | [] => []
  | first :: rest => Text.trimStartMatches (· == '\uFEFF') first :: rest

/-- The rules of an ignore file. Lines with a faulty glob are passed over. -/
def ofFile (content : ByteArray) : IgnoreRules :=
  (dropMarks (linesOf content.toList)).filterMap fun line =>
    match IgnoreRule.ofLine true line with
    | .ok rule => rule
    | .error _ => none

end IgnoreRules

end SourceAtlas

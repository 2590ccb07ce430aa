import SourceAtlas.Text.CharClass

/-!
# Names bound by a use declaration

The names are read off the text of the declaration: the items between its first
opening and its last closing brace, or the whole text, cut at commas.
-/

namespace SourceAtlas.Code.Crate

/-- The part of a text between its first opening and its last closing brace, if the braces stand in
that order; otherwise the text. -/
def betweenBraces (argument : String) : String :=
  match Text.cut "\x7b" argument with
  | some (_, after) =>
    match Text.cutLast '\x7d' after with
    | some (inner, _) => inner
    | none => argument
  | none => argument

/-- The text behind the last double colon. -/
def lastSegment (item : String) : String :=
  match Text.cutChars [':', ':'] item.toList.reverse with
  | some (segment, _) => String.ofList segment.reverse
  | none => item

/-- The name that one item binds: its rename or its last segment. Globs, `self` and pieces with an
opening brace bind none. -/
def boundName? (item : String) : Option String :=
  let item := Text.trim item
  let name :=
    match Text.cut " as " item with
    | some (_, rename) => Text.trim rename
    | none => Text.trim (lastSegment item)
  if name = "" ∨ name = "*" ∨ name = "self" ∨ Text.contains "\x7b" name then none else some name

/-- The names bound by the argument of a use declaration. -/
def useBindings (argument : String) : List String :=
  (Text.split ',' (betweenBraces argument)).filterMap boundName?

end SourceAtlas.Code.Crate

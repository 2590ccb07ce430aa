import SourceAtlas.Json.Value

/-!
# Indented JSON

A value over several lines: every member of a structure has a line of its own,
two blanks further in than the structure. Empty structures stay on one line.
-/

namespace SourceAtlas.JsonValue

/-- The blanks before a line of the given depth. -/
def indent (depth : Nat) : String := Text.repeated depth "  "

/-- The written members of a structure between its brackets. -/
def bracketed (depth : Nat) (opening closing : String) (members : List String) : String :=
  match members with
  | [] => opening ++ closing
  | members =>
    opening ++ "\n" ++ Text.join ",\n" (members.map (indent (depth + 1) ++ ·)) ++ "\n" ++
      indent depth ++ closing

mutual

/-- The indented form of a value that begins at the given depth. -/
def renderIndented (depth : Nat) : JsonValue → String
  | .array items => bracketed depth "[" "]" (renderIndentedItems (depth + 1) items)
  | .object members => bracketed depth "\x7b" "\x7d" (renderIndentedMembers (depth + 1) members)
  | .null => JsonValue.null.render
  | .boolean value => (JsonValue.boolean value).render
  | .integer value => (JsonValue.integer value).render
  | .real value => (JsonValue.real value).render
  | .text value => (JsonValue.text value).render

/-- The indented forms of the items of an array. -/
def renderIndentedItems (depth : Nat) : List JsonValue → List String
  | [] => []
  | item :: rest => item.renderIndented depth :: renderIndentedItems depth rest

/-- The indented forms of the members of an object. -/
def renderIndentedMembers (depth : Nat) : List (String × JsonValue) → List String
  | [] => []
  | (key, value) :: rest =>
    (quoted key ++ ": " ++ value.renderIndented depth) :: renderIndentedMembers depth rest

end

end SourceAtlas.JsonValue

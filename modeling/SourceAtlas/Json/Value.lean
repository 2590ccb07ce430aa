import SourceAtlas.Number.Decimal
import SourceAtlas.Text.Split

/-!
# JSON values

A JSON text describes a value. Integers keep their exact value, other numbers
their decimal digits; objects keep their members in the order they were
written. `JsonValue.text` writes a value without blanks.
-/

namespace SourceAtlas

/-- A JSON value. -/
inductive JsonValue where
  | null
  | boolean (value : Bool)
  /-- A number written without point and exponent. -/
  | integer (value : Int)
  | real (value : Decimal)
  | text (value : String)
  | array (items : List JsonValue)
  | object (members : List (String × JsonValue))
  deriving Inhabited, Repr

namespace JsonValue

/-- The value of a natural number. -/
def ofNat (value : Nat) : JsonValue := .integer value

/-- The value of an optional part; an absent one is null. -/
def ofOption {α : Type} (encode : α → JsonValue) : Option α → JsonValue
  | some value => encode value
  | none => .null

/-- The array of texts. -/
def ofTexts (texts : List String) : JsonValue := .array (texts.map .text)

/-- The value of a double; one that is not finite has none and becomes null. -/
def ofFloat (x : Float) : JsonValue :=
  if x.isFinite then .real (Decimal.shortest64 x) else .null

/-- The value of a single; one that is not finite has none and becomes null. -/
def ofFloat32 (x : Float32) : JsonValue :=
  if x.isFinite then .real (Decimal.shortest32 x) else .null

/-- The text of real numbers: an exponent from 17 digits before the point on, and from five zeros
behind it on. -/
def realStyle : Decimal.TextStyle := { digitsBefore := some 16, zerosBehind := some 4 }

/-- Four hexadecimal digits of a code. -/
def hexCode (code : Nat) : List Char :=
  [code / 4096 % 16, code / 256 % 16, code / 16 % 16, code % 16].map Nat.digitChar

/-- A character inside quotes. -/
def escaped (c : Char) : List Char :=
  if c = '"' then ['\\', '"']
  else if c = '\\' then ['\\', '\\']
  else if c = '\n' then ['\\', 'n']
  else if c = '\r' then ['\\', 'r']
  else if c = '\t' then ['\\', 't']
  else if c = '\x08' then ['\\', 'b']
  else if c = '\x0c' then ['\\', 'f']
  else if c.toNat < 32 then '\\' :: 'u' :: hexCode c.toNat
  else [c]

/-- A text in quotes. -/
def quoted (text : String) : String :=
  "\"" ++ String.ofList (text.toList.flatMap escaped) ++ "\""

mutual

/-- The written form of a value. -/
def render : JsonValue → String
  | .null => "null"
  | .boolean true => "true"
  | .boolean false => "false"
  | .integer value => toString value
  | .real value => value.text realStyle
  | .text value => quoted value
  | .array items => "[" ++ Text.join "," (renderItems items) ++ "]"
  | .object members => "\x7b" ++ Text.join "," (renderMembers members) ++ "\x7d"

/-- The written forms of the items of an array. -/
def renderItems : List JsonValue → List String
  | [] => []
  | item :: rest => item.render :: renderItems rest

/-- The written forms of the members of an object. -/
def renderMembers : List (String × JsonValue) → List String
  | [] => []
  | (key, value) :: rest => (quoted key ++ ":" ++ value.render) :: renderMembers rest

end

end JsonValue

end SourceAtlas

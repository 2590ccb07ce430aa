import SourceAtlas.Code.Crate.Items
import SourceAtlas.Code.Offside.Blocks
import SourceAtlas.Code.Script.Statement
import SourceAtlas.Path.Key

/-!
# Languages

The language of a file follows from its extension. Reading a file is a pure
function of its path and its text.
-/

namespace SourceAtlas

/-- The languages that can be read. -/
inductive Language where
  | rust
  | python
  | javascript
  | typescript
  /-- TypeScript with markup. -/
  | tsx
  deriving DecidableEq, Repr

namespace Language

/-- Every language. -/
def all : List Language := [.rust, .python, .javascript, .typescript, .tsx]

/-- The name of a language. -/
def label : Language → String
  | .rust => "rust"
  | .python => "python"
  | .javascript => "javascript"
  | .typescript => "typescript"
  | .tsx => "tsx"

/-- The language of an extension. -/
def ofExtension? (extension : String) : Option Language :=
  if extension = "rs" then some .rust
  else if ["py", "pyi"].contains extension then some .python
  else if ["js", "jsx", "mjs", "cjs"].contains extension then some .javascript
  else if ["ts", "mts", "cts"].contains extension then some .typescript
  else if extension = "tsx" then some .tsx
  else none

/-- The language of a path. -/
def ofPath? (path : String) : Option Language := (PathKey.extension? path).bind ofExtension?

/-- A text without the byte order mark at its start. -/
def withoutMark (source : String) : String := (Text.afterLead "\uFEFF" source).getD source

/-- The facts of a source text. -/
def facts (language : Language) (source : String) : FileFacts :=
  let source := withoutMark source
  match language with
  | .rust => Code.Crate.facts source
  | .python => Code.Offside.facts source
  | .javascript => Code.Script.facts { typed := false, markup := true } source
  | .typescript => Code.Script.facts { typed := true, markup := false } source
  | .tsx => Code.Script.facts { typed := true, markup := true } source

/-- The parser of all languages. -/
def parser : FactParser where
  supports path := (ofPath? path).isSome
  parse path text :=
    match ofPath? path with
    | some language => .ok (language.facts text)
    | none => .error ("Unsupported file type: " ++ path)

end Language

end SourceAtlas

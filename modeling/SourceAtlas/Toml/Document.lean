import SourceAtlas.Toml.Scalar

/-!
# TOML documents

A document is a sequence of lines: bindings, headers that say which table the
bindings after them go to, and comments. `parse?` gives the table of the whole
document, or nothing when a line is malformed or binds something twice.
-/

namespace SourceAtlas.Toml

/-- Characters of a comment: no control characters but the tab and the last one. -/
def isCommentChar (c : Char) : Bool := c = '\t' || 32 ≤ c.toNat

/-- The text behind a comment, if one comes next, which has to end with its line. -/
def skipComment? : List Char → Option (List Char)
  | '#' :: rest =>
    let behind := rest.dropWhile isCommentChar
    match behind with
    | [] => some []
    | _ => (newline? behind).map fun _ => behind
  | rest => some rest

/-- The text behind blanks, comments and line ends. -/
def skipLines? : Nat → List Char → Option (List Char)
  | 0, _ => none
  | fuel + 1, chars => do
    let rest ← skipComment? (skipBlanks chars)
    match newline? rest with
    | some next => skipLines? fuel next
    | none => some rest

/-- Characters of a key without quotes. -/
def isBareKeyChar (c : Char) : Bool := c.isAlphanum || c = '_' || c = '-'

/-- One part of a key. -/
def keyPart? : Reader String
  | '"' :: rest =>
    (lineText? false (rest.length + 1) rest).map fun read => (String.ofList read.1, read.2)
  | '\'' :: rest =>
    (lineText? true (rest.length + 1) rest).map fun read => (String.ofList read.1, read.2)
  | chars =>
    let bare := chars.takeWhile isBareKeyChar
    if bare.isEmpty then none else some (String.ofList bare, chars.dropWhile isBareKeyChar)

/-- The parts of a key with dots between them. -/
def key? : Nat → Reader (List String)
  | 0, _ => none
  | fuel + 1, chars => do
    let (part, rest) ← keyPart? (skipBlanks chars)
    match skipBlanks rest with
    | '.' :: rest =>
      let (more, rest) ← key? fuel rest
      some (part :: more, rest)
    | rest => some ([part], rest)

/-- The parts of a key before the last one, and the last one. -/
def splitLast? : List String → Option (List String × String)
  | [] => none
  | [key] => some ([], key)
  | part :: rest => (splitLast? rest).map fun split => (part :: split.1, split.2)

/-- The text behind a word that has to come next. -/
def word : List Char → List Char → Option (List Char)
  | [], rest => some rest
  | _ :: _, [] => none
  | c :: wanted, other :: rest => if c = other then word wanted rest else none

/-- How deep values may be nested. -/
def maxNesting : Nat := 80

mutual

/-- A value. The first number bounds the nesting, the second the steps. -/
def value? : Nat → Nat → Reader TomlValue
  | _, 0, _ => none
  | nesting, fuel + 1, chars =>
    match chars with
    | '"' :: _ => (text? chars).map fun read => (.text read.1, read.2)
    | '\'' :: _ => (text? chars).map fun read => (.text read.1, read.2)
    | '[' :: rest =>
      match nesting with
      | 0 => none
      | inner + 1 => (items? inner fuel rest).map fun read => (.array read.1, read.2)
    | '\x7b' :: rest =>
      match nesting with
      | 0 => none
      | inner + 1 =>
        match skipBlanks rest with
        | '\x7d' :: rest => some (.inlineTable [], rest)
        | rest =>
          (members? inner fuel rest {}).map fun read => (.inlineTable read.1.members, read.2)
    | 't' :: rest => (word "rue".toList rest).map fun rest => (.boolean true, rest)
    | 'f' :: rest => (word "alse".toList rest).map fun rest => (.boolean false, rest)
    | _ => numeric? chars

/-- The items of an array up to its closing bracket. -/
def items? : Nat → Nat → Reader (List TomlValue)
  | _, 0, _ => none
  | nesting, fuel + 1, chars => do
    match ← skipLines? (chars.length + 1) chars with
    | ']' :: rest => some ([], rest)
    | rest =>
      let (item, rest) ← value? nesting fuel rest
      match ← skipLines? (rest.length + 1) rest with
      | ',' :: rest =>
        let (more, rest) ← items? nesting fuel rest
        some (item :: more, rest)
      | ']' :: rest => some ([item], rest)
      | _ => none

/-- The bindings of a table in braces up to the closing brace. -/
def members? : Nat → Nat → List Char → TomlTable → Option (TomlTable × List Char)
  | _, 0, _, _ => none
  | nesting, fuel + 1, chars, table => do
    let (parts, rest) ← key? (chars.length + 1) chars
    let (outer, key) ← splitLast? parts
    match rest with
    | '=' :: rest =>
      let (value, rest) ← value? nesting fuel (skipBlanks rest)
      let table ← table.bindPath? outer key value
      match skipBlanks rest with
      | ',' :: rest => members? nesting fuel rest table
      | '\x7d' :: rest => some (table, rest)
      | _ => none
    | _ => none

end

/-- A document under construction: the finished part and the table that bindings go to. -/
structure Builder where
  root : TomlTable := {}
  current : TomlTable := {}
  /-- The header of the current table, empty before the first one. -/
  path : List String := []
  /-- Whether the current table has a double header. -/
  isRepeated : Bool := false

namespace Builder

/-- Put the current table into the finished part. -/
def close? (builder : Builder) : Option TomlTable :=
  match splitLast? builder.path with
  | none => some builder.current
  | some (outer, key) =>
    TomlTable.modifyAt false (fun parent =>
      if builder.isRepeated then
        match parent.get? key with
        | some (.tables items) =>
          some (parent.set key (.tables (items ++ [builder.current.members])))
        | none => some (parent.set key (.tables [builder.current.members]))
        | some _ => none
      else some (parent.set key builder.current.toValue)) outer builder.root

/-- The table at a path, for a header: it may have been implied by a longer header. -/
def openTable? (root : TomlTable) (path : List String) : Option Builder := do
  let (outer, key) ← splitLast? path
  let found ← tableAt? outer root
  match found.get? key with
  | none =>
    let root ← TomlTable.modifyAt false some outer root
    some { root, path }
  | some (.table .implied members) =>
    let root ← TomlTable.modifyAt false (fun parent => some (parent.erase key)) outer root
    some { root, current := { members }, path }
  | some _ => none
where
  /-- The table a path leads to, empty when it is not there yet. -/
  tableAt? : List String → TomlTable → Option TomlTable
    | [], table => some table
    | key :: rest, table =>
      match table.get? key with
      | none => some {}
      | some (.table origin members) => tableAt? rest { origin, members }
      | some (.tables items) => tableAt? rest { members := items.getLast?.getD [] }
      | some _ => none

/-- A new table for a double header. -/
def openRepeated? (root : TomlTable) (path : List String) : Option Builder := do
  let (outer, key) ← splitLast? path
  let root ← TomlTable.modifyAt false (fun parent =>
    match parent.get? key with
    | none => some (parent.set key (.tables []))
    | some (.tables _) => some parent
    | some _ => none) outer root
  some { root, path, isRepeated := true }

end Builder

/-- The text behind the end of a line: blanks, a comment and a line end or the end of all. -/
def lineEnd? (chars : List Char) : Option (List Char) := do
  let rest ← skipComment? (skipBlanks chars)
  match rest with
  | [] => some []
  | _ => newline? rest

/-- One binding or header at the start of a line. -/
def entry? (builder : Builder) (chars : List Char) : Option (Builder × List Char) := do
  match chars with
  | '[' :: '[' :: rest =>
    let (path, rest) ← key? (rest.length + 1) rest
    match rest with
    | ']' :: ']' :: rest => some (← Builder.openRepeated? (← builder.close?) path, rest)
    | _ => none
  | '[' :: rest =>
    let (path, rest) ← key? (rest.length + 1) rest
    match rest with
    | ']' :: rest => some (← Builder.openTable? (← builder.close?) path, rest)
    | _ => none
  | _ =>
    let (parts, rest) ← key? (chars.length + 1) chars
    let (outer, key) ← splitLast? parts
    match rest with
    | '=' :: rest =>
      let (value, rest) ← value? maxNesting (rest.length + 1) (skipBlanks rest)
      some ({ builder with current := ← builder.current.bindPath? outer key value }, rest)
    | _ => none

/-- Line after line. -/
def lines? : Nat → Builder → List Char → Option TomlTable
  | 0, _, _ => none
  | fuel + 1, builder, chars => do
    match ← skipLines? (chars.length + 1) chars with
    | [] => builder.close?
    | rest =>
      let (builder, rest) ← entry? builder rest
      lines? fuel builder (← lineEnd? rest)

/-- The text without a byte order mark at its start. -/
def withoutMark (chars : List Char) : List Char :=
  match chars with
  | c :: rest => if c.toNat = 0xFEFF then rest else chars
  | [] => []

/-- The table of a document. -/
def parse? (document : String) : Option TomlTable :=
  let chars := withoutMark document.toList
  lines? (chars.length + 1) {} chars

end SourceAtlas.Toml

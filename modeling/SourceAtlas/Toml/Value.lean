import SourceAtlas.Number.Decimal

/-!
# TOML values

The values of a TOML document. A table remembers how it came about, since that
decides whether a later line may add to it.
-/

namespace SourceAtlas

/-- How a table came about. -/
inductive TomlOrigin where
  /-- By a header of its own, or as the document itself. -/
  | header
  /-- As a part of the header of a table inside it. -/
  | implied
  /-- As a part of a dotted key. -/
  | dotted
  deriving DecidableEq, Repr

/-- A TOML value. -/
inductive TomlValue where
  | text (value : String)
  | integer (value : Int)
  | real (value : Float)
  | boolean (value : Bool)
  /-- A date, a time or both, as written. -/
  | moment (written : String)
  | array (items : List TomlValue)
  /-- A table in braces; nothing can be added to it later. -/
  | inlineTable (members : List (String × TomlValue))
  | table (origin : TomlOrigin) (members : List (String × TomlValue))
  /-- The tables of repeated double headers. -/
  | tables (items : List (List (String × TomlValue)))
  deriving Inhabited

/-- A table under construction. -/
structure TomlTable where
  origin : TomlOrigin := .header
  members : List (String × TomlValue) := []
  deriving Inhabited

namespace TomlTable

/-- The value of a key. -/
def get? (table : TomlTable) (key : String) : Option TomlValue :=
  (table.members.find? fun member => member.1 = key).map Prod.snd

/-- Bind a key in place of an earlier binding or at the end. -/
def set (table : TomlTable) (key : String) (value : TomlValue) : TomlTable :=
  if table.members.any fun member => member.1 = key then
    { table with
      members := table.members.map fun member => if member.1 = key then (key, value) else member }
  else { table with members := table.members ++ [(key, value)] }

/-- Drop a key. -/
def erase (table : TomlTable) (key : String) : TomlTable :=
  { table with members := table.members.filter fun member => member.1 ≠ key }

/-- The table as a value. -/
def toValue (table : TomlTable) : TomlValue := .table table.origin table.members

/-- Change the table that a path of keys leads to. Missing tables are made. A dotted key does not
reach into a table with a header; of repeated tables the last one is meant. -/
def modifyAt (dotted : Bool) (change : TomlTable → Option TomlTable) :
    List String → TomlTable → Option TomlTable
  | [], table => change table
  | key :: rest, table =>
    match table.get? key with
    | none => do
      let origin := if dotted then .dotted else .implied
      let inner ← modifyAt dotted change rest { origin }
      some (table.set key inner.toValue)
    | some (.table origin members) =>
      if dotted ∧ origin = .header then none
      else do
        let inner ← modifyAt dotted change rest { origin, members }
        some (table.set key inner.toValue)
    | some (.tables items) =>
      match items.reverse with
      | [] => none
      | last :: before => do
        let inner ← modifyAt dotted change rest { members := last }
        some (table.set key (.tables (before.reverse ++ [inner.members])))
    | some _ => none

/-- Bind a new key; a dotted key binds only in tables made by dotted keys, a plain one only in
others. -/
def bind? (isDotted : Bool) (key : String) (value : TomlValue) (table : TomlTable) :
    Option TomlTable :=
  if isDotted ≠ (table.origin = .dotted) ∨ (table.get? key).isSome then none
  else some (table.set key value)

/-- Bind a key that may have dots, given by its parts before the last and the last. -/
def bindPath? (table : TomlTable) (outer : List String) (key : String) (value : TomlValue) :
    Option TomlTable :=
  modifyAt true (bind? (!outer.isEmpty) key value) outer table

end TomlTable

end SourceAtlas

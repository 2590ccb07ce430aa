import SourceAtlas.Path.Key

/-!
# Import resolution

A specifier is tried against the files that are known: relative ones from the
importer's directory, rooted ones from the top, all others name packages. The
candidates of a base path are the path itself, the path with each extension,
and an index file in the directory of that name.
-/

namespace SourceAtlas.Graph

/-- What an import refers to. -/
inductive Resolution where
  /-- A known file. -/
  | internal (file : String)
  /-- A package outside the tree. -/
  | external (package : String)
  /-- A path with no known file. -/
  | unresolved (specifier : String)
  deriving DecidableEq, Repr

/-- How imports are resolved. -/
structure Resolver where
  /-- Extensions to try, each with its leading dot. -/
  extensions : List String
  /-- Whether package imports are remembered. -/
  includeExternals : Bool
  deriving DecidableEq, Repr

namespace Resolver

/-- A resolver for extensions written with or without the leading dot. -/
def ofExtensions (extensions : List String) (includeExternals : Bool) : Resolver where
  extensions := extensions.map fun ext => if Text.startsWith "." ext then ext else "." ++ ext
  includeExternals

/-- Specifiers that start at the importer's directory. -/
def isRelative (specifier : String) : Bool :=
  specifier = "." || specifier = ".." || Text.startsWith "./" specifier ||
    Text.startsWith "../" specifier

/-- A specifier joined to a directory, in normal form. -/
def join? (dir specifier : String) : Option String :=
  if dir = "" then PathKey.normalize? specifier
  else PathKey.normalize? (dir ++ "/" ++ specifier)

/-- Where a specifier points: to a base path, above the root, or to a package. -/
inductive Target where
  | base (path : String)
  | aboveRoot
  | package
  deriving DecidableEq, Repr

/-- The target of a specifier. -/
def target (importer specifier : String) : Target :=
  if isRelative specifier then
    match join? (PathKey.directory importer) specifier with
    | some path => .base path
    | none => .aboveRoot
  else
    match Text.afterLead "/" specifier with
    | some rooted =>
      match PathKey.normalize? rooted with
      | some path => .base path
      | none => .aboveRoot
    | none => .package

/-- The importer's own extension, when it has one that is not configured. -/
def importerExtension? (resolver : Resolver) (importer : String) : Option String :=
  match Text.cutLast '.' importer with
  | some (_, ext) =>
    if ext.contains '/' || resolver.extensions.contains ("." ++ ext) then none
    else some ("." ++ ext)
  | none => none

/-- The extensions tried for an importer. -/
def extensionsFor (resolver : Resolver) (importer : String) : List String :=
  resolver.extensions ++ (resolver.importerExtension? importer).toList

/-- The files tried for a base path, in order. -/
def candidates (extensions : List String) (base : String) : List String :=
  if base = "" then extensions.map ("index" ++ ·)
  else base :: extensions.map (base ++ ·) ++ extensions.map (base ++ "/index" ++ ·)

/-- The files asked for by a specifier, in order. -/
def candidatesOf (resolver : Resolver) (importer specifier : String) : List String :=
  match target importer specifier with
  | .base path => candidates (resolver.extensionsFor importer) path
  | _ => []

/-- Resolve a specifier against the files that exist. -/
def resolve (resolver : Resolver) (importer specifier : String) (exists? : String → Bool) :
    Resolution :=
  match target importer specifier with
  | .package => .external specifier
  | .aboveRoot => .unresolved specifier
  | .base path =>
    match (candidates (resolver.extensionsFor importer) path).find? exists? with
    | some file => .internal file
    | none => .unresolved specifier

/-- The candidates that resolution asks for: it stops at the first that exists. -/
def tried (resolver : Resolver) (importer specifier : String) (exists? : String → Bool) :
    List String :=
  let all := resolver.candidatesOf importer specifier
  all.takeWhile (fun file => !exists? file) ++ (all.find? exists?).toList

end Resolver

end SourceAtlas.Graph

import SourceAtlas.Text.Split

/-!
# Path keys

A path key names a tracked file: its ordinary segments under the root, joined
by slashes. `normalize?` brings any slash-separated path to that form and
refuses one that climbs above the root.
-/

namespace SourceAtlas.PathKey

/-- The segments between slashes, empty ones included. -/
def segments (path : String) : List String := Text.split '/' path

/-- The path made of the given segments. -/
def ofSegments (parts : List String) : String := Text.join "/" parts

/-- The path of a key inside a directory. A directory that ends with a slash, such as `/`, takes no
other one. -/
def below (directory key : String) : String :=
  if Text.endsWith "/" directory then directory ++ key else directory ++ "/" ++ key

/-- Walk the segments with the ordinary ones kept so far, innermost first: blanks and `.` stay in
place, `..` leaves the innermost one and fails when there is none. -/
def normalizeFrom : List String → List String → Option (List String)
  | kept, [] => some kept.reverse
  | kept, part :: rest =>
    if part = "" ∨ part = "." then normalizeFrom kept rest
    else if part = ".." then
      match kept with
      | [] => none
      | _ :: outer => normalizeFrom outer rest
    else normalizeFrom (part :: kept) rest

/-- The key of a path, or nothing when the path climbs above the root. -/
def normalize? (path : String) : Option String :=
  (normalizeFrom [] (segments path)).map ofSegments

/-- The components of a path as a file system sees them: repeated slashes and inner `.` vanish,
`..` stays. An absolute path starts with the component `/`, a leading `.` of a relative path
stays. -/
def components (path : String) : List String :=
  let parts := segments path
  let inner := parts.filter fun part => part ≠ "" ∧ part ≠ "."
  if Text.startsWith "/" path then "/" :: inner
  else
    match parts with
    | "." :: _ => "." :: inner
    | _ => inner

/-- The components left after the components of `root`. -/
def afterRoot? : List String → List String → Option (List String)
  | [], rest => some rest
  | _ :: _, [] => none
  | part :: root, other :: rest => if part = other then afterRoot? root rest else none

/-- The key of `path` under `root`; the root itself has none. -/
def relative? (root path : String) : Option String :=
  match afterRoot? (components root) (components path) with
  | some [] => none
  | some parts => some (ofSegments parts)
  | none => none

/-- The text after the last slash. -/
def fileName (path : String) : String :=
  match Text.cutLast '/' path with
  | some (_, name) => name
  | none => path

/-- The text before the last slash, empty when there is none. -/
def directory (path : String) : String :=
  match Text.cutLast '/' path with
  | some (dir, _) => dir
  | none => ""

/-- The extension of the last component: the text after its last dot, when something other than
leading dots stands before that dot. -/
def extension? (path : String) : Option String :=
  match (components path).getLast? with
  | none => none
  | some name =>
    if name = ".." ∨ name = "/" ∨ name = "." then none
    else
      match Text.cutLast '.' name with
      | some (stem, ext) => if stem = "" then none else some ext
      | none => none

end SourceAtlas.PathKey

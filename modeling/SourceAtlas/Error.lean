/-!
# Errors of index operations

Each way an operation can fail is a constructor; the wording stands in one
place, `IndexError.message`.
-/

namespace SourceAtlas

/-- Where an index is in its life. -/
inductive IndexPhase where
  /-- Nothing was built yet. -/
  | empty
  /-- A build runs; an incremental one starts from published contents. -/
  | indexing (incremental : Bool)
  /-- Contents are published. -/
  | ready
  /-- The contents were dropped. -/
  | cleared
  deriving DecidableEq, Repr

namespace IndexPhase

/-- The phase as it is displayed. -/
def label : IndexPhase → String
  | .empty => "empty"
  | .indexing false => "indexing"
  | .indexing true => "indexing (incremental)"
  | .ready => "ready"
  | .cleared => "cleared"

/-- Whether queries are answered. -/
def isQueryable : IndexPhase → Bool
  | .ready => true
  | .indexing incremental => incremental
  | _ => false

end IndexPhase

/-- How an access to the file system fails. -/
inductive IoFailure where
  | notFound
  | notDirectory
  | isDirectory
  | alreadyExists
  | nameTooLong
  | tooManyLinks
  | invalidText
  /-- The root of a capture is not a directory. -/
  | rootNotDirectory
  deriving DecidableEq, Repr

/-- The text of a failed access. -/
def IoFailure.message : IoFailure → String
  | .notFound => "No such file or directory (os error 2)"
  | .notDirectory => "Not a directory (os error 20)"
  | .isDirectory => "Is a directory (os error 21)"
  | .alreadyExists => "File exists (os error 17)"
  | .nameTooLong => "File name too long (os error 36)"
  | .tooManyLinks => "Too many levels of symbolic links (os error 40)"
  | .invalidText => "stream did not contain valid UTF-8"
  | .rootNotDirectory => "root is not a directory"

/-- Why an index operation failed. -/
inductive IndexError where
  /-- A file could not be accessed. -/
  | access (path : String) (failure : IoFailure)
  /-- A query needs a build first. -/
  | notReady (operation : String) (phase : IndexPhase)
  /-- A glob pattern is malformed. -/
  | invalidPattern (pattern reason : String)
  /-- An embedding was offered for a symbol that does not exist. -/
  | orphanEmbedding (symbolId : String)
  /-- The query took longer than allowed, in milliseconds. -/
  | timeout (limit : Nat)
  /-- The build was stopped. -/
  | cancelled
  /-- The embedding provider failed or gave a vector that does not fit. -/
  | embedding (reason : String)
  deriving DecidableEq, Repr

/-- A positive decimal fraction without trailing zeros, or nothing when it is zero. -/
def fractionText (digits : List Char) : String :=
  match (digits.reverse.dropWhile (· == '0')).reverse with
  | [] => ""
  | kept => "." ++ String.ofList kept

/-- A duration in milliseconds with its largest unit. -/
def durationText (milliseconds : Nat) : String :=
  if milliseconds = 0 then "0ns"
  else if milliseconds < 1000 then toString milliseconds ++ "ms"
  else
    let rest := toString (1000 + milliseconds % 1000)
    toString (milliseconds / 1000) ++ fractionText (rest.toList.drop 1) ++ "s"

namespace IndexError

/-- The text of an error. -/
def message : IndexError → String
  | access path failure => "I/O error on " ++ path ++ ": " ++ failure.message
  | notReady operation phase =>
    operation ++ " called while the index is " ++ phase.label ++ "; run a build first"
  | invalidPattern pattern reason => "invalid pattern '" ++ pattern ++ "': " ++ reason
  | orphanEmbedding symbolId =>
    "embedding for symbol '" ++ symbolId ++ "' has no matching symbol"
  | timeout limit => "query embedding timed out after " ++ durationText limit
  | cancelled => "index build cancelled"
  | embedding reason => "embedding provider error: " ++ reason

/-- The causes below an error, outermost first. -/
def causes : IndexError → List String
  | access _ failure => [failure.message]
  | _ => []

/-- Whether the error concerns one request and leaves the index usable. -/
def isRequestScoped : IndexError → Bool
  | notReady .. => true
  | invalidPattern .. => true
  | timeout .. => true
  | _ => false

end IndexError

/-- A computation succeeds when its first part does and the rest does after it. -/
theorem bind_eq_ok_iff {ε α β : Type} {first : Except ε α} {rest : α → Except ε β} {result : β} :
    first >>= rest = .ok result ↔ ∃ value, first = .ok value ∧ rest value = .ok result := by
  cases first with
  | error failure => simp [bind, Except.bind]
  | ok value => simp [bind, Except.bind]

/-- A result that passes a check is one. -/
theorem exists_ok_of_any {ε α : Type} {result : Except ε α} {check : α → Bool}
    (checked : result.toOption.any check = true) :
    ∃ value, result = .ok value ∧ check value = true := by
  cases result with
  | error failure => cases checked
  | ok value => exact ⟨value, rfl, checked⟩

theorem eq_ok_of_toOption {ε α : Type} {result : Except ε α} {value : α}
    (found : result.toOption = some value) : result = .ok value := by
  cases result with
  | error failure => cases found
  | ok other =>
    cases found
    rfl

/-- The error of a result that has one. -/
def errorOf? {ε α : Type} (result : Except ε α) : Option ε :=
  match result with
  | .ok _ => none
  | .error error => some error

theorem eq_error_of_errorOf? {ε α : Type} {result : Except ε α} {error : ε}
    (found : errorOf? result = some error) : result = .error error := by
  cases result with
  | error other =>
    cases found
    rfl
  | ok value => cases found

end SourceAtlas

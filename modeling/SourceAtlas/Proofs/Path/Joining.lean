import SourceAtlas.Proofs.Path.Normal

/-!
# Normal forms of joined paths

A path that does not climb above the root has a normal form of ordinary segments,
and the paths of ordinary segments are their own normal forms. A path can be
brought to normal form before another is joined to it: whatever is joined, a path
and its normal form lead to the same place.
-/

namespace SourceAtlas

namespace PathKey

variable {path name : String} {kept parts rest : List String}

/-- A path of ordinary segments only. The blank path has none. -/
def Plain (path : String) : Prop := path = "" ∨ ∀ part ∈ segments path, Ordinary part

/-- The walk over a list of segments goes on from where the walk over its beginning ends. -/
theorem normalizeFrom_append_eq_bind :
    normalizeFrom kept (parts ++ rest) =
      (normalizeFrom kept parts).bind fun walked => normalizeFrom walked.reverse rest := by
  induction parts generalizing kept with
  | nil => simp [normalizeFrom]
  | cons part others inductionHypothesis =>
    rw [List.cons_append]
    rcases segment_cases part with still | rfl | own
    · rw [normalizeFrom_of_still still, normalizeFrom_of_still still, inductionHypothesis]
    · cases kept with
      | nil => rw [normalizeFrom_nil_above, normalizeFrom_nil_above, Option.bind_none]
      | cons inner outer =>
        rw [normalizeFrom_cons_above, normalizeFrom_cons_above, inductionHypothesis]
    · rw [normalizeFrom_of_ordinary own, normalizeFrom_of_ordinary own, inductionHypothesis]

/-- The segments of a path of ordinary segments are walked one after another; a blank segment, as
the blank path has it, stays in place. -/
theorem normalizeFrom_segments_ofSegments
    (ordinary : ∀ part ∈ parts, Ordinary part ∧ '/' ∉ part.toList) :
    normalizeFrom [] (segments (ofSegments parts)) = some parts := by
  cases parts with
  | nil => decide
  | cons first others =>
    rw [segments_ofSegments (List.cons_ne_nil first others) fun part member =>
        (ordinary part member).2,
      normalizeFrom_eq_append fun part member => (ordinary part member).1]
    rfl

/-- A path made of ordinary segments is plain. -/
theorem plain_ofSegments (ordinary : ∀ part ∈ parts, Ordinary part ∧ '/' ∉ part.toList) :
    Plain (ofSegments parts) := by
  cases parts with
  | nil => exact .inl rfl
  | cons first others =>
    exact .inr (UnderRoot.ofSegments (List.cons_ne_nil first others) ordinary).ordinary

/-- The paths of ordinary segments are those that are their own normal form. -/
theorem normalize?_eq_self_iff : normalize? path = some path ↔ Plain path := by
  constructor
  · exact ordinary_of_normalize?
  · rintro (rfl | ordinary)
    · decide
    · rw [← ofSegments_segments path]
      exact normalize?_ofSegments fun part member =>
        ⟨ordinary part member, slash_not_mem_of_mem_segments member⟩

/-- A path can be brought to normal form before another is joined to it. -/
theorem normalize?_join (path tail : String) :
    normalize? (path ++ "/" ++ tail) =
      (normalize? path).bind fun normal => normalize? (normal ++ "/" ++ tail) := by
  rw [normalize?, segments_append, normalizeFrom_append_eq_bind]
  cases walked : normalizeFrom [] (segments path) with
  | none =>
    rw [normalize?, walked]
    rfl
  | some parts =>
    have ordinary := ordinary_of_normalizeFrom walked (by simp)
      fun part member => slash_not_mem_of_mem_segments member
    have normal : normalize? path = some (ofSegments parts) := by
      rw [normalize?, walked]
      rfl
    rw [normal, Option.bind_some, Option.bind_some, normalize?, segments_append,
      normalizeFrom_append_eq_bind, normalizeFrom_segments_ofSegments ordinary, Option.bind_some]

/-- A directory that is entered and left again leads back. -/
theorem normalize?_enter_leave (ordinary : Ordinary name) (slashFree : '/' ∉ name.toList)
    (path : String) : normalize? (path ++ "/" ++ name ++ "/" ++ "..") = normalize? path := by
  have within : segments name = [name] := by
    have single := segments_ofSegments (List.cons_ne_nil name [])
      fun part member => List.mem_singleton.mp member ▸ slashFree
    rwa [ofSegments_singleton] at single
  have above : segments ".." = [".."] := by decide
  rw [normalize?, segments_append, segments_append, within, above, List.append_assoc,
    List.singleton_append, normalizeFrom_append_eq_bind, normalize?]
  congr 1
  cases normalizeFrom [] (segments path) with
  | none => rfl
  | some walked =>
    rw [Option.bind_some, normalizeFrom_of_ordinary ordinary, normalizeFrom_cons_above,
      normalizeFrom, List.reverse_reverse]

/-- A path has a normal form unless it climbs above the root. The normal form has ordinary segments
only and is its own normal form, as is any path of ordinary segments, and it can stand for the path
whatever is joined to it. -/
theorem normalize?_canonical (path : String) :
    (ClimbsAbove path ∧ normalize? path = none ∨
        ¬ClimbsAbove path ∧ ∃ normal, normalize? path = some normal ∧ Plain normal ∧
          normalize? normal = some normal) ∧
      (normalize? path = some path ↔ Plain path) ∧
      ∀ tail, normalize? (path ++ "/" ++ tail) =
        (normalize? path).bind fun normal => normalize? (normal ++ "/" ++ tail) := by
  refine ⟨?_, normalize?_eq_self_iff, normalize?_join path⟩
  cases normal : normalize? path with
  | none => exact .inl ⟨normalize?_eq_none_iff.mp normal, rfl⟩
  | some result =>
    obtain ⟨parts, rfl, ordinary⟩ := exists_segments_of_normalize? normal
    have plain : Plain (ofSegments parts) := plain_ofSegments ordinary
    refine .inr ⟨fun climbs => ?_, _, rfl, plain, normalize?_eq_self_iff.mpr plain⟩
    rw [normalize?_eq_none_iff.mpr climbs] at normal
    cases normal

example : normalize? "a/./b//../c" = some "a/c" := by decide

end PathKey

end SourceAtlas

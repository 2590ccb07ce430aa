import Mathlib.Data.List.Rotate
import SourceAtlas.Graph.Cycle

/-!
# Loops up to rotation

`canonicalRotation` picks one list of each class of rotations. A rotation of a
loop has the same edges: the edge that closes the one either closes the other or
joins two neighbours in it.
-/

namespace SourceAtlas.Graph

variable {files rotated : List String}

/-- Everything before the first occurrence of a file is dropped. -/
theorem dropWhile_ne_append {file : String} {before behind : List String}
    (apart : file ∉ before) :
    (before ++ file :: behind).dropWhile (· ≠ file) = file :: behind := by
  have passed : ∀ other ∈ before, decide (other ≠ file) = true := by
    intro other member
    simp only [decide_eq_true_eq]
    rintro rfl
    exact apart member
  rw [List.dropWhile_append_of_pos passed, List.dropWhile_cons_of_neg (by simp)]

/-- The least file of a list is a member that no member precedes. -/
theorem leastFile_spec {least : String} (found : leastFile files = some least) :
    least ∈ files ∧ ∀ file ∈ files, ¬ file < least := by
  induction files generalizing least with
  | nil => cases found
  | cons first rest inductionHypothesis =>
    rw [leastFile] at found
    split at found
    · next other foundRest =>
      obtain ⟨member, minimal⟩ := inductionHypothesis foundRest
      split at found
      · next precedes =>
        cases found
        refine ⟨.tail _ member, fun file listed => ?_⟩
        cases listed with
        | head => exact fun less => String.lt_irrefl _ (String.lt_trans less precedes)
        | tail _ listed => exact minimal file listed
      · next notPrecedes =>
        cases found
        refine ⟨.head _, fun file listed => ?_⟩
        cases listed with
        | head => exact String.lt_irrefl _
        | tail _ listed =>
          intro less
          have atMost : first ≤ other := String.not_lt.mp notPrecedes
          exact minimal file listed (String.not_le.mp fun above =>
            String.not_lt.mpr (String.le_trans atMost above) less)
    · next noRest =>
      cases found
      cases rest with
      | nil =>
        refine ⟨.head _, fun file listed => ?_⟩
        cases List.mem_singleton.mp listed
        exact String.lt_irrefl first
      | cons second rest =>
        rw [leastFile] at noRest
        split at noRest
        · split at noRest <;> cases noRest
        · cases noRest

/-- Only an empty list has no least file. -/
theorem leastFile_eq_none_iff : leastFile files = none ↔ files = [] := by
  cases files with
  | nil => simp [leastFile]
  | cons first rest =>
    rw [leastFile]
    split
    · split <;> simp
    · simp

/-- The least file depends on the members only. -/
theorem leastFile_congr (same : ∀ file, file ∈ files ↔ file ∈ rotated) :
    leastFile files = leastFile rotated := by
  cases found : leastFile files with
  | none =>
    rw [leastFile_eq_none_iff] at found
    subst found
    have noMember : rotated = [] := List.eq_nil_iff_forall_not_mem.mpr fun file member =>
      List.not_mem_nil ((same file).mpr member)
    rw [noMember]
    rfl
  | some least =>
    obtain ⟨member, minimal⟩ := leastFile_spec found
    cases foundRotated : leastFile rotated with
    | none =>
      rw [leastFile_eq_none_iff] at foundRotated
      rw [same, foundRotated] at member
      cases member
    | some other =>
      obtain ⟨otherMember, otherMinimal⟩ := leastFile_spec foundRotated
      refine congrArg some (String.le_antisymm ?_ ?_)
      · exact String.not_lt.mp (minimal other ((same other).mpr otherMember))
      · exact String.not_lt.mp (otherMinimal least ((same least).mp member))

/-- The canonical rotation is a rotation. -/
theorem canonicalRotation_isRotated (files : List String) :
    (canonicalRotation files).IsRotated files := by
  rw [canonicalRotation]
  split
  · next least _ =>
    have swapped : (files.dropWhile (· ≠ least) ++ files.takeWhile (· ≠ least)).IsRotated
        (files.takeWhile (· ≠ least) ++ files.dropWhile (· ≠ least)) := List.isRotated_append
    rwa [List.takeWhile_append_dropWhile] at swapped
  · next none =>
    rw [leastFile_eq_none_iff.mp none]

/-- A canonical rotation starts with the least file. -/
theorem head?_canonicalRotation (files : List String) :
    (canonicalRotation files).head? = leastFile files := by
  rw [canonicalRotation]
  split
  · next least found =>
    rw [found]
    obtain ⟨before, behind, rfl, apart⟩ := List.eq_append_cons_of_mem (leastFile_spec found).1
    rw [dropWhile_ne_append apart]
    rfl
  · next none =>
    rw [none]
    rfl

/-- A list without repetition is determined by its class of rotations and its first member. -/
theorem eq_of_isRotated_of_head? (isRotated : files.IsRotated rotated) (nodup : files.Nodup)
    (sameHead : files.head? = rotated.head?) : files = rotated := by
  obtain ⟨count, bound, rfl⟩ := List.isRotated_iff_mod.mp isRotated
  rcases Nat.lt_or_ge count files.length with shorter | full
  · rw [List.head?_rotate shorter, List.head?_eq_getElem?] at sameHead
    have first : 0 = count := (List.getElem?_inj (by omega) nodup).mp sameHead
    subst first
    rw [List.rotate_zero]
  · have whole : count = files.length := Nat.le_antisymm bound full
    rw [whole, List.rotate_length]

/-- Two loops without repetition are rotations of one another exactly when their canonical
rotations agree. -/
theorem canonicalRotation_eq_iff (nodup : files.Nodup) :
    canonicalRotation files = canonicalRotation rotated ↔ files.IsRotated rotated := by
  have ofFiles := canonicalRotation_isRotated files
  have ofRotated := canonicalRotation_isRotated rotated
  constructor
  · intro same
    rw [same] at ofFiles
    exact ofFiles.symm.trans ofRotated
  · intro isRotated
    refine eq_of_isRotated_of_head? ((ofFiles.trans isRotated).trans ofRotated.symm)
      (ofFiles.nodup_iff.mpr nodup) ?_
    rw [head?_canonicalRotation, head?_canonicalRotation]
    exact leastFile_congr fun file => isRotated.mem_iff

/-- The edge that closes a loop closes each of its rotations or joins two neighbours in it. -/
theorem closing_of_isRotated {first last : String} (isRotated : files.IsRotated rotated)
    (starts : files.head? = some first) (ends : files.getLast? = some last) :
    (rotated.head? = some first ∧ rotated.getLast? = some last) ∨ [last, first] <:+: rotated := by
  obtain ⟨count, bound, rfl⟩ := List.isRotated_iff_mod.mp isRotated
  have cut := List.take_append_drop count files
  rw [List.rotate_eq_drop_append_take bound]
  cases before : files.take count with
  | nil =>
    rw [before, List.nil_append] at cut
    rw [cut, List.append_nil]
    exact .inl ⟨starts, ends⟩
  | cons head tail =>
    cases List.eq_nil_or_concat (files.drop count) with
    | inl noBehind =>
      rw [noBehind, List.append_nil, before] at cut
      rw [noBehind, List.nil_append, cut]
      exact .inl ⟨starts, ends⟩
    | inr behind =>
      obtain ⟨kept, final, split⟩ := behind
      rw [List.concat_eq_append] at split
      rw [before, split] at cut
      rw [← cut] at starts ends
      simp only [List.cons_append, List.head?_cons, Option.some.injEq] at starts
      rw [← List.append_assoc, List.getLast?_concat, Option.some.injEq] at ends
      subst starts ends
      right
      rw [split]
      exact ⟨kept, tail, by simp⟩

end SourceAtlas.Graph

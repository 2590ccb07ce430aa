import Mathlib.Data.List.Nodup

/-!
# Rankings

Candidates that come in no certain order are put in order by a comparison. When
it tells any two of them apart there is one list that holds each candidate once
and in rising order (`Ranking`), and sorting finds that list in whatever order
the candidates come.
-/

namespace SourceAtlas

variable {α : Type} {rank : α → α → Ordering} {candidate : α → Prop}
  {ranking other candidates : List α}

/-- Each candidate once, in rising order. -/
structure Ranking (rank : α → α → Ordering) (candidate : α → Prop) (ranking : List α) : Prop where
  ordered : ranking.Pairwise fun first second => rank first second = .lt
  mem_iff : ∀ item, item ∈ ranking ↔ candidate item

/-- A strictly rising list repeats nothing. -/
theorem nodup_of_rising [Std.OrientedCmp rank] {items : List α}
    (rising : items.Pairwise fun first second => rank first second = .lt) : items.Nodup := by
  refine rising.imp fun {first second} below same => ?_
  subst same
  simp [Std.ReflCmp.compare_self] at below

/-- Lists in rising order with the same members are equal. -/
theorem eq_of_ordered [Std.OrientedCmp rank] {first second : List α}
    (firstOrdered : first.Pairwise fun a b => rank a b = .lt)
    (secondOrdered : second.Pairwise fun a b => rank a b = .lt)
    (same : ∀ item, item ∈ first ↔ item ∈ second) : first = second := by
  refine List.Perm.eq_of_pairwise ?_ firstOrdered secondOrdered ((List.perm_ext_iff_of_nodup
    (nodup_of_rising firstOrdered) (nodup_of_rising secondOrdered)).mpr same)
  intro a b _ _ below above
  exact absurd above (Std.OrientedCmp.not_lt_of_lt below)

/-- The candidates and the order they come in determine a ranking. -/
theorem Ranking.unique [Std.OrientedCmp rank] (one : Ranking rank candidate ranking)
    (two : Ranking rank candidate other) : ranking = other :=
  eq_of_ordered one.ordered two.ordered fun item => (one.mem_iff item).trans (two.mem_iff item).symm

/-- Candidates that are left out leave the others in their order. -/
theorem Ranking.filter (ranked : Ranking rank candidate ranking) (kept : α → Bool) :
    Ranking rank (fun item => candidate item ∧ kept item = true) (ranking.filter kept) where
  ordered := ranked.ordered.filter kept
  mem_iff item := by rw [List.mem_filter, ranked.mem_iff]

/-- Sorting ranks different candidates that the comparison tells apart. -/
theorem ranking_mergeSort [Std.TransCmp rank] (nodup : candidates.Nodup)
    (apart : ∀ first ∈ candidates, ∀ second ∈ candidates, rank first second = .eq → first = second) :
    Ranking rank (· ∈ candidates)
      (candidates.mergeSort fun first second => (rank first second).isLE) where
  mem_iff item := List.mem_mergeSort
  ordered := by
    have total : ∀ first second : α,
        ((rank first second).isLE || (rank second first).isLE) = true := by
      intro first second
      rw [show rank second first = (rank first second).swap from Std.OrientedCmp.eq_swap]
      cases rank first second <;> rfl
    have sorted := List.pairwise_mergeSort (fun _ _ _ => Std.TransCmp.isLE_trans) total candidates
    have distinct := (List.mergeSort_perm candidates
      fun first second => (rank first second).isLE).nodup_iff.mpr nodup
    refine (sorted.and distinct).imp_of_mem fun {first second} inside inside' both => ?_
    rcases Ordering.isLE_iff_eq_lt_or_eq_eq.mp both.1 with below | equal
    · exact below
    · exact absurd (apart first (List.mem_mergeSort.mp inside) second
        (List.mem_mergeSort.mp inside') equal) both.2

end SourceAtlas

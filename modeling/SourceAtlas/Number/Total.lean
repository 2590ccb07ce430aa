/-!
# Totals

The sum of a list of counts.
-/

namespace SourceAtlas

/-- The sum of a list of counts. -/
def total : List Nat → Nat
  | [] => 0
  | count :: rest => count + total rest

/-- The total of two lists put together. -/
@[simp]
theorem total_append (first second : List Nat) :
    total (first ++ second) = total first + total second := by
  induction first with
  | nil => simp [total]
  | cons count rest inductionHypothesis => simp [total, inductionHypothesis, Nat.add_assoc]

/-- The order of the counts does not matter. -/
theorem total_perm {first second : List Nat} (perm : first.Perm second) :
    total first = total second := by
  induction perm with
  | nil => rfl
  | cons count _ inductionHypothesis => rw [total, total, inductionHypothesis]
  | swap count other rest =>
    simp only [total]
    omega
  | trans _ _ firstStep secondStep => exact firstStep.trans secondStep

end SourceAtlas

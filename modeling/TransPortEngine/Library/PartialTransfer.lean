import Mathlib.Algebra.GroupWithZero.Nat
import Mathlib.Data.List.Basic

/-!
# Transfers in parts

Data are handed over for a transfer that may take only a part of them from the
front. What it leaves is handed over again, as long as there is something left.
-/

namespace PartialTransfer

/-- What is handed over again after parts of the given sizes. -/
def rests : List α → List Nat → List (List α)
  | _, [] => []
  | data, size :: sizes =>
      (if size < data.length then [data.drop size] else []) ++
        rests (data.drop size) sizes

theorem rests_append (data : List α) (first second : List Nat) :
    rests data (first ++ second) =
      rests data first ++ rests (data.drop first.sum) second := by
  induction first generalizing data with
  | nil => rfl
  | cons size sizes inductionHypothesis =>
      rw [List.cons_append, rests, inductionHypothesis, List.drop_drop, rests,
        List.sum_cons, List.append_assoc]

/-- One more part. -/
theorem rests_concat (data : List α) (sizes : List Nat) (size : Nat) :
    rests data (sizes ++ [size]) =
      rests data sizes ++
        if sizes.sum + size < data.length then [data.drop (sizes.sum + size)]
        else [] := by
  rw [rests_append]
  simp only [rests, List.append_nil, List.length_drop, List.drop_drop,
    Nat.lt_sub_iff_add_lt']

end PartialTransfer

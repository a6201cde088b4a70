import Mathlib.Algebra.BigOperators.Group.List.Basic
import Mathlib.Algebra.Order.BigOperators.Group.List
import Mathlib.Algebra.Order.Ring.Nat

/-!
# Queues that are served in batches

A queue that grows in every period, and that loses one batch at the end of a period if it was found
to be longer than its cap. What it holds beyond the cap are the arrivals of some last periods, less
the batches of all of these but the first (`Backlog`). Where no period brings more than a batch,
the queue exceeds its cap by the arrivals of one period at most (`Backlog.le`).
-/

namespace Transaction

variable {cap batch left left' n rate : ℕ} {periods : List ℕ}

/-- A queue of the length `left` after periods with these arrivals, the last one first. -/
def Backlog (cap batch : ℕ) (periods : List ℕ) (left : ℕ) : Prop :=
  ∃ j, left + batch * j ≤ cap + (periods.take (j + 1)).sum

namespace Backlog

lemma start (cap batch : ℕ) : Backlog cap batch [] 0 :=
  ⟨0, Nat.zero_le _⟩

/-- The queue was found within its cap. -/
lemma within (h : left ≤ cap + n) : Backlog cap batch (n :: periods) left := by
  refine ⟨0, ?_⟩
  simpa using h

/-- The queue has lost a batch. -/
lemma served (h : Backlog cap batch periods left) (hserved : left' + batch ≤ left + n) :
    Backlog cap batch (n :: periods) left' := by
  obtain ⟨j, hj⟩ := h
  refine ⟨j + 1, ?_⟩
  rw [List.take_succ_cons, List.sum_cons, Nat.mul_succ]
  omega

lemma le (h : Backlog cap batch periods left) (hrate : ∀ n ∈ periods, n ≤ rate)
    (hbatch : rate ≤ batch) : left ≤ cap + rate := by
  obtain ⟨j, hj⟩ := h
  have hsum : (periods.take (j + 1)).sum ≤ (j + 1) * rate := by
    refine (List.sum_le_card_nsmul _ rate fun n hn => hrate n (List.mem_of_mem_take hn)).trans ?_
    exact Nat.mul_le_mul_right _ (List.length_take_le _ _)
  have hserved : rate * j ≤ batch * j := Nat.mul_le_mul_right _ hbatch
  rw [Nat.succ_mul, Nat.mul_comm] at hsum
  omega

end Backlog

end Transaction

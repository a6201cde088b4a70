import Mathlib.Algebra.BigOperators.Group.Finset.Basic
import Mathlib.Algebra.Order.BigOperators.Group.Finset
import Mathlib.Data.List.Nodup
import Mathlib.Tactic.Common

/-!
# Tasks under a semaphore

Tasks that do their jobs in turn, every job under a permit of one semaphore that hands a permit it
gets back to the task that has waited longest. However many tasks there are, no more than the
permits hold one at a time (`Inv.length_holding_le`). A run has as many steps as its jobs allow
(`Runs.length_eq`), and, if there is a permit, it goes on until every job is done
(`Inv.exists_step`).
-/

namespace Transaction

structure Pool (ι J : Type) where
  todo : ι → List J
  permits : ℕ
  /-- The tasks that are at the first of their jobs. -/
  holding : List ι
  waiting : List ι

namespace Pool

variable {ι J : Type}

def start (permits : ℕ) (jobs : ι → List J) : Pool ι J :=
  ⟨jobs, permits, [], []⟩

/-- The task comes to its next job. -/
def enter (r : Pool ι J) (i : ι) : Pool ι J :=
  if 0 < r.permits ∧ r.waiting = [] then
    { r with permits := r.permits - 1, holding := r.holding ++ [i] }
  else { r with waiting := r.waiting ++ [i] }

/-- The job is done. -/
def leave [DecidableEq ι] (r : Pool ι J) (i : ι) : Pool ι J :=
  let todo := Function.update r.todo i (r.todo i).tail
  match r.waiting with
  | [] => ⟨todo, r.permits + 1, r.holding.erase i, []⟩
  | j :: rest => ⟨todo, r.permits, r.holding.erase i ++ [j], rest⟩

/-- The task can come to its next job. -/
structure Ready (r : Pool ι J) (i : ι) : Prop where
  todo : r.todo i ≠ []
  holding : i ∉ r.holding
  waiting : i ∉ r.waiting

inductive Step [DecidableEq ι] : Pool ι J → Pool ι J → Prop
  | entered {r : Pool ι J} {i : ι} (h : r.Ready i) : Step r (r.enter i)
  | left {r : Pool ι J} {i : ι} (h : i ∈ r.holding) : Step r (r.leave i)

/-- Runs of a number of steps. -/
inductive Runs [DecidableEq ι] (permits : ℕ) (jobs : ι → List J) : ℕ → Pool ι J → Prop
  | start : Runs permits jobs 0 (start permits jobs)
  | step {n : ℕ} {r r' : Pool ι J} (h : Runs permits jobs n r) (hs : Step r r') :
      Runs permits jobs (n + 1) r'

variable {r r' : Pool ι J} {c n : ℕ} {jobs : ι → List J} {i j : ι}

@[simp] lemma enter_todo (r : Pool ι J) (i : ι) : (r.enter i).todo = r.todo := by
  unfold enter
  split <;> rfl

@[simp] lemma leave_todo [DecidableEq ι] (r : Pool ι J) (i : ι) :
    (r.leave i).todo = Function.update r.todo i (r.todo i).tail := by
  unfold leave
  split <;> rfl

/-- The tasks at a job or on their way to it, after one has come. -/
lemma enter_busy (r : Pool ι J) (i : ι) :
    ((r.enter i).holding ++ (r.enter i).waiting).Perm (i :: (r.holding ++ r.waiting)) := by
  unfold enter
  split_ifs with h
  · simp [h.2, List.perm_append_singleton]
  · rw [← List.append_assoc]
    exact List.perm_append_singleton _ _

lemma leave_busy [DecidableEq ι] (h : i ∈ r.holding) :
    (i :: ((r.leave i).holding ++ (r.leave i).waiting)).Perm (r.holding ++ r.waiting) := by
  have herase : (i :: r.holding.erase i).Perm r.holding := (List.perm_cons_erase h).symm
  unfold leave
  cases r.waiting with
  | nil => simpa using herase
  | cons j rest => simpa using herase.append_right (j :: rest)

/-! ### Permits -/

/-- What holds in all states of a pool with `c` permits. -/
structure Inv (c : ℕ) (r : Pool ι J) : Prop where
  permits : r.permits + r.holding.length = c
  /-- Nobody waits for a permit that is there. -/
  handed : 0 < r.permits → r.waiting = []
  distinct : (r.holding ++ r.waiting).Nodup
  todo : ∀ i ∈ r.holding ++ r.waiting, r.todo i ≠ []

namespace Inv

lemma start (c : ℕ) (jobs : ι → List J) : Inv c (start c jobs) where
  permits := rfl
  handed _ := rfl
  distinct := List.nodup_nil
  todo _ hi := by cases hi

lemma length_holding_le (h : Inv c r) : r.holding.length ≤ c := by
  have := h.permits
  omega

lemma enter (h : Inv c r) (hi : r.Ready i) : Inv c (r.enter i) := by
  have hbusy := enter_busy r i
  refine ⟨?_, ?_, ?_, fun j hj => ?_⟩
  · have hpermits := h.permits
    unfold Pool.enter
    split_ifs with hfree
    · simp only [List.length_append, List.length_singleton]
      omega
    · exact hpermits
  · unfold Pool.enter
    split_ifs with hfree
    · exact fun _ => hfree.2
    · exact fun hpos => absurd ⟨hpos, h.handed hpos⟩ hfree
  · refine (hbusy.nodup_iff).mpr (List.nodup_cons.mpr ⟨?_, h.distinct⟩)
    exact fun hmem => (List.mem_append.mp hmem).elim hi.holding hi.waiting
  · rw [enter_todo]
    rcases List.mem_cons.mp (hbusy.mem_iff.mp hj) with rfl | hj
    · exact hi.todo
    · exact h.todo j hj

variable [DecidableEq ι]

lemma leave (h : Inv c r) (hi : i ∈ r.holding) : Inv c (r.leave i) := by
  have hbusy := leave_busy hi
  obtain ⟨hnotin, hnodup⟩ := List.nodup_cons.mp (hbusy.nodup_iff.mpr h.distinct)
  refine ⟨?_, ?_, hnodup, fun j hj => ?_⟩
  · have hpermits := h.permits
    have hlength := List.length_erase_of_mem hi
    have hpos := List.length_pos_of_mem hi
    unfold Pool.leave
    cases r.waiting with
    | nil =>
      simp only
      omega
    | cons j rest =>
      simp only [List.length_append, List.length_singleton]
      omega
  · intro hpos
    unfold Pool.leave at hpos ⊢
    cases hw : r.waiting with
    | nil => rfl
    | cons j rest =>
      rw [hw] at hpos
      rw [h.handed hpos] at hw
      cases hw
  · have hne : j ≠ i := fun heq => hnotin (heq ▸ hj)
    rw [leave_todo, Function.update_of_ne hne]
    exact h.todo j (hbusy.mem_iff.mp (List.mem_cons_of_mem _ hj))

lemma step (h : Inv c r) (hs : Step r r') : Inv c r' := by
  cases hs with
  | entered hi => exact h.enter hi
  | left hi => exact h.leave hi

/-- As long as a job is left, and there is a permit at all, somebody can go on. -/
lemma exists_step (h : Inv c r) (hc : 0 < c) (hi : r.todo i ≠ []) : ∃ r', Step r r' := by
  by_cases hholding : r.holding = []
  · have hpos : 0 < r.permits := by
      have hpermits := h.permits
      rw [hholding] at hpermits
      simpa [← hpermits] using hc
    refine ⟨_, .entered (i := i) ⟨hi, ?_, ?_⟩⟩
    · simp [hholding]
    · simp [h.handed hpos]
  · obtain ⟨j, hj⟩ := List.exists_mem_of_ne_nil _ hholding
    exact ⟨_, .left hj⟩

end Inv

/-! ### Runs -/

namespace Runs

variable [DecidableEq ι]

lemma inv (h : Runs c jobs n r) : Inv c r := by
  induction h with
  | start => exact .start c jobs
  | step _ hs ih => exact ih.step hs

/-- Without a permit no task comes to a job. -/
lemma holding_eq_nil (h : Runs 0 jobs n r) : r.holding = [] := by
  have hpermits := h.inv.permits
  exact List.eq_nil_of_length_eq_zero (by omega)

/-- The jobs of a task are done one after the other. -/
lemma suffix (h : Runs c jobs n r) (i : ι) : r.todo i <:+ jobs i := by
  induction h with
  | start => exact List.suffix_rfl
  | @step n r r' _ hs ih =>
    refine List.IsSuffix.trans ?_ ih
    cases hs with
    | entered => rw [enter_todo]
    | @left j hj =>
      rw [leave_todo]
      by_cases hij : i = j
      · subst hij
        rw [Function.update_self]
        exact List.tail_suffix _
      · rw [Function.update_of_ne hij]

/-- Every job takes two steps. -/
lemma length_eq (h : Runs c jobs n r) (tasks : Finset ι) (htasks : ∀ i ∉ tasks, jobs i = []) :
    n + 2 * ∑ i ∈ tasks, (r.todo i).length =
      2 * ∑ i ∈ tasks, (jobs i).length + (r.holding ++ r.waiting).length := by
  induction h with
  | start => simp [Pool.start]
  | @step n r r' h hs ih =>
    cases hs with
    | @entered i hi =>
      have hbusy := (enter_busy r i).length_eq
      rw [List.length_cons] at hbusy
      rw [enter_todo]
      omega
    | @left i hi =>
      have hbusy := (leave_busy hi).length_eq
      rw [List.length_cons] at hbusy
      have hne : r.todo i ≠ [] := h.inv.todo i (List.mem_append_left _ hi)
      have hmem : i ∈ tasks := by
        by_contra hnot
        have hnil := h.suffix i
        rw [htasks i hnot, List.suffix_nil] at hnil
        exact hne hnil
      have hpos := List.length_pos_of_ne_nil hne
      have htodo : ∑ j ∈ tasks, ((r.leave i).todo j).length + 1 =
          ∑ j ∈ tasks, (r.todo j).length := by
        rw [leave_todo, ← Finset.add_sum_erase _ _ hmem, ← Finset.add_sum_erase tasks _ hmem,
          Function.update_self, List.length_tail]
        have hothers : ∑ j ∈ tasks.erase i, (Function.update r.todo i (r.todo i).tail j).length =
            ∑ j ∈ tasks.erase i, (r.todo j).length :=
          Finset.sum_congr rfl fun j hj => by rw [Function.update_of_ne (Finset.ne_of_mem_erase hj)]
        omega
      omega

/-- Every task at a job has one. -/
lemma busy_le (h : Runs c jobs n r) (tasks : Finset ι) (htasks : ∀ i ∉ tasks, jobs i = []) :
    (r.holding ++ r.waiting).length ≤ ∑ i ∈ tasks, (r.todo i).length := by
  have hinv := h.inv
  have hsub : (r.holding ++ r.waiting).toFinset ⊆ tasks := by
    intro i hi
    by_contra hnot
    have hnil := h.suffix i
    rw [htasks i hnot, List.suffix_nil] at hnil
    exact hinv.todo i (List.mem_toFinset.mp hi) hnil
  calc (r.holding ++ r.waiting).length
      = (r.holding ++ r.waiting).toFinset.card := (List.toFinset_card_of_nodup hinv.distinct).symm
    _ = ∑ i ∈ (r.holding ++ r.waiting).toFinset, 1 := by simp
    _ ≤ ∑ i ∈ (r.holding ++ r.waiting).toFinset, (r.todo i).length :=
        Finset.sum_le_sum fun i hi =>
          List.length_pos_of_ne_nil (hinv.todo i (List.mem_toFinset.mp hi))
    _ ≤ ∑ i ∈ tasks, (r.todo i).length :=
        Finset.sum_le_sum_of_subset_of_nonneg hsub fun _ _ _ => Nat.zero_le _

end Runs

end Pool

end Transaction

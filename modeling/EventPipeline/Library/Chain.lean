import Mathlib.Data.List.TakeDrop
import Mathlib.Tactic.Common

/-!
# Chains of tasks

Tasks that are performed one after the other, each a bounded number of times until an attempt
succeeds, and only if the task before it has succeeded; a last task is performed when all of them
are done, whatever became of them. An attempt that fails may have done part of its work.

At most one task fails, the tasks before it have succeeded and those behind it are not performed;
what every success adds and no attempt takes away holds of the state for as many tasks as have
succeeded (`Reachable.achieved`).
-/

namespace Transaction

inductive TaskState
  | success
  | failed
  | upstreamFailed
  deriving DecidableEq, Repr

/-- A run of a chain: what has become of its first tasks, and the failed attempts at the next. -/
structure Chain (T S : Type) where
  state : S
  done : List (T × TaskState)
  tries : ℕ
  /-- What has become of the last task. -/
  closed : Option TaskState

namespace Chain

variable {T S : Type}

def start (s : S) : Chain T S :=
  ⟨s, [], 0, none⟩

/-- No task, or one that has succeeded, was the last to be done. -/
def Ready (c : Chain T S) : Prop :=
  ∀ x ∈ c.done.getLast?, x.2 = .success

/-- `attempt` and `close` relate the state an attempt finds to whether it succeeds and the state it
leaves; the last task knows what has become of the others. -/
inductive Step (tasks : List T) (retries : ℕ) (attempt : T → S → Bool → S → Prop)
    (close : List (T × TaskState) → S → Bool → S → Prop) : Chain T S → Chain T S → Prop
  | succeeded {c : Chain T S} {t : T} {s : S} (hnext : tasks[c.done.length]? = some t)
      (hready : c.Ready) (h : attempt t c.state true s) :
      Step tasks retries attempt close c ⟨s, c.done ++ [(t, .success)], 0, c.closed⟩
  | retried {c : Chain T S} {t : T} {s : S} (hnext : tasks[c.done.length]? = some t)
      (hready : c.Ready) (h : attempt t c.state false s) (htries : c.tries < retries) :
      Step tasks retries attempt close c ⟨s, c.done, c.tries + 1, c.closed⟩
  | failed {c : Chain T S} {t : T} {s : S} (hnext : tasks[c.done.length]? = some t)
      (hready : c.Ready) (h : attempt t c.state false s) (htries : c.tries = retries) :
      Step tasks retries attempt close c ⟨s, c.done ++ [(t, .failed)], 0, c.closed⟩
  | skipped {c : Chain T S} {t : T} (hnext : tasks[c.done.length]? = some t) (hready : ¬ c.Ready) :
      Step tasks retries attempt close c ⟨c.state, c.done ++ [(t, .upstreamFailed)], 0, c.closed⟩
  | closed {c : Chain T S} {s : S} (hdone : tasks.length ≤ c.done.length) (hopen : c.closed = none)
      (h : close c.done c.state true s) :
      Step tasks retries attempt close c ⟨s, c.done, 0, some .success⟩
  | reclosed {c : Chain T S} {s : S} (hdone : tasks.length ≤ c.done.length) (hopen : c.closed = none)
      (h : close c.done c.state false s) (htries : c.tries < retries) :
      Step tasks retries attempt close c ⟨s, c.done, c.tries + 1, none⟩
  | unclosed {c : Chain T S} {s : S} (hdone : tasks.length ≤ c.done.length) (hopen : c.closed = none)
      (h : close c.done c.state false s) (htries : c.tries = retries) :
      Step tasks retries attempt close c ⟨s, c.done, 0, some .failed⟩

/-- The runs that start in the state `s`. -/
inductive Reachable (tasks : List T) (retries : ℕ) (attempt : T → S → Bool → S → Prop)
    (close : List (T × TaskState) → S → Bool → S → Prop) (s : S) : Chain T S → Prop
  | start : Reachable tasks retries attempt close s (start s)
  | step {c c' : Chain T S} (h : Reachable tasks retries attempt close s c)
      (hs : Step tasks retries attempt close c c') : Reachable tasks retries attempt close s c'

variable {tasks : List T} {retries : ℕ} {attempt : T → S → Bool → S → Prop}
  {close : List (T × TaskState) → S → Bool → S → Prop} {s : S} {c c' : Chain T S}

/-! ### What becomes of the tasks -/

def successes (before : List T) : List (T × TaskState) :=
  before.map (·, .success)

/-- One task has failed, and those behind it are not performed. -/
def failure (before : List T) (t : T) (after : List T) : List (T × TaskState) :=
  successes before ++ (t, .failed) :: after.map (·, .upstreamFailed)

@[simp] lemma length_successes (before : List T) : (successes before).length = before.length :=
  List.length_map _

@[simp] lemma length_failure (before after : List T) (t : T) :
    (failure before t after).length = before.length + (after.length + 1) := by
  simp [failure]

lemma ready_successes {before : List T} (h : c.done = successes before) : c.Ready := by
  intro x hx
  rw [h] at hx
  obtain ⟨t, -, rfl⟩ := List.mem_map.mp (List.mem_of_getLast? hx)
  rfl

lemma not_ready_failure {before after : List T} {t : T} (h : c.done = failure before t after) :
    ¬ c.Ready := by
  intro hready
  rcases List.eq_nil_or_concat after with rfl | ⟨after, t', rfl⟩
  · have hlast := hready (t, .failed) (by simp [h, failure])
    cases hlast
  · have hlast := hready (t', .upstreamFailed) (by
      rw [h, failure, List.concat_eq_append, List.map_append, ← List.cons_append, ← List.append_assoc]
      exact List.getLast?_concat)
    cases hlast

/-- The task after those that are done. -/
lemma next_eq {before after : List T} {t : T} (htasks : tasks = before ++ after)
    (hnext : tasks[before.length]? = some t) : ∃ rest, after = t :: rest := by
  subst htasks
  rw [List.getElem?_append_right (Nat.le_refl _), Nat.sub_self] at hnext
  cases after with
  | nil => cases hnext
  | cons t' rest => exact ⟨rest, by rw [Option.some.inj hnext]⟩

/-! ### What the tasks achieve -/

/-- `P n` is what holds of the state once the first `n` tasks have succeeded. -/
structure Establishes (tasks : List T) (attempt : T → S → Bool → S → Prop)
    (close : List (T × TaskState) → S → Bool → S → Prop) (P : ℕ → S → Prop) : Prop where
  /-- Every success adds what is to hold. -/
  success : ∀ n t s s', tasks[n]? = some t → P n s → attempt t s true s' → P (n + 1) s'
  /-- No attempt that fails takes away what holds. -/
  failure : ∀ n t s s', tasks[n]? = some t → P n s → attempt t s false s' → P n s'
  closing : ∀ n done s ok s', P n s → close done s ok s' → P n s'

/-- What has become of the first tasks, and what holds of the state. -/
inductive Achieved (tasks : List T) (P : ℕ → S → Prop) : List (T × TaskState) → S → Prop
  | succeeded {before after : List T} {s : S} (h : tasks = before ++ after)
      (hs : P before.length s) : Achieved tasks P (successes before) s
  | failed {before after rest : List T} {t : T} {s : S}
      (h : tasks = before ++ t :: (after ++ rest)) (hs : P before.length s) :
      Achieved tasks P (failure before t after) s

variable {P : ℕ → S → Prop}

/-- Once all tasks are done. -/
lemma Achieved.ended {done : List (T × TaskState)} (h : Achieved tasks P done s)
    (hdone : tasks.length ≤ done.length) :
    (done = successes tasks ∧ P tasks.length s) ∨ ∃ before t after,
      tasks = before ++ t :: after ∧ done = failure before t after ∧ P before.length s := by
  cases h with
  | @succeeded before after _ htasks hs =>
    rw [htasks, List.length_append, length_successes] at hdone
    obtain rfl : after = [] := List.eq_nil_of_length_eq_zero (by omega)
    rw [List.append_nil] at htasks
    subst htasks
    exact .inl ⟨rfl, hs⟩
  | @failed before after rest t _ htasks hs =>
    rw [htasks, length_failure] at hdone
    simp only [List.length_append, List.length_cons] at hdone
    obtain rfl : rest = [] := List.eq_nil_of_length_eq_zero (by omega)
    rw [List.append_nil] at htasks
    exact .inr ⟨before, t, after, htasks, rfl, hs⟩

lemma Achieved.step (hp : Establishes tasks attempt close P) (h : Achieved tasks P c.done c.state)
    (hs : Step tasks retries attempt close c c') : Achieved tasks P c'.done c'.state := by
  generalize hdone : c.done = done at h
  generalize hstate : c.state = state at h
  cases h with
  | @succeeded before after _ htasks hbefore =>
    have hlength : c.done.length = before.length := by rw [hdone, length_successes]
    cases hs with
    | @succeeded t s hnext _ h =>
      rw [hlength] at hnext
      obtain ⟨rest, rfl⟩ := next_eq htasks hnext
      have hsplit : tasks = (before ++ [t]) ++ rest := by rw [htasks, List.append_assoc]; rfl
      have hs : P (before ++ [t]).length s := by
        rw [List.length_append]
        exact hp.success _ t _ _ hnext hbefore (hstate ▸ h)
      simpa [hdone, successes] using Achieved.succeeded hsplit hs
    | @retried t s hnext _ h =>
      rw [hlength] at hnext
      rw [hdone]
      exact .succeeded htasks (hp.failure _ t _ _ hnext hbefore (hstate ▸ h))
    | @failed t s hnext _ h =>
      rw [hlength] at hnext
      obtain ⟨rest, rfl⟩ := next_eq htasks hnext
      have hsplit : tasks = before ++ t :: ([] ++ rest) := htasks
      have hs := hp.failure _ t _ _ hnext hbefore (hstate ▸ h)
      simpa [hdone, failure] using Achieved.failed hsplit hs
    | skipped _ hready => exact absurd (ready_successes hdone) hready
    | closed _ _ h => exact hdone ▸ .succeeded htasks (hp.closing _ _ _ _ _ hbefore (hstate ▸ h))
    | reclosed _ _ h => exact hdone ▸ .succeeded htasks (hp.closing _ _ _ _ _ hbefore (hstate ▸ h))
    | unclosed _ _ h => exact hdone ▸ .succeeded htasks (hp.closing _ _ _ _ _ hbefore (hstate ▸ h))
  | @failed before after rest t _ htasks hbefore =>
    have hnot := not_ready_failure hdone
    cases hs with
    | succeeded _ hready => exact absurd hready hnot
    | retried _ hready => exact absurd hready hnot
    | failed _ hready => exact absurd hready hnot
    | @skipped t' hnext =>
      have hlength : c.done.length = (before ++ t :: after).length := by
        rw [hdone, length_failure, List.length_append, List.length_cons]
      have hsplit : tasks = (before ++ t :: after) ++ rest := by
        rw [htasks, List.append_assoc]
        rfl
      rw [hlength] at hnext
      obtain ⟨rest, rfl⟩ := next_eq hsplit hnext
      have hmore : tasks = before ++ t :: ((after ++ [t']) ++ rest) := by
        rw [htasks, List.append_assoc]
        rfl
      have hs : P before.length c.state := hstate ▸ hbefore
      simpa [hdone, failure] using Achieved.failed hmore hs
    | closed _ _ h => exact hdone ▸ .failed htasks (hp.closing _ _ _ _ _ hbefore (hstate ▸ h))
    | reclosed _ _ h => exact hdone ▸ .failed htasks (hp.closing _ _ _ _ _ hbefore (hstate ▸ h))
    | unclosed _ _ h => exact hdone ▸ .failed htasks (hp.closing _ _ _ _ _ hbefore (hstate ▸ h))

namespace Reachable

lemma achieved (hp : Establishes tasks attempt close P) (h0 : P 0 s)
    (h : Reachable tasks retries attempt close s c) : Achieved tasks P c.done c.state := by
  induction h with
  | start =>
    have hnone : tasks = [] ++ tasks := rfl
    exact .succeeded hnone h0
  | step _ hs ih => exact ih.step hp hs

/-- What every attempt at a task keeps, and the last task keeps given what the others achieved. -/
theorem preserves {I : S → Prop} (hp : Establishes tasks attempt close P) (h0 : P 0 s)
    (hI : I s) (hattempt : ∀ t s ok s', I s → attempt t s ok s' → I s')
    (hclose : ∀ done s ok s', Achieved tasks P done s → tasks.length ≤ done.length → I s →
      close done s ok s' → I s')
    (h : Reachable tasks retries attempt close s c) : I c.state := by
  induction h with
  | start => exact hI
  | step h hs ih =>
    have hachieved := h.achieved hp h0
    cases hs with
    | succeeded _ _ h => exact hattempt _ _ _ _ ih h
    | retried _ _ h => exact hattempt _ _ _ _ ih h
    | failed _ _ h => exact hattempt _ _ _ _ ih h
    | skipped => exact ih
    | closed hdone _ h => exact hclose _ _ _ _ hachieved hdone ih h
    | reclosed hdone _ h => exact hclose _ _ _ _ hachieved hdone ih h
    | unclosed hdone _ h => exact hclose _ _ _ _ hachieved hdone ih h

lemma length_done_of_closed (h : Reachable tasks retries attempt close s c)
    (hclosed : c.closed ≠ none) : tasks.length ≤ c.done.length := by
  induction h with
  | start => exact absurd rfl hclosed
  | step h hs ih =>
    cases hs with
    | succeeded => exact Nat.le_trans (ih hclosed) (by simp)
    | retried => exact ih hclosed
    | failed => exact Nat.le_trans (ih hclosed) (by simp)
    | skipped => exact Nat.le_trans (ih hclosed) (by simp)
    | closed hdone => exact hdone
    | reclosed => exact absurd rfl hclosed
    | unclosed hdone => exact hdone

/-- Nothing follows the last task. -/
lemma closed_eq (h : Reachable tasks retries attempt close s c) (hclosed : c.closed = some .success) :
    ∃ s', close c.done s' true c.state := by
  induction h with
  | start => cases hclosed
  | @step c c' h hs ih =>
    have hover : c.closed = some .success → ∀ t, tasks[c.done.length]? ≠ some t := by
      intro hclosed t hnext
      have hlt := (List.getElem?_eq_some_iff.mp hnext).1
      have hle := h.length_done_of_closed (by rw [hclosed]; simp)
      omega
    cases hs with
    | succeeded hnext => exact absurd hnext (hover hclosed _)
    | retried hnext => exact absurd hnext (hover hclosed _)
    | failed hnext => exact absurd hnext (hover hclosed _)
    | skipped hnext => exact absurd hnext (hover hclosed _)
    | closed _ _ h => exact ⟨_, h⟩
    | reclosed => cases hclosed
    | unclosed => cases hclosed

/-- One more task succeeds. -/
lemma success {before after : List T} {t : T} {s' s'' : S} {tries : ℕ}
    (h : Reachable tasks retries attempt close s ⟨s', successes before, tries, none⟩)
    (htasks : tasks = before ++ t :: after) (hattempt : attempt t s' true s'') :
    Reachable tasks retries attempt close s ⟨s'', successes (before ++ [t]), 0, none⟩ := by
  have hnext : tasks[(successes before).length]? = some t := by
    rw [htasks, length_successes, List.getElem?_append_right (Nat.le_refl _), Nat.sub_self]
    rfl
  have hstep := h.step (.succeeded hnext (ready_successes rfl) hattempt)
  rwa [successes, List.map_append]

lemma retry {before after : List T} {t : T} {s' s'' : S} {tries : ℕ}
    (h : Reachable tasks retries attempt close s ⟨s', successes before, tries, none⟩)
    (htasks : tasks = before ++ t :: after) (hattempt : attempt t s' false s'')
    (htries : tries < retries) :
    Reachable tasks retries attempt close s ⟨s'', successes before, tries + 1, none⟩ := by
  have hnext : tasks[(successes before).length]? = some t := by
    rw [htasks, length_successes, List.getElem?_append_right (Nat.le_refl _), Nat.sub_self]
    rfl
  exact h.step (.retried hnext (ready_successes rfl) hattempt htries)

end Reachable

end Chain

end Transaction

import Mathlib.Data.Nat.Notation
import Mathlib.Tactic.Common

/-!
# Programs over a transactional store

A client of a store is a tree of statements: each statement is sent to the store and the
client continues on what the store answers, an error included. The same tree is executed
in two ways: here alone, from its first statement to its last (`Program.run`), and in
`Library.Session` one statement at a time, interleaved with other clients.

A store answers a statement with a result and a list of writes. What the statement does
to the state is what its writes do to it, so that the writes of an open transaction can
be kept apart from the committed state.
-/

namespace Transaction

variable {Op : Type} {Res : Op → Type} {S W T E X : Type} {α β : Type}

/-- A program over the statements `Op`. Every continuation is given the answer of the
store: the result of the statement, or the error it raised. -/
inductive Program (Op : Type) (Res : Op → Type) (E X α : Type) : Type
  | ret (a : α)
  | fail (x : X)
  | call (op : Op) (k : Except E (Res op) → Program Op Res E X α)

namespace Program

def bind : Program Op Res E X α → (α → Program Op Res E X β) → Program Op Res E X β
  | .ret a, f => f a
  | .fail x, _ => .fail x
  | .call op k, f => .call op fun r => (k r).bind f

instance : Monad (Program Op Res E X) where
  pure := .ret
  bind := .bind

/-- A statement whose error is raised to the caller as `wrap e`. -/
def statement (wrap : E → X) (op : Op) : Program Op Res E X (Res op) :=
  .call op fun
    | .ok r => .ret r
    | .error e => .fail (wrap e)

@[simp] lemma pure_eq (a : α) : (pure a : Program Op Res E X α) = .ret a := rfl

@[simp] lemma ret_bind (a : α) (f : α → Program Op Res E X β) :
    ((.ret a : Program Op Res E X α) >>= f) = f a := rfl

@[simp] lemma fail_bind (x : X) (f : α → Program Op Res E X β) :
    ((.fail x : Program Op Res E X α) >>= f) = .fail x := rfl

@[simp] lemma call_bind (op : Op) (k : Except E (Res op) → Program Op Res E X α)
    (f : α → Program Op Res E X β) :
    (Program.call op k >>= f) = .call op fun r => k r >>= f := rfl

end Program

/-- How a store answers: `exec t op s` is the answer to `op` in the state `s` under the
conditions `t` (clock reading, fresh identifiers), and `apply` performs one write. -/
structure Engine (Op : Type) (Res : Op → Type) (S W T E : Type) where
  exec : T → (op : Op) → S → Except E (Res op × List W)
  apply : S → W → S

namespace Engine

variable (eng : Engine Op Res S W T E)

def applyAll (s : S) (ws : List W) : S :=
  ws.foldl eng.apply s

@[simp] lemma applyAll_nil (s : S) : eng.applyAll s [] = s := rfl

@[simp] lemma applyAll_cons (s : S) (w : W) (ws : List W) :
    eng.applyAll s (w :: ws) = eng.applyAll (eng.apply s w) ws := rfl

lemma applyAll_append (s : S) (ws ws' : List W) :
    eng.applyAll s (ws ++ ws') = eng.applyAll (eng.applyAll s ws) ws' := by
  simp [applyAll]

/-- The answer to one statement: the environment raises an error of its own, or the store
executes the statement. A statement that fails leaves the state as it was. -/
def answer (t : Except E T) (op : Op) (s : S) : Except E (Res op) × S :=
  match t with
  | .error e => (.error e, s)
  | .ok t =>
    match eng.exec t op s with
    | .error e => (.error e, s)
    | .ok (r, ws) => (.ok r, eng.applyAll s ws)

end Engine

namespace Program

variable (eng : Engine Op Res S W T E)

/-- Execution of a program alone. The environment decides for the `n`-th statement whether
it is executed, and under which conditions; the number of the next statement is returned. -/
def run (env : ℕ → Except E T) :
    Program Op Res E X α → ℕ → S → Except X (α × ℕ × S)
  | .ret a, n, s => .ok (a, n, s)
  | .fail x, _, _ => .error x
  | .call op k, n, s =>
    (k (eng.answer (env n) op s).1).run env (n + 1) (eng.answer (env n) op s).2

variable {eng} {env : ℕ → Except E T}

@[simp] lemma run_ret (a : α) (n : ℕ) (s : S) :
    run eng env (.ret a : Program Op Res E X α) n s = .ok (a, n, s) := rfl

@[simp] lemma run_fail (x : X) (n : ℕ) (s : S) :
    run eng env (.fail x : Program Op Res E X α) n s = .error x := rfl

@[simp] lemma run_ret_eq_ok {a b : α} {n m : ℕ} {s s' : S} :
    run eng env (.ret a : Program Op Res E X α) n s = .ok (b, m, s') ↔ a = b ∧ n = m ∧ s = s' := by
  simp only [run_ret, Except.ok.injEq, Prod.mk.injEq]

lemma run_statement_eq_ok {wrap : E → X} {op : Op} {r : Res op} {n m : ℕ} {s s' : S} :
    run eng env (statement wrap op) n s = .ok (r, m, s') ↔
      m = n + 1 ∧ ∃ t ws, env n = .ok t ∧ eng.exec t op s = .ok (r, ws) ∧ s' = eng.applyAll s ws := by
  simp only [statement, run, Engine.answer]
  cases env n with
  | error e => simp
  | ok t =>
    cases hexec : eng.exec t op s with
    | error e => simp [hexec]
    | ok result =>
      simp only [hexec, run_ret_eq_ok, Except.ok.injEq]
      constructor
      · rintro ⟨rfl, rfl, rfl⟩
        exact ⟨rfl, t, result.2, rfl, hexec, rfl⟩
      · rintro ⟨rfl, t', ws, rfl, hexec', rfl⟩
        rw [hexec] at hexec'
        cases hexec'
        exact ⟨rfl, rfl, rfl⟩

lemma run_bind (p : Program Op Res E X α) (f : α → Program Op Res E X β) (n : ℕ) (s : S) :
    run eng env (p >>= f) n s =
      match run eng env p n s with
      | .ok (a, n', s') => run eng env (f a) n' s'
      | .error x => .error x := by
  induction p generalizing n s with
  | ret a => rfl
  | fail x => rfl
  | call op k ih => exact ih _ _ _

lemma run_bind_eq_ok {p : Program Op Res E X α} {f : α → Program Op Res E X β} {b : β} {n m : ℕ}
    {s s' : S} : run eng env (p >>= f) n s = .ok (b, m, s') ↔
      ∃ a n₁ s₁, run eng env p n s = .ok (a, n₁, s₁) ∧
        run eng env (f a) n₁ s₁ = .ok (b, m, s') := by
  rw [run_bind]
  cases run eng env p n s with
  | error x => simp
  | ok result =>
    obtain ⟨a, n₁, s₁⟩ := result
    simp

end Program

/-! ### Successful executions -/

variable (eng : Engine Op Res S W T E)

/-- `Runs eng p s a s'`: from `s`, under some conditions, `p` returns `a` in the state `s'`. -/
inductive Runs : Program Op Res E X α → S → α → S → Prop
  | ret (a : α) (s : S) : Runs (.ret a) s a s
  | executed {t : T} {op : Op} {k : Except E (Res op) → Program Op Res E X α} {s s' : S}
      {r : Res op} {ws : List W} {a : α} (he : eng.exec t op s = .ok (r, ws))
      (hk : Runs (k (.ok r)) (eng.applyAll s ws) a s') : Runs (.call op k) s a s'
  | raised {op : Op} {k : Except E (Res op) → Program Op Res E X α} {s s' : S}
      {a : α} (e : E) (hk : Runs (k (.error e)) s a s') : Runs (.call op k) s a s'

variable {eng}

lemma Runs.of_run {env : ℕ → Except E T} {p : Program Op Res E X α} {n m : ℕ} {s s' : S}
    {a : α} (h : p.run eng env n s = .ok (a, m, s')) : Runs eng p s a s' := by
  induction p generalizing n s with
  | ret b =>
    simp only [Program.run_ret, Except.ok.injEq, Prod.mk.injEq] at h
    obtain ⟨rfl, -, rfl⟩ := h
    exact .ret _ _
  | fail x => simp at h
  | call op k ih =>
    simp only [Program.run, Engine.answer] at h
    cases henv : env n with
    | error e =>
      simp only [henv] at h
      exact .raised e (ih _ h)
    | ok t =>
      simp only [henv] at h
      cases hex : eng.exec t op s with
      | error e =>
        simp only [hex] at h
        exact .raised e (ih _ h)
      | ok rw =>
        simp only [hex] at h
        exact .executed hex (ih _ h)

@[simp] lemma runs_ret {a b : α} {s s' : S} :
    Runs eng (.ret a : Program Op Res E X α) s b s' ↔ b = a ∧ s' = s := by
  constructor
  · intro h
    cases h
    exact ⟨rfl, rfl⟩
  · rintro ⟨rfl, rfl⟩
    exact .ret _ _

@[simp] lemma runs_fail {x : X} {a : α} {s s' : S} :
    ¬ Runs eng (.fail x : Program Op Res E X α) s a s' := by
  intro h
  cases h

lemma runs_bind {p : Program Op Res E X α} {f : α → Program Op Res E X β} {s s' : S} {b : β} :
    Runs eng (p >>= f) s b s' ↔ ∃ a s₁, Runs eng p s a s₁ ∧ Runs eng (f a) s₁ b s' := by
  induction p generalizing s with
  | ret a => simp
  | fail x => simp
  | call op k ih =>
    constructor
    · intro h
      cases h with
      | executed he hk =>
        obtain ⟨a, s₁, h₁, h₂⟩ := (ih _).mp hk
        exact ⟨a, s₁, .executed he h₁, h₂⟩
      | raised e hk =>
        obtain ⟨a, s₁, h₁, h₂⟩ := (ih _).mp hk
        exact ⟨a, s₁, .raised e h₁, h₂⟩
    · rintro ⟨a, s₁, h₁, h₂⟩
      cases h₁ with
      | executed he hk => exact .executed he ((ih _).mpr ⟨a, s₁, hk, h₂⟩)
      | raised e hk => exact .raised e ((ih _).mpr ⟨a, s₁, hk, h₂⟩)

lemma runs_statement {wrap : E → X} {op : Op} {r : Res op} {s s' : S} :
    Runs eng (Program.statement wrap op) s r s' ↔
      ∃ t ws, eng.exec t op s = .ok (r, ws) ∧ s' = eng.applyAll s ws := by
  constructor
  · intro h
    cases h with
    | executed he hk =>
      simp only [runs_ret] at hk
      obtain ⟨rfl, rfl⟩ := hk
      exact ⟨_, _, he, rfl⟩
    | raised e hk => exact absurd hk runs_fail
  · rintro ⟨t, ws, he, rfl⟩
    exact .executed he (.ret _ _)

/-! ### Errors of the store -/

/-- The program fails as soon as a statement does. -/
def Program.Raises : Program Op Res E X α → Prop
  | .ret _ => True
  | .fail _ => True
  | .call _ k => (∀ e, ∃ x, k (.error e) = .fail x) ∧ ∀ r, (k r).Raises

namespace Program.Raises

@[simp] lemma ret (a : α) : (Program.ret a : Program Op Res E X α).Raises := trivial

@[simp] lemma fail (x : X) : (Program.fail x : Program Op Res E X α).Raises := trivial

lemma bind {p : Program Op Res E X α} {f : α → Program Op Res E X β} (hp : p.Raises)
    (hf : ∀ a, (f a).Raises) : (p >>= f).Raises := by
  induction p with
  | ret a => exact hf a
  | fail x => trivial
  | call op k ih =>
    refine ⟨fun e => ?_, fun r => ih r (hp.2 r)⟩
    obtain ⟨x, hx⟩ := hp.1 e
    refine ⟨x, ?_⟩
    change (k (.error e)).bind f = .fail x
    rw [hx]
    rfl

lemma statement (wrap : E → X) (op : Op) :
    (Program.statement wrap op : Program Op Res E X (Res op)).Raises := by
  refine ⟨fun e => ⟨wrap e, rfl⟩, fun r => ?_⟩
  cases r <;> trivial

/-- Where it returns, the environment has raised no error. -/
lemma run_eq_ok {p : Program Op Res E X α} (hp : p.Raises) {env : ℕ → Except E T} {tick : ℕ → T}
    (htick : ∀ i t, env i = .ok t → tick i = t) {n : ℕ} {s : S} {r : α × ℕ × S}
    (h : p.run eng env n s = .ok r) : p.run eng (fun i => .ok (tick i)) n s = .ok r := by
  induction p generalizing n s with
  | ret a => exact h
  | fail x => cases h
  | call op k ih =>
    simp only [Program.run] at h ⊢
    cases henv : env n with
    | error e =>
      obtain ⟨x, hx⟩ := hp.1 e
      simp only [henv, Engine.answer, hx, Program.run_fail] at h
      cases h
    | ok t =>
      rw [htick n t henv, ← henv]
      exact ih _ (hp.2 _) h

end Program.Raises

/-- Whatever the store answers, the program raises only exceptions that satisfy `Q`. -/
def Program.RaisesOnly (Q : X → Prop) : Program Op Res E X α → Prop
  | .ret _ => True
  | .fail x => Q x
  | .call _ k => ∀ r, (k r).RaisesOnly Q

namespace Program.RaisesOnly

variable {Q : X → Prop}

lemma bind {p : Program Op Res E X α} {f : α → Program Op Res E X β} (hp : p.RaisesOnly Q)
    (hf : ∀ a, (f a).RaisesOnly Q) : (p >>= f).RaisesOnly Q := by
  induction p with
  | ret a => exact hf a
  | fail x => exact hp
  | call op k ih => exact fun r => ih r (hp r)

lemma statement {wrap : E → X} (hwrap : ∀ e, Q (wrap e)) (op : Op) :
    (Program.statement wrap op : Program Op Res E X (Res op)).RaisesOnly Q := by
  rintro (e | r)
  · exact hwrap e
  · trivial

lemma run_eq_error {p : Program Op Res E X α} (hp : p.RaisesOnly Q) {env : ℕ → Except E T} {n : ℕ}
    {s : S} {x : X} (h : p.run eng env n s = .error x) : Q x := by
  induction p generalizing n s with
  | ret a => cases h
  | fail y =>
    cases h
    exact hp
  | call op k ih => exact ih _ (hp _) h

end Program.RaisesOnly

/-- The program sends no statements but those that satisfy `Q`. -/
def Program.CallsOnly (Q : Op → Prop) : Program Op Res E X α → Prop
  | .ret _ => True
  | .fail _ => True
  | .call op k => Q op ∧ ∀ r, (k r).CallsOnly Q

namespace Program.CallsOnly

variable {Q : Op → Prop}

@[simp] lemma ret (a : α) : (Program.ret a : Program Op Res E X α).CallsOnly Q := trivial

@[simp] lemma fail (x : X) : (Program.fail x : Program Op Res E X α).CallsOnly Q := trivial

lemma bind {p : Program Op Res E X α} {f : α → Program Op Res E X β} (hp : p.CallsOnly Q)
    (hf : ∀ a, (f a).CallsOnly Q) : (p >>= f).CallsOnly Q := by
  induction p with
  | ret a => exact hf a
  | fail x => trivial
  | call op k ih => exact ⟨hp.1, fun r => ih r (hp.2 r)⟩

lemma statement {wrap : E → X} {op : Op} (h : Q op) :
    (Program.statement wrap op : Program Op Res E X (Res op)).CallsOnly Q := by
  refine ⟨h, fun r => ?_⟩
  cases r <;> trivial

lemma mono {Q' : Op → Prop} (h : ∀ op, Q op → Q' op) {p : Program Op Res E X α}
    (hp : p.CallsOnly Q) : p.CallsOnly Q' := by
  induction p with
  | ret a => trivial
  | fail x => trivial
  | call op k ih => exact ⟨h op hp.1, fun r => ih r (hp.2 r)⟩

end Program.CallsOnly

/-! ### Retried attempts -/

/-- Attempts numbered from `i`, repeated on the state the failed one left while the error is
worth another attempt and at most `more` further times. The last error is the one raised. -/
def retry (again : X → Bool) (attempt : ℕ → S → Except X α × S) :
    (more : ℕ) → (i : ℕ) → S → Except X α × S
  | 0, i, s => attempt i s
  | more + 1, i, s =>
    match attempt i s with
    | (.error x, s') => if again x then retry again attempt more (i + 1) s' else (.error x, s')
    | (.ok a, s') => (.ok a, s')

variable {again : X → Bool} {attempt : ℕ → S → Except X α × S}

/-- What one attempt preserves, a retried call preserves. -/
lemma retry_preserves {I : S → Prop} (h : ∀ i s, I s → I (attempt i s).2) (more i : ℕ) (s : S)
    (hs : I s) : I (retry again attempt more i s).2 := by
  induction more generalizing i s with
  | zero => exact h i s hs
  | succ more ih =>
    have hi := h i s hs
    simp only [retry]
    split
    · rename_i x s' heq
      rw [heq] at hi
      split_ifs
      · exact ih _ _ hi
      · exact hi
    · rename_i a s' heq
      rw [heq] at hi
      exact hi

/-- What an attempt establishes and the further ones preserve. -/
lemma retry_preserves_first {I : S → Prop} (h : ∀ i s, I s → I (attempt i s).2) (more : ℕ)
    {i : ℕ} {s : S} (hi : I (attempt i s).2) : I (retry again attempt more i s).2 := by
  cases more with
  | zero => exact hi
  | succ more =>
    simp only [retry]
    split
    · rename_i x s' heq
      rw [heq] at hi
      split_ifs
      · exact retry_preserves h _ _ _ hi
      · exact hi
    · rename_i a s' heq
      rw [heq] at hi
      exact hi

/-- The attempts numbered from `i`, the first of them made on `s`, get as far as the `j`-th
one, which is made on `s'`. -/
inductive Reaches (again : X → Bool) (attempt : ℕ → S → Except X α × S) :
    ℕ → S → ℕ → S → Prop
  | here (i : ℕ) (s : S) : Reaches again attempt i s i s
  | next {i j : ℕ} {s s₁ s' : S} {x : X} (h : attempt i s = (.error x, s₁))
      (hx : again x = true) (hr : Reaches again attempt (i + 1) s₁ j s') :
      Reaches again attempt i s j s'

namespace Reaches

variable {i j : ℕ} {s s' : S}

lemma le (h : Reaches again attempt i s j s') : i ≤ j := by
  induction h with
  | here => exact Nat.le_refl _
  | next _ _ _ ih => omega

lemma preserves {I : S → Prop} (hI : ∀ i s, I s → I (attempt i s).2)
    (h : Reaches again attempt i s j s') (hs : I s) : I s' := by
  induction h with
  | here => exact hs
  | @next i _ s s₁ _ x hi _ _ ih =>
    have hs₁ := hI i s hs
    rw [hi] at hs₁
    exact ih hs₁

/-- Every attempt before the one reached failed with an error worth another attempt. -/
lemma earlier (h : Reaches again attempt i s j s') {k : ℕ} (hik : i ≤ k) (hkj : k < j) :
    ∃ sₖ x, Reaches again attempt i s k sₖ ∧ (attempt k sₖ).1 = .error x ∧ again x = true := by
  induction h with
  | here => omega
  | @next i _ s _ _ x hi hx _ ih =>
    rcases Nat.lt_or_eq_of_le hik with hlt | rfl
    · obtain ⟨sₖ, y, hr, hy⟩ := ih hlt hkj
      exact ⟨sₖ, y, .next hi hx hr, hy⟩
    · exact ⟨s, x, .here _ _, by rw [hi], hx⟩

/-- A retried call goes on from the attempt reached. -/
lemma retry_eq (h : Reaches again attempt i s j s') {more : ℕ} (hj : j ≤ i + more) :
    retry again attempt more i s = retry again attempt (i + more - j) j s' := by
  induction h generalizing more with
  | here i s => rw [Nat.add_sub_cancel_left]
  | @next i j s s₁ s' x hi hx hr ih =>
    have := hr.le
    obtain ⟨more, rfl⟩ : ∃ m, more = m + 1 := ⟨more - 1, by omega⟩
    simp only [retry, hi, hx, if_true]
    rw [ih (by omega)]
    congr 1
    omega

end Reaches

/-- A retried call ends with the result of the last attempt it reaches. -/
lemma retry_reaches (again : X → Bool) (attempt : ℕ → S → Except X α × S) (more i : ℕ) (s : S) :
    ∃ j s', j ≤ i + more ∧ Reaches again attempt i s j s' ∧
      retry again attempt more i s = attempt j s' ∧
      ∀ x, (attempt j s').1 = .error x → again x = true → j = i + more := by
  induction more generalizing i s with
  | zero => exact ⟨i, s, Nat.le_refl _, .here i s, rfl, fun _ _ _ => rfl⟩
  | succ more ih =>
    simp only [retry]
    split
    · rename_i x s₁ heq
      split_ifs with hx
      · obtain ⟨j, s', hj, hr, hend, hlast⟩ := ih (i + 1) s₁
        refine ⟨j, s', by omega, .next heq hx hr, hend, fun y hy hagain => ?_⟩
        have := hlast y hy hagain
        omega
      · refine ⟨i, s, by omega, .here i s, heq.symm, fun y hy hagain => ?_⟩
        rw [heq] at hy
        cases hy
        exact absurd hagain hx
    · rename_i a s₁ heq
      refine ⟨i, s, by omega, .here i s, heq.symm, fun y hy => ?_⟩
      rw [heq] at hy
      cases hy

/-- An attempt that is not repeated is the last one. -/
lemma retry_eq_attempt {i : ℕ} {s : S}
    (h : ∀ x, (attempt i s).1 = .error x → again x = false) (more : ℕ) :
    retry again attempt more i s = attempt i s := by
  cases more with
  | zero => rfl
  | succ more =>
    simp only [retry]
    split
    · rename_i x s₁ heq
      rw [h x (by rw [heq])]
      exact heq.symm
    · rename_i a s₁ heq
      exact heq.symm

/-- Once an attempt has failed and left a state no further attempt succeeds in, the call
fails. -/
lemma retry_error {I : S → Prop} (hI : ∀ i s, I s → I (attempt i s).2)
    (hfail : ∀ i s, I s → ∃ x, (attempt i s).1 = .error x) {i : ℕ} {s s' : S} {x : X}
    (h : attempt i s = (.error x, s')) (hs' : I s') (more : ℕ) :
    ∃ y, (retry again attempt more i s).1 = .error y := by
  obtain ⟨j, sⱼ, -, hr, heq, -⟩ := retry_reaches again attempt more i s
  rw [heq]
  cases hr with
  | here => exact ⟨x, by rw [h]⟩
  | next h' _ hr =>
    rw [h] at h'
    cases h'
    exact hfail j sⱼ (hr.preserves hI hs')

/-- Where a failed attempt leaves no trace, a call ends as one of its attempts, made on the state it
met. -/
lemma retry_traceless {s : S} (h : ∀ i x s', attempt i s = (.error x, s') → s' = s) (more i : ℕ) :
    ∃ j, retry again attempt more i s = attempt j s := by
  induction more generalizing i with
  | zero => exact ⟨i, rfl⟩
  | succ more ih =>
    simp only [retry]
    split
    · rename_i x s' heq
      obtain rfl := h i x s' heq
      split_ifs
      · exact ih (i + 1)
      · exact ⟨i, heq.symm⟩
    · rename_i a s' heq
      exact ⟨i, heq.symm⟩

/-- Attempts that add their entry to a trace, whatever it holds. -/
lemma retry_trace {L : Type} (again : X → Bool) (outcome : ℕ → Except X α) (entry : ℕ → L)
    (more i : ℕ) (trace : List L) :
    ∃ n ≤ more, (∀ j < n, ∃ x, outcome (i + j) = .error x ∧ again x = true) ∧
      (∀ x, outcome (i + n) = .error x → again x = true → n = more) ∧
      retry again (fun i trace => (outcome i, trace ++ [entry i])) more i trace =
        (outcome (i + n), trace ++ (List.range (n + 1)).map fun j => entry (i + j)) := by
  induction more generalizing i trace with
  | zero => exact ⟨0, Nat.le_refl 0, by simp, fun _ _ _ => rfl, rfl⟩
  | succ more ih =>
    by_cases hagain : ∃ x, outcome i = .error x ∧ again x = true
    · obtain ⟨x, hx, hxagain⟩ := hagain
      obtain ⟨n, hn, hearlier, hlast, heq⟩ := ih (i + 1) (trace ++ [entry i])
      have hshift : ∀ j, i + 1 + j = i + (j + 1) := fun j => by omega
      refine ⟨n + 1, by omega, fun j hj => ?_, fun y hy hyagain => ?_, ?_⟩
      · cases j with
        | zero => exact ⟨x, hx, hxagain⟩
        | succ j =>
          rw [← hshift]
          exact hearlier j (by omega)
      · rw [hlast y (by rw [hshift, hy]) hyagain]
      · simp only [retry, hx, hxagain, if_true]
        rw [heq, List.range_succ_eq_map (n := n + 1), List.map_cons, List.map_map, hshift,
          List.append_assoc]
        simp only [Function.comp_def, Nat.succ_eq_add_one, hshift, Nat.add_zero,
          List.singleton_append]
    · refine ⟨0, Nat.zero_le _, by simp, fun x hx hxagain => absurd ⟨x, hx, hxagain⟩ hagain, ?_⟩
      simp only [retry]
      cases hi : outcome i with
      | ok a => rfl
      | error x =>
        have hx : again x ≠ true := fun hx => hagain ⟨x, hi, hx⟩
        simp only [if_neg hx]
        rfl

end Transaction

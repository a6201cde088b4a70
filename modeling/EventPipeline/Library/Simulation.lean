import EventPipeline.Library.Collect
import EventPipeline.Library.Program

/-!
# Programs and the functions they compute

An abstract model of a program is a function that is undefined where the program fails. The
two agree when they fail together and otherwise return related results. Agreement composes
along `bind`, and selecting rows agrees with selecting their images.
-/

namespace Transaction

variable {ε α β α' β' : Type}

@[simp] lemma toOption_eq_some {x : Except ε α} {a : α} : x.toOption = some a ↔ x = .ok a := by
  cases x <;> simp [Except.toOption]

/-- Both fail, or both return, and the results are related. -/
inductive Agree (R : α → β → Prop) : Except ε α → Option β → Prop
  | ok {a : α} {b : β} (h : R a b) : Agree R (.ok a) (some b)
  | error (e : ε) : Agree R (.error e) none

namespace Agree

variable {R R' : α → β → Prop} {Q : α' → β' → Prop} {x : Except ε α} {y : Option β}

lemma mono (h : Agree R x y) (hR : ∀ a b, x = .ok a → y = some b → R a b → R' a b) :
    Agree R' x y := by
  cases h with
  | ok h => exact .ok (hR _ _ rfl rfl h)
  | error e => exact .error e

lemma bind (h : Agree R x y) {f : α → Except ε α'} {g : β → Option β'}
    (hfg : ∀ a b, x = .ok a → y = some b → R a b → Agree Q (f a) (g b)) :
    Agree Q (x >>= f) (y >>= g) := by
  cases h with
  | ok h => exact hfg _ _ rfl rfl h
  | error e => exact .error e

lemma map (h : Agree R x y) {f : α → α'} {g : β → β'} (hfg : ∀ a b, R a b → Q (f a) (g b)) :
    Agree Q (x.map f) (y.map g) := by
  cases h with
  | ok h => exact .ok (hfg _ _ h)
  | error e => exact .error e

lemma mapError {ε' : Type} (h : Agree R x y) (f : ε → ε') : Agree R (x.mapError f) y := by
  cases h with
  | ok h => exact .ok h
  | error e => exact .error (f e)

/-- A condition both check. -/
lemma ite {p q : Prop} [Decidable p] [Decidable q] {x' : Except ε α} {y' : Option β}
    (hpq : p ↔ q) (h : p → Agree R x y) (h' : ¬ p → Agree R x' y') :
    Agree R (if p then x else x') (if q then y else y') := by
  by_cases hp : p
  · rw [if_pos hp, if_pos (hpq.mp hp)]
    exact h hp
  · rw [if_neg hp, if_neg (hpq.not.mp hp)]
    exact h' hp

lemma of_ok (h : Agree R x y) {a : α} (hx : x = .ok a) : ∃ b, y = some b ∧ R a b := by
  cases h with
  | ok h =>
    cases hx
    exact ⟨_, rfl, h⟩
  | error e => cases hx

lemma of_some (h : Agree R x y) {b : β} (hy : y = some b) : ∃ a, x = .ok a ∧ R a b := by
  cases h with
  | ok h =>
    cases hy
    exact ⟨_, rfl, h⟩
  | error e => cases hy

lemma of_none (h : Agree R x y) (hy : y = none) : ∃ e, x = .error e := by
  cases h with
  | ok h => cases hy
  | error e => exact ⟨e, rfl⟩

end Agree

/-- A step that is the same on both sides. -/
lemma Agree.step {Q : α' → β' → Prop} {x : Except ε α} {f : α → Except ε α'}
    {g : α → Option β'} (h : ∀ a, x = .ok a → Agree Q (f a) (g a)) :
    Agree Q (x >>= f) (x.toOption >>= g) := by
  cases x with
  | ok a => exact h a rfl
  | error e => exact .error e

/-! ### Programs -/

section Programs

variable {Op : Type} {Res : Op → Type} {S W T E X : Type} {eng : Engine Op Res S W T E}
  {env : ℕ → Except E T} {n : ℕ} {s : S}

/-- A relation of results and states, of a program and of its abstract counterpart. -/
abbrev Ends {S : Type} (R : α → S → β → Prop) : α × ℕ × S → β → Prop :=
  fun r b => R r.1 r.2.2 b

lemma Agree.run_bind {R : α → S → β → Prop} {Q : α' → S → β' → Prop}
    {p : Program Op Res E X α} {f : α → Program Op Res E X α'} {y : Option β}
    {g : β → Option β'} (h : Agree (Ends R) (p.run eng env n s) y)
    (hfg : ∀ a n' s' b, p.run eng env n s = .ok (a, n', s') → R a s' b →
      Agree (Ends Q) ((f a).run eng env n' s') (g b)) :
    Agree (Ends Q) ((p >>= f).run eng env n s) (y >>= g) := by
  rw [Program.run_bind]
  cases hp : p.run eng env n s with
  | ok r =>
    obtain ⟨b, rfl, hR⟩ := h.of_ok hp
    exact hfg _ _ _ b hp hR
  | error x =>
    rw [hp] at h
    cases h
    exact .error x

/-- A continuation that only rearranges what was returned. -/
lemma Agree.run_then {R : α → S → β → Prop} {Q : α' → S → β → Prop}
    {p : Program Op Res E X α} {f : α → Program Op Res E X α'} {y : Option β}
    (h : Agree (Ends R) (p.run eng env n s) y)
    (hf : ∀ a n' s' b, p.run eng env n s = .ok (a, n', s') → R a s' b →
      ∃ a' m, (f a).run eng env n' s' = .ok (a', m, s') ∧ Q a' s' b) :
    Agree (Ends Q) ((p >>= f).run eng env n s) y := by
  rw [Program.run_bind]
  cases hp : p.run eng env n s with
  | ok r =>
    obtain ⟨b, rfl, hR⟩ := h.of_ok hp
    obtain ⟨a', m, hrun, hQ⟩ := hf _ _ _ b hp hR
    simp only [hrun]
    exact .ok hQ
  | error x =>
    rw [hp] at h
    cases h
    exact .error x

lemma Agree.statement {op : Op} {R : Res op → S → β → Prop} {wrap : E → X} {t : T}
    (henv : env n = .ok t) {y : Option β}
    (h : Agree (fun r b => R r.1 (eng.applyAll s r.2) b) (eng.exec t op s) y) :
    Agree (Ends R) ((Program.statement wrap op).run eng env n s) y := by
  simp only [Program.statement, Program.run, henv, Engine.answer]
  cases hex : eng.exec t op s with
  | ok r =>
    obtain ⟨b, rfl, hR⟩ := h.of_ok hex
    exact .ok hR
  | error e =>
    rw [hex] at h
    cases h
    exact .error _

end Programs

/-! ### Rows and their images -/

lemma map_bind_except {γ : Type} (x : Except ε α) (f : α → Except ε β) (g : β → γ) :
    (x >>= f).map g = x >>= fun a => (f a).map g := by
  cases x <;> rfl

lemma collect_map {γ : Type} (f : α → Except ε β) (g : β → γ) (as : List α) :
    (collect f as).map (List.map g) = collect (fun a => (f a).map g) as := by
  induction as with
  | nil => rfl
  | cons a as ih =>
    simp only [collect, ← ih]
    cases f a with
    | error e => rfl
    | ok b => cases collect f as <;> rfl

lemma collect_congr {f g : α → Except ε β} {as : List α} (h : ∀ a ∈ as, f a = g a) :
    collect f as = collect g as := by
  induction as with
  | nil => rfl
  | cons a as ih =>
    obtain ⟨ha, has⟩ := List.forall_mem_cons.mp h
    simp only [collect, ha, ih has]

lemma selectRows_map {cond : β → Except ε Bool} (f : α → β) (as : List α) :
    selectRows cond (as.map f) = (selectRows (fun a => cond (f a)) as).map (List.map f) := by
  induction as with
  | nil => rfl
  | cons a as ih =>
    simp only [List.map_cons, selectRows, ih]
    cases cond (f a) with
    | error e => rfl
    | ok b =>
      cases selectRows (fun a => cond (f a)) as with
      | error e => rfl
      | ok rows => cases b <;> rfl

/-- Rows selected on one side, and their images on the other. -/
lemma Agree.select {Q : α' → β' → Prop} {cond : α → Except ε Bool} {cond' : β → Except ε Bool}
    (f : α → β) (hcond : ∀ a, cond a = cond' (f a)) {as : List α}
    {k : List α → Except ε α'} {k' : List β → Option β'}
    (h : Agree Q (k (as.filter fun a => holds (cond a)))
      (k' ((as.filter fun a => holds (cond a)).map f))) :
    Agree Q (selectRows cond as >>= k) ((selectRows cond' (as.map f)).toOption >>= k') := by
  rw [selectRows_map, ← funext hcond]
  cases hrows : selectRows cond as with
  | ok rows =>
    obtain ⟨-, rfl⟩ := selectRows_eq_ok.mp hrows
    exact h
  | error e => exact .error e

end Transaction

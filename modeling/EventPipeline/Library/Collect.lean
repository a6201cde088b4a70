import Mathlib.Data.List.Forall2
import Mathlib.Tactic.Common

/-!
# Fallible traversals of a list

Evaluating a condition, or computing a row, for every element of a list, where one failing
element fails the whole traversal.
-/

namespace Transaction

variable {ε α β : Type}

@[simp] lemma bind_eq_ok {x : Except ε α} {f : α → Except ε β} {b : β} :
    (x >>= f) = .ok b ↔ ∃ a, x = .ok a ∧ f a = .ok b := by
  cases x with
  | ok a =>
    change f a = _ ↔ _
    simp
  | error e =>
    change Except.error e = _ ↔ _
    simp

lemma bind_eq_error {x : Except ε α} {f : α → Except ε β} {e : ε} :
    x >>= f = .error e ↔ x = .error e ∨ ∃ a, x = .ok a ∧ f a = .error e := by
  cases x with
  | error e' => simp [bind, Except.bind]
  | ok a => simp [bind, Except.bind]

/-- Whether a condition evaluates to true. -/
def holds : Except ε Bool → Bool
  | .ok b => b
  | .error _ => false

@[simp] lemma holds_iff {c : Except ε Bool} : holds c = true ↔ c = .ok true := by
  cases c <;> simp [holds]

/-- The elements satisfying a condition, which is evaluated on every element. -/
def selectRows (cond : α → Except ε Bool) : List α → Except ε (List α)
  | [] => .ok []
  | a :: as => do
    let b ← cond a
    let rest ← selectRows cond as
    .ok (if b then a :: rest else rest)

lemma selectRows_eq_ok {cond : α → Except ε Bool} {as rows : List α} :
    selectRows cond as = .ok rows ↔
      (∀ a ∈ as, ∃ b, cond a = .ok b) ∧ rows = as.filter fun a => holds (cond a) := by
  induction as generalizing rows with
  | nil => simp [selectRows, eq_comm]
  | cons a as ih =>
    simp only [selectRows, bind_eq_ok, ih, List.forall_mem_cons, List.filter_cons,
      Except.ok.injEq]
    constructor
    · rintro ⟨b, hb, rest, ⟨has, rfl⟩, rfl⟩
      refine ⟨⟨⟨b, hb⟩, has⟩, ?_⟩
      cases b <;> simp [hb, holds]
    · rintro ⟨⟨⟨b, hb⟩, has⟩, rfl⟩
      refine ⟨b, hb, _, ⟨has, rfl⟩, ?_⟩
      cases b <;> simp [hb, holds]

/-- The results of a computation on every element, in order. -/
def collect (f : α → Except ε β) : List α → Except ε (List β)
  | [] => .ok []
  | a :: as => do
    let b ← f a
    let rest ← collect f as
    .ok (b :: rest)

lemma collect_eq_ok {f : α → Except ε β} {as : List α} {bs : List β} :
    collect f as = .ok bs ↔ List.Forall₂ (fun a b => f a = .ok b) as bs := by
  induction as generalizing bs with
  | nil => simp [collect, eq_comm]
  | cons a as ih =>
    simp only [collect, bind_eq_ok, ih, Except.ok.injEq]
    constructor
    · rintro ⟨b, hb, rest, hrest, rfl⟩
      exact .cons hb hrest
    · intro h
      cases h with
      | cons hb hrest => exact ⟨_, hb, _, hrest, rfl⟩

lemma exists_of_mem_right {γ : Type} {R : α → γ → Prop} {as : List α} {cs : List γ}
    (h : List.Forall₂ R as cs) {c : γ} (hc : c ∈ cs) : ∃ a ∈ as, R a c := by
  induction h with
  | nil => cases hc
  | @cons a c' as cs hR _ ih =>
    rcases List.mem_cons.mp hc with rfl | hc
    · exact ⟨a, List.mem_cons_self, hR⟩
    · obtain ⟨a', ha', hR'⟩ := ih hc
      exact ⟨a', List.mem_cons_of_mem _ ha', hR'⟩

lemma exists_of_mem_left {γ : Type} {R : α → γ → Prop} {as : List α} {cs : List γ}
    (h : List.Forall₂ R as cs) {a : α} (ha : a ∈ as) : ∃ c ∈ cs, R a c := by
  obtain ⟨c, hc, hR⟩ := exists_of_mem_right h.flip ha
  exact ⟨c, hc, hR⟩

/-- Numbering the elements on the right of a correspondence. -/
lemma forall₂_zipIdx {γ : Type} {R : α → β → Prop} {Q : α → γ → Prop} {g : β × ℕ → γ}
    (hg : ∀ a b i, R a b → Q a (g (b, i))) {as : List α} {bs : List β}
    (h : List.Forall₂ R as bs) (n : ℕ) : List.Forall₂ Q as ((bs.zipIdx n).map g) := by
  induction h generalizing n with
  | nil => exact .nil
  | cons hab _ ih => exact .cons (hg _ _ _ hab) (ih (n + 1))

/-- What is kept of the entries is what they stand for. -/
lemma filterMap_sublist_map {f : α → Option β} {g : α → β}
    (h : ∀ a b, f a = some b → b = g a) {l : List α} : (l.filterMap f).Sublist (l.map g) := by
  induction l with
  | nil => exact .refl _
  | cons a l ih =>
    rw [List.filterMap_cons, List.map_cons]
    cases hfa : f a with
    | none => exact ih.cons _
    | some b =>
      obtain rfl := h a b hfa
      exact ih.cons_cons _

end Transaction

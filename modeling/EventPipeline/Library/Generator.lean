import Mathlib.Tactic.Common

/-!
# Generators and the loops over them

A generator is a step that yields a value and goes on, or ends. It need not end, so that to drain it
and to loop over it are given the number of steps they may take. A loop that ends by itself has
drained its generator and folded its body over what it yielded (`consume_eq_ok_iff`).
-/

namespace Transaction

variable {σ β τ ε : Type}

/-- What a generator yields up to its end, if that comes within `fuel` steps. -/
def drain (next : σ → Option (β × σ)) : (fuel : ℕ) → σ → Option (List β)
  | 0, _ => none
  | fuel + 1, s =>
    match next s with
    | none => some []
    | some (b, s) => (drain next fuel s).map (b :: ·)

/-- A loop over a generator, if it ends within `fuel` steps. An error of its body ends it. -/
def consume (next : σ → Option (β × σ)) (body : τ → β → Except ε τ) :
    (fuel : ℕ) → σ → τ → Option (Except ε τ)
  | 0, _, _ => none
  | fuel + 1, s, t =>
    match next s with
    | none => some (.ok t)
    | some (b, s) =>
      match body t b with
      | .error e => some (.error e)
      | .ok t => consume next body fuel s t

variable {next : σ → Option (β × σ)} {body : τ → β → Except ε τ} {fuel fuel' : ℕ} {s : σ} {t : τ}

/-! ### The end -/

/-- A generator yields one list. -/
lemma drain_unique {bs bs' : List β} (h : drain next fuel s = some bs)
    (h' : drain next fuel' s = some bs') : bs = bs' := by
  induction fuel generalizing fuel' s bs bs' with
  | zero => cases h
  | succ fuel ih =>
    cases fuel' with
    | zero => cases h'
    | succ fuel' =>
      simp only [drain] at h h'
      cases hnext : next s with
      | none =>
        rw [hnext] at h h'
        exact Option.some.inj (h.symm.trans h')
      | some r =>
        simp only [hnext, Option.map_eq_some_iff] at h h'
        obtain ⟨rest, hrest, rfl⟩ := h
        obtain ⟨rest', hrest', rfl⟩ := h'
        rw [ih hrest hrest']

/-- A loop over a generator that ends folds its body over what is yielded. -/
lemma consume_of_drain {bs : List β} (h : drain next fuel s = some bs)
    (body : τ → β → Except ε τ) (t : τ) :
    consume next body fuel s t = some (bs.foldlM body t) := by
  induction fuel generalizing s bs t with
  | zero => cases h
  | succ fuel ih =>
    simp only [drain] at h
    cases hnext : next s with
    | none =>
      rw [hnext] at h
      cases h
      simp only [consume, hnext]
      rfl
    | some r =>
      simp only [hnext, Option.map_eq_some_iff] at h
      obtain ⟨rest, hrest, rfl⟩ := h
      simp only [consume, hnext, List.foldlM_cons]
      cases body t r.1 with
      | error e => rfl
      | ok t => exact ih hrest t

/-- A loop that no error ends has drained its generator. -/
lemma consume_eq_ok_iff {t' : τ} : consume next body fuel s t = some (.ok t') ↔
    ∃ bs, drain next fuel s = some bs ∧ bs.foldlM body t = .ok t' := by
  constructor
  · intro h
    suffices hdrain : ∃ bs, drain next fuel s = some bs by
      obtain ⟨bs, hbs⟩ := hdrain
      rw [consume_of_drain hbs] at h
      exact ⟨bs, hbs, Option.some.inj h⟩
    induction fuel generalizing s t with
    | zero => cases h
    | succ fuel ih =>
      simp only [consume] at h
      cases hnext : next s with
      | none => exact ⟨[], by simp only [drain, hnext]⟩
      | some r =>
        simp only [hnext] at h
        cases hbody : body t r.1 with
        | error e =>
          rw [hbody] at h
          cases h
        | ok t =>
          rw [hbody] at h
          obtain ⟨bs, hbs⟩ := ih h
          exact ⟨r.1 :: bs, by simp only [drain, hnext, hbs, Option.map_some]⟩
  · rintro ⟨bs, hbs, hfold⟩
    rw [consume_of_drain hbs, hfold]

/-! ### No end -/

/-- A generator that always goes on is not drained. -/
lemma drain_eq_none (I : σ → Prop) (hnext : ∀ s, I s → ∃ b s', next s = some (b, s') ∧ I s')
    (fuel : ℕ) (hs : I s) : drain next fuel s = none := by
  induction fuel generalizing s with
  | zero => rfl
  | succ fuel ih =>
    obtain ⟨b, s', hstep, hs'⟩ := hnext s hs
    simp only [drain, hstep, ih hs', Option.map_none]

/-- A loop whose generator always goes on, and whose body raises nothing, does not end. -/
lemma consume_eq_none (I : σ → τ → Prop)
    (hnext : ∀ s t, I s t → ∃ b s' t', next s = some (b, s') ∧ body t b = .ok t' ∧ I s' t')
    (fuel : ℕ) (hs : I s t) : consume next body fuel s t = none := by
  induction fuel generalizing s t with
  | zero => rfl
  | succ fuel ih =>
    obtain ⟨b, s', t', hstep, hbody, hs'⟩ := hnext s t hs
    simp only [consume, hstep, hbody, ih hs']

end Transaction

import Mathlib.Data.List.Perm.Basic
import EventPipeline.Library.Collect

/-!
# Steps that do not meet

Rows are owned, and a step reads and writes the rows of its owner and rows nobody owns. The first
lemmas are about rows that are hidden: a selection that finds none of them is the same without
them, and an update of other rows keeps them. The others are about runs: what an owner sees after
interleaved steps is what its own steps make of what it saw (`view_run`), so two interleavings of
the same steps of every owner end alike (`view_run_eq`, `outputs_eq`).
-/

namespace Transaction

variable {ε α β : Type}

/-! ### Hidden rows -/

/-- A selection that finds no hidden row. -/
lemma selectRows_filter {cond : α → Except ε Bool} {p : α → Bool} {as : List α}
    (h : ∀ a ∈ as, p a = false → cond a = .ok false) :
    selectRows cond (as.filter p) = selectRows cond as := by
  induction as with
  | nil => rfl
  | cons a as ih =>
    obtain ⟨ha, has⟩ := List.forall_mem_cons.mp h
    cases hp : p a with
    | true => simp only [List.filter_cons, hp, if_true, selectRows, ih has]
    | false =>
      simp only [List.filter_cons, hp, Bool.false_eq_true, if_false, selectRows, ih has, ha hp]
      cases selectRows cond as <;> rfl

lemma any_filter_of {p q : α → Bool} {as : List α} (h : ∀ a ∈ as, p a = false → q a = false) :
    (as.filter p).any q = as.any q := by
  induction as with
  | nil => rfl
  | cons a as ih =>
    obtain ⟨ha, has⟩ := List.forall_mem_cons.mp h
    cases hp : p a with
    | true => simp only [List.filter_cons, hp, if_true, List.any_cons, ih has]
    | false => simp [hp, ih has, ha hp]

/-- A step with the same result. -/
lemma bind_congr_map {γ : Type} {x : Option α} {f : α → Option β} {f' : α → Option γ} {k : β → γ}
    (h : ∀ a, x = some a → f' a = (f a).map k) : (x >>= f') = (x >>= f).map k := by
  cases x with
  | none => rfl
  | some a => exact h a rfl

/-- A step whose result is the one it has with the hidden rows, without them. -/
lemma bind_eq_map {γ α' : Type} {x : Option α} {x' : Option α'} {f : α → Option β}
    {f' : α' → Option γ} {j : α → α'} {k : β → γ} (hx : x' = x.map j)
    (h : ∀ a, x = some a → f' (j a) = (f a).map k) : (x' >>= f') = (x >>= f).map k := by
  subst hx
  cases x with
  | none => rfl
  | some a => exact h a rfl

/-- An update that does not change which rows are hidden. -/
lemma filter_map_of {p : α → Bool} {f : α → α} (hf : ∀ a, p (f a) = p a) (as : List α) :
    (as.map f).filter p = (as.filter p).map f := by
  rw [List.filter_map]
  exact congrArg (List.map f) (List.filter_congr fun a _ => hf a)

/-- An update of hidden rows only. -/
lemma filter_map_hidden {p : α → Bool} {f : α → α} (hf : ∀ a, p (f a) = p a) (as : List α)
    (h : ∀ a ∈ as, p a = true → f a = a) : (as.map f).filter p = as.filter p := by
  rw [filter_map_of hf]
  conv_rhs => rw [← List.map_id (as.filter p)]
  refine List.map_congr_left fun a ha => ?_
  obtain ⟨ha, hp⟩ := List.mem_filter.mp ha
  exact h a ha hp

/-- An UPDATE keeps hidden rows hidden. -/
lemma filter_update {p : α → Bool} (cond : α → Except ε Bool) {f : α → α}
    (hf : ∀ a, p (f a) = p a) (as : List α) :
    (as.map fun a => if holds (cond a) then f a else a).filter p =
      (as.filter p).map fun a => if holds (cond a) then f a else a := by
  refine filter_map_of (fun a => ?_) as
  split_ifs
  · exact hf a
  · rfl

/-- An UPDATE that finds hidden rows only. -/
lemma filter_update_hidden {p : α → Bool} {cond : α → Except ε Bool} {f : α → α}
    (hf : ∀ a, p (f a) = p a) (h : ∀ a, cond a = .ok true → p a = false) (as : List α) :
    (as.map fun a => if holds (cond a) then f a else a).filter p = as.filter p := by
  refine filter_map_hidden (fun a => ?_) as fun a _ ha => ?_
  · split_ifs
    · exact hf a
    · rfl
  · refine if_neg fun hcond => ?_
    rw [h a (holds_iff.mp hcond)] at ha
    cases ha

/-- Rows that agree wherever they are not hidden are the same rows. -/
lemma perm_of_filter {ι : Type} {p : ι → α → Bool} {as bs : List α}
    (hp : ∀ a, ∃ i, p i a = true) (h : ∀ i, as.filter (p i) = bs.filter (p i)) : as.Perm bs := by
  classical
  refine List.perm_iff_count.mpr fun a => ?_
  obtain ⟨i, hi⟩ := hp a
  rw [← List.count_filter hi, h i, List.count_filter hi]

/-! ### Runs -/

section Runs

variable {ι E S O : Type} [DecidableEq ι]

/-- What the steps of a run put out, each beside its step. -/
def outputs (step : E → S → S) (out : E → S → O) : List E → S → List (E × O)
  | [], _ => []
  | e :: es, s => (e, out e s) :: outputs step out es (step e s)

/-- A run seen through an abstraction of its steps, states and outputs. -/
lemma outputs_abstract {E' S' O' : Type} {step : E → S → S} {out : E → S → O} {step' : E' → S' → S'}
    {out' : E' → S' → O'} {P : E → Prop} {I : S → Prop} {e' : E → E'} {s' : S → S'} {o' : O → O'}
    (hkeeps : ∀ e s, P e → I s → I (step e s))
    (hstep : ∀ e s, P e → I s → s' (step e s) = step' (e' e) (s' s))
    (hout : ∀ e s, P e → I s → o' (out e s) = out' (e' e) (s' s)) {es : List E} {s : S}
    (hes : ∀ e ∈ es, P e) (hs : I s) :
    s' (es.foldl (fun s e => step e s) s) = (es.map e').foldl (fun s e => step' e s) (s' s) ∧
      (outputs step out es s).map (Prod.map e' o') = outputs step' out' (es.map e') (s' s) := by
  induction es generalizing s with
  | nil => exact ⟨rfl, rfl⟩
  | cons e es ih =>
    obtain ⟨he, hes⟩ := List.forall_mem_cons.mp hes
    obtain ⟨hstate, houtputs⟩ := ih hes (hkeeps e s he hs)
    rw [hstep e s he hs] at hstate houtputs
    refine ⟨hstate, ?_⟩
    simp only [outputs, List.map_cons, houtputs, Prod.map_apply, hout e s he hs]

/-- Steps that satisfy `P` have an owner each: from states that satisfy `I`, a step does and puts
out what it would if there were only what its owner sees, and the others see no difference. -/
structure Local (owner : E → ι) (P : E → Prop) (I : S → Prop) (step : E → S → S) (out : E → S → O)
    (view : ι → S → S) : Prop where
  keeps : ∀ e s, P e → I s → I (step e s)
  own : ∀ e s, P e → I s → view (owner e) (step e s) = step e (view (owner e) s)
  other : ∀ e s i, P e → I s → owner e ≠ i → view i (step e s) = view i s
  out_eq : ∀ e s, P e → I s → out e s = out e (view (owner e) s)

namespace Local

variable {owner : E → ι} {P : E → Prop} {I : S → Prop} {step : E → S → S} {out : E → S → O}
  {view : ι → S → S} {es es' : List E} {s : S}

/-- What an owner sees after a run is what its own steps make of what it saw. -/
lemma view_run (h : Local owner P I step out view) (hes : ∀ e ∈ es, P e) (hs : I s) (i : ι) :
    view i (es.foldl (fun s e => step e s) s) =
      (es.filter (owner · = i)).foldl (fun s e => step e s) (view i s) := by
  induction es generalizing s with
  | nil => rfl
  | cons e es ih =>
    obtain ⟨he, hes⟩ := List.forall_mem_cons.mp hes
    have hview := ih hes (h.keeps e s he hs)
    by_cases hi : owner e = i
    · subst hi
      rw [h.own e s he hs] at hview
      simpa [List.filter_cons] using hview
    · rw [h.other e s i he hs hi] at hview
      simpa [List.filter_cons, hi] using hview

/-- The same for what its steps put out. -/
lemma outputs_run (h : Local owner P I step out view) (hes : ∀ e ∈ es, P e) (hs : I s) (i : ι) :
    (outputs step out es s).filter (fun r => owner r.1 = i) =
      outputs step out (es.filter (owner · = i)) (view i s) := by
  induction es generalizing s with
  | nil => rfl
  | cons e es ih =>
    obtain ⟨he, hes⟩ := List.forall_mem_cons.mp hes
    have hrest := ih hes (h.keeps e s he hs)
    by_cases hi : owner e = i
    · subst hi
      rw [h.own e s he hs] at hrest
      simp [outputs, hrest, ← h.out_eq e s he hs]
    · rw [h.other e s i he hs hi] at hrest
      simp [outputs, hi, hrest]

/-- Two interleavings of the steps of every owner leave what it sees alike. -/
lemma view_run_eq (h : Local owner P I step out view) (hes : ∀ e ∈ es, P e)
    (hes' : ∀ e ∈ es', P e) (hs : I s)
    (heq : ∀ i, es.filter (owner · = i) = es'.filter (owner · = i)) (i : ι) :
    view i (es.foldl (fun s e => step e s) s) = view i (es'.foldl (fun s e => step e s) s) := by
  rw [h.view_run hes hs, h.view_run hes' hs, heq]

lemma outputs_eq (h : Local owner P I step out view) (hes : ∀ e ∈ es, P e)
    (hes' : ∀ e ∈ es', P e) (hs : I s)
    (heq : ∀ i, es.filter (owner · = i) = es'.filter (owner · = i)) (i : ι) :
    (outputs step out es s).filter (fun r => owner r.1 = i) =
      (outputs step out es' s).filter (fun r => owner r.1 = i) := by
  rw [h.outputs_run hes hs, h.outputs_run hes' hs, heq]

end Local

end Runs

end Transaction

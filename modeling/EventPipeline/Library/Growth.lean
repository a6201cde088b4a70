import EventPipeline.Library.Collect
import EventPipeline.Library.Table

/-!
# Tables that grow

A table never loses a row: what it holds later begins with what each of its rows has become,
and rows added follow. A selection by something no row changes grows with the table.
-/

namespace Transaction

variable {ε α β α' β' γ : Type}

/-- `ys` begins with rows related to those of `xs`, in the same order. -/
inductive Grows (R : α → β → Prop) : List α → List β → Prop
  | nil (ys : List β) : Grows R [] ys
  | cons {x : α} {y : β} {xs : List α} {ys : List β} (h : R x y) (hs : Grows R xs ys) :
      Grows R (x :: xs) (y :: ys)

namespace Grows

section Same

variable {R : α → α → Prop} {xs ys zs : List α}

lemma refl (hR : ∀ a, R a a) (xs : List α) : Grows R xs xs := by
  induction xs with
  | nil => exact .nil _
  | cons x xs ih => exact .cons (hR x) ih

lemma append (hR : ∀ a, R a a) (xs new : List α) : Grows R xs (xs ++ new) := by
  induction xs with
  | nil => exact .nil _
  | cons x xs ih => exact .cons (hR x) ih

lemma map_self {f : α → α} (h : ∀ a ∈ xs, R a (f a)) : Grows R xs (xs.map f) := by
  induction xs with
  | nil => exact .nil _
  | cons x xs ih =>
    obtain ⟨hx, hxs⟩ := List.forall_mem_cons.mp h
    exact .cons hx (ih hxs)

lemma trans (hR : ∀ a b c, R a b → R b c → R a c) (h : Grows R xs ys) (h' : Grows R ys zs) :
    Grows R xs zs := by
  induction h generalizing zs with
  | nil => exact .nil _
  | cons hxy _ ih =>
    cases h' with
    | cons hyz hs => exact .cons (hR _ _ _ hxy hyz) (ih hs)

/-- Updates that leave every row related to what it was. -/
lemma updateByIds {κ : Type} [DecidableEq κ] {key : α → κ} {f : α → α} {ids : List κ}
    (hR : ∀ a, R a a) (h : ∀ a ∈ xs, key a ∈ ids → R a (f a)) :
    Grows R xs (updateByIds key ids f xs) := by
  refine map_self fun a ha => ?_
  split_ifs with hid
  · exact h a ha hid
  · exact hR a

end Same

variable {R : α → β → Prop} {xs : List α} {ys : List β}

lemma mono {Q : α → β → Prop} (h : Grows R xs ys) (hQ : ∀ a b, R a b → Q a b) :
    Grows Q xs ys := by
  induction h with
  | nil => exact .nil _
  | cons hxy _ ih => exact .cons (hQ _ _ hxy) ih

/-- Looking at the rows of both. -/
lemma map {Q : α' → β' → Prop} {f : α → α'} {g : β → β'}
    (h : Grows R xs ys) (hQ : ∀ a ∈ xs, ∀ b, R a b → Q (f a) (g b)) :
    Grows Q (xs.map f) (ys.map g) := by
  induction h with
  | nil => exact .nil _
  | cons hxy _ ih =>
    obtain ⟨hx, hxs⟩ := List.forall_mem_cons.mp hQ
    exact .cons (hx _ hxy) (ih hxs)

lemma exists_of_mem (h : Grows R xs ys) {a : α} (ha : a ∈ xs) : ∃ b ∈ ys, R a b := by
  induction h with
  | nil => cases ha
  | @cons x y _ _ hxy _ ih =>
    rcases List.mem_cons.mp ha with rfl | ha
    · exact ⟨y, List.mem_cons_self, hxy⟩
    · obtain ⟨b, hb, hab⟩ := ih ha
      exact ⟨b, List.mem_cons_of_mem _ hb, hab⟩

lemma filter {p : α → Bool} {q : β → Bool} (h : Grows R xs ys)
    (hpq : ∀ a b, R a b → p a = q b) : Grows R (xs.filter p) (ys.filter q) := by
  induction h with
  | nil => exact .nil _
  | @cons x y xs ys hxy _ ih =>
    rw [List.filter_cons, List.filter_cons, hpq x y hxy]
    split_ifs
    · exact .cons hxy ih
    · exact ih

lemma head? (h : Grows R xs ys) {a : α} (ha : xs.head? = some a) :
    ∃ b, ys.head? = some b ∧ R a b := by
  cases h with
  | nil => cases ha
  | @cons x y _ _ hxy _ =>
    cases ha
    exact ⟨y, rfl, hxy⟩

lemma find? {p : α → Bool} {q : β → Bool} (h : Grows R xs ys)
    (hpq : ∀ a b, R a b → p a = q b) {a : α} (ha : xs.find? p = some a) :
    ∃ b, ys.find? q = some b ∧ R a b := by
  rw [← List.head?_filter] at ha
  obtain ⟨b, hb, hab⟩ := (h.filter hpq).head? ha
  rw [List.head?_filter] at hb
  exact ⟨b, hb, hab⟩

/-- A row found by its key is found by it later. -/
lemma lookupBy {key : α → ℕ} {key' : β → ℕ} {g : α → γ} {g' : β → γ} (h : Grows R xs ys)
    (hR : ∀ a b, R a b → key' b = key a ∧ g' b = g a) {id : ℕ} {c : γ}
    (hc : Transaction.lookupBy key g xs id = some c) :
    Transaction.lookupBy key' g' ys id = some c := by
  obtain ⟨a, ha, rfl⟩ := Option.map_eq_some_iff.mp hc
  obtain ⟨b, hb, hab⟩ := h.find? (q := fun b => key' b = id)
    (fun a b hab => by rw [(hR a b hab).1]) ha
  simp only [Transaction.lookupBy, hb, Option.map_some, (hR a b hab).2]

/-- A condition evaluated on every row later is evaluated on every row now. -/
lemma selectRows {p : α → Except ε Bool} {q : β → Except ε Bool} (h : Grows R xs ys)
    (hpq : ∀ a b, R a b → p a = q b) {rows : List β} (hrows : selectRows q ys = .ok rows) :
    Transaction.selectRows p xs = .ok (xs.filter fun a => holds (p a)) ∧
      Grows R (xs.filter fun a => holds (p a)) rows := by
  obtain ⟨hall, rfl⟩ := selectRows_eq_ok.mp hrows
  refine ⟨selectRows_eq_ok.mpr ⟨fun a ha => ?_, rfl⟩, h.filter fun a b hab => ?_⟩
  · obtain ⟨b, hb, hab⟩ := h.exists_of_mem ha
    rw [hpq a b hab]
    exact hall b hb
  · rw [hpq a b hab]

end Grows

end Transaction

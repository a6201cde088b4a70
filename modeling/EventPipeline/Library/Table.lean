import Mathlib.Data.List.Pairwise
import Mathlib.Data.Nat.Notation
import Mathlib.Tactic.Common

/-!
# Tables

A table is the list of its rows, in the order of an increasing primary key. The lemmas are
about the two ways a table changes, a row appended under a key not given out before and rows
updated in place, and about references from one table to another.
-/

namespace Transaction

variable {α β κ : Type}

/-! ### Updates -/

section Update

variable [DecidableEq κ]

/-- `rows` with `f` applied to the row whose primary key is `id`. -/
def updateById (key : α → κ) (id : κ) (f : α → α) (rows : List α) : List α :=
  rows.map fun a => if key a = id then f a else a

/-- `rows` with `f` applied to the rows whose primary key is in `ids`. -/
def updateByIds (key : α → κ) (ids : List κ) (f : α → α) (rows : List α) : List α :=
  rows.map fun a => if key a ∈ ids then f a else a

variable {key : α → κ} {f : α → α}

@[simp] lemma updateByIds_nil (rows : List α) : updateByIds key [] f rows = rows := by
  simp [updateByIds]

/-- Updating one row more, for an update that keeps the primary key and does nothing the
second time. -/
lemma updateByIds_cons (hkey : ∀ a, key (f a) = key a) (hf : ∀ a, f (f a) = f a) (id : κ)
    (ids : List κ) (rows : List α) :
    updateByIds key ids f (updateById key id f rows) = updateByIds key (id :: ids) f rows := by
  simp only [updateByIds, updateById, List.map_map]
  refine List.map_congr_left fun a _ => ?_
  by_cases ha : key a = id
  · by_cases hm : id ∈ ids <;> simp [ha, hkey, hf, hm]
  · simp [ha]

lemma updateById_eq (id : κ) (rows : List α) :
    updateById key id f rows = updateByIds key [id] f rows := by
  simp [updateById, updateByIds]

/-- A column no update changes. -/
lemma map_updateByIds {γ : Type} {g : α → γ} (hg : ∀ a, g (f a) = g a) (ids : List κ)
    (rows : List α) : (updateByIds key ids f rows).map g = rows.map g := by
  simp only [updateByIds, List.map_map]
  refine List.map_congr_left fun a _ => ?_
  by_cases ha : key a ∈ ids <;> simp [ha, hg]

lemma mem_updateByIds {ids : List κ} {rows : List α} {b : α} :
    b ∈ updateByIds key ids f rows ↔
      ∃ a ∈ rows, (key a ∈ ids ∧ b = f a) ∨ (key a ∉ ids ∧ b = a) := by
  simp only [updateByIds, List.mem_map]
  refine exists_congr fun a => and_congr_right fun _ => ?_
  by_cases ha : key a ∈ ids <;> simp [ha, eq_comm]

/-- A relation between the rows that the update keeps. -/
lemma pairwise_updateByIds {R : α → α → Prop} {ids : List κ} {rows : List α}
    (hR : ∀ a b, R a b → R (f a) b ∧ R a (f b) ∧ R (f a) (f b)) (h : rows.Pairwise R) :
    (updateByIds key ids f rows).Pairwise R := by
  refine List.pairwise_map.mpr (h.imp fun {a b} hab => ?_)
  split_ifs
  · exact (hR a b hab).2.2
  · exact (hR a b hab).1
  · exact (hR a b hab).2.1
  · exact hab

end Update

/-- Selecting rows by their keys, where rows with one key are selected alike. -/
lemma mem_keys_filter (key : α → κ) (p : α → Bool) {rows : List α}
    (hkey : ∀ a ∈ rows, ∀ b ∈ rows, key a = key b → p a = p b) {a : α} (ha : a ∈ rows) :
    key a ∈ (rows.filter p).map key ↔ p a = true := by
  simp only [List.mem_map, List.mem_filter]
  constructor
  · rintro ⟨b, ⟨hb, hp⟩, heq⟩
    rw [← hkey b hb a ha heq]
    exact hp
  · intro hp
    exact ⟨a, ⟨ha, hp⟩, rfl⟩

/-- Updating the rows a condition selects. -/
lemma updateByIds_filter [DecidableEq κ] (key : α → κ) (p : α → Bool) (f : α → α)
    {rows : List α} (hkey : ∀ a ∈ rows, ∀ b ∈ rows, key a = key b → p a = p b) :
    updateByIds key ((rows.filter p).map key) f rows = rows.map fun a => if p a then f a else a := by
  refine List.map_congr_left fun a ha => ?_
  simp only [mem_keys_filter key p hkey ha]

/-- Updating rows and looking at them, or looking at them and updating what is seen. -/
lemma map_update (g : α → β) (p : α → Bool) (q : β → Bool) (f : α → α) (f' : β → β)
    (hp : ∀ a, p a = q (g a)) (hf : ∀ a, g (f a) = f' (g a)) (rows : List α) :
    (rows.map fun a => if p a then f a else a).map g =
      (rows.map g).map fun b => if q b then f' b else b := by
  rw [List.map_map, List.map_map]
  refine List.map_congr_left fun a _ => ?_
  simp only [Function.comp, hp]
  split_ifs
  · exact hf a
  · rfl

/-- The rows a condition picks survive an update exactly when it leaves those of them it is
about as they are. -/
lemma filter_update_eq_iff {f : α → α} {p own : α → Bool} (hown : ∀ a, own (f a) = own a)
    (rows : List α) :
    ((rows.map fun a => if p a then f a else a).filter own = rows.filter own) ↔
      ∀ a ∈ rows, own a = true → p a = true → f a = a := by
  induction rows with
  | nil => simp
  | cons a rows ih =>
    by_cases ha : own a = true
    · by_cases hp : p a = true
      · simp [hown, ha, hp, ih]
      · simp [ha, hp, ih]
    · by_cases hp : p a = true
      · simp [hown, ha, hp, ih]
      · simp [ha, hp, ih]

/-! ### Primary keys -/

/-- The keys of the rows increase, and `next` is above them. -/
structure Keyed (key : α → ℕ) (next : ℕ) (rows : List α) : Prop where
  increasing : rows.Pairwise fun a b => key a < key b
  lt_next : ∀ a ∈ rows, key a < next

namespace Keyed

variable {key : α → ℕ} {next : ℕ} {rows : List α}

lemma nil : Keyed key next [] :=
  ⟨.nil, by simp⟩

lemma append {row : α} (h : Keyed key next rows) (hrow : next ≤ key row) :
    Keyed key (key row + 1) (rows ++ [row]) := by
  constructor
  · refine List.pairwise_append.mpr ⟨h.increasing, List.pairwise_singleton _ _, ?_⟩
    intro a ha b hb
    rw [List.mem_singleton.mp hb]
    exact Nat.lt_of_lt_of_le (h.lt_next a ha) hrow
  · intro a ha
    rcases List.mem_append.mp ha with ha | ha
    · have := h.lt_next a ha
      omega
    · rw [List.mem_singleton.mp ha]
      exact Nat.lt_succ_self _

lemma updateByIds [DecidableEq κ] {id : α → κ} {f : α → α} {ids : List κ}
    (hf : ∀ a, key (f a) = key a) (h : Keyed key next rows) :
    Keyed key next (Transaction.updateByIds id ids f rows) := by
  constructor
  · refine pairwise_updateByIds (fun a b hlt => ?_) h.increasing
    simp only [hf]
    exact ⟨hlt, hlt, hlt⟩
  · intro b hb
    obtain ⟨a, ha, ⟨-, rfl⟩ | ⟨-, rfl⟩⟩ := mem_updateByIds.mp hb
    · rw [hf]
      exact h.lt_next a ha
    · exact h.lt_next b ha

lemma eq_of_key_eq (h : Keyed key next rows) {a b : α} (ha : a ∈ rows) (hb : b ∈ rows)
    (heq : key a = key b) : a = b := by
  have : Std.Symm fun a b => key a ≠ key b := ⟨fun a b h => h.symm⟩
  by_contra hne
  exact (h.increasing.imp Nat.ne_of_lt).forall ha hb hne heq

/-- One row is under the key of a row. -/
lemma filter_key_eq (h : Keyed key next rows) {b : α} (hb : b ∈ rows) :
    (rows.filter fun a => key a = key b) = [b] := by
  have hfilter : (rows.filter fun a => key a = key b).Pairwise fun a b => key a < key b :=
    h.increasing.filter _
  have hmem : b ∈ rows.filter fun a => key a = key b := by simp [hb]
  obtain ⟨c, cs, heq⟩ := List.exists_cons_of_ne_nil (List.ne_nil_of_mem hmem)
  have hall : ∀ a ∈ c :: cs, a = b := fun a ha => by
    obtain ⟨har, hkey⟩ := List.mem_filter.mp (heq ▸ ha)
    exact h.eq_of_key_eq har hb (by simpa using hkey)
  rw [heq] at hfilter ⊢
  cases cs with
  | nil => rw [hall c (by simp)]
  | cons d ds =>
    have hlt := (List.pairwise_cons.mp hfilter).1 d List.mem_cons_self
    rw [hall c (by simp), hall d (by simp)] at hlt
    exact absurd hlt (Nat.lt_irrefl _)

/-- A row whose key is not below `next` is not in the table. -/
lemma key_ne {row : α} (h : Keyed key next rows) (hrow : next ≤ key row) {a : α} (ha : a ∈ rows) :
    key a ≠ key row :=
  Nat.ne_of_lt (Nat.lt_of_lt_of_le (h.lt_next a ha) hrow)

end Keyed

/-! ### References -/

/-- Every row refers to a row of the other table. -/
def References (ref : α → κ) (rows : List α) (key : β → κ) (parents : List β) : Prop :=
  ∀ a ∈ rows, ∃ b ∈ parents, key b = ref a

namespace References

variable {ref : α → κ} {rows : List α} {key : β → κ} {parents : List β}

lemma nil : References ref [] key parents := by
  simp [References]

lemma singleton {a : α} (h : ∃ b ∈ parents, key b = ref a) : References ref [a] key parents := by
  intro a' ha'
  rw [List.mem_singleton.mp ha']
  exact h

lemma append {new : List α} (h : References ref rows key parents)
    (hnew : References ref new key parents) : References ref (rows ++ new) key parents := by
  intro a ha
  rcases List.mem_append.mp ha with ha | ha
  · exact h a ha
  · exact hnew a ha

lemma append_parents (h : References ref rows key parents) (new : List β) :
    References ref rows key (parents ++ new) := by
  intro a ha
  obtain ⟨b, hb, heq⟩ := h a ha
  exact ⟨b, List.mem_append_left _ hb, heq⟩

lemma updateByIds {ι : Type} [DecidableEq ι] {id : α → ι} {f : α → α} {ids : List ι}
    (hf : ∀ a, ref (f a) = ref a) (h : References ref rows key parents) :
    References ref (Transaction.updateByIds id ids f rows) key parents := by
  intro b hb
  obtain ⟨a, ha, ⟨-, rfl⟩ | ⟨-, rfl⟩⟩ := mem_updateByIds.mp hb
  · rw [hf]
    exact h a ha
  · exact h b ha

lemma updateByIds_parents {ι : Type} [DecidableEq ι] {id : β → ι} {f : β → β} {ids : List ι}
    (hf : ∀ b, key (f b) = key b) (h : References ref rows key parents) :
    References ref rows key (Transaction.updateByIds id ids f parents) := by
  intro a ha
  obtain ⟨b, hb, heq⟩ := h a ha
  by_cases hmem : id b ∈ ids
  · exact ⟨f b, mem_updateByIds.mpr ⟨b, hb, .inl ⟨hmem, rfl⟩⟩, (hf b).trans heq⟩
  · exact ⟨b, mem_updateByIds.mpr ⟨b, hb, .inr ⟨hmem, rfl⟩⟩, heq⟩

end References

/-! ### Lookups -/

/-- The only row that satisfies a condition is the one that is found. -/
lemma find?_eq_of_unique {p : β → Bool} {rows : List β} {b : β} (hb : b ∈ rows) (hp : p b = true)
    (h : ∀ a ∈ rows, p a = true → a = b) : rows.find? p = some b := by
  obtain ⟨c, hc⟩ := Option.isSome_iff_exists.mp (List.find?_isSome.mpr ⟨b, hb, hp⟩)
  rw [hc, h c (List.mem_of_find?_eq_some hc) (List.find?_some hc)]

/-- A column of the row under a key. -/
def lookupBy {γ : Type} [DecidableEq κ] (key : β → κ) (g : β → γ) (rows : List β) (id : κ) :
    Option γ :=
  (rows.find? fun b => key b = id).map g

section Lookup

variable {γ δ : Type} {key : β → ℕ} {g : β → γ} {rows : List β} {id : ℕ}

lemma lookupBy_eq_some {c : γ} (h : lookupBy key g rows id = some c) :
    ∃ b ∈ rows, key b = id ∧ g b = c := by
  obtain ⟨b, hb, hc⟩ := Option.map_eq_some_iff.mp h
  have hid := List.find?_some hb
  exact ⟨b, List.mem_of_find?_eq_some hb, by simpa using hid, hc⟩

lemma lookupBy_append (hid : ∃ b ∈ rows, key b = id) (new : List β) :
    lookupBy key g (rows ++ new) id = lookupBy key g rows id := by
  obtain ⟨b, hb, hkey⟩ := hid
  have hsome : (rows.find? fun b => key b = id).isSome = true :=
    List.find?_isSome.mpr ⟨b, hb, by simpa using hkey⟩
  obtain ⟨c, hc⟩ := Option.isSome_iff_exists.mp hsome
  simp only [lookupBy, List.find?_append, hc, Option.some_or]

lemma lookupBy_append_self {row : β} (hrow : ∀ b ∈ rows, key b ≠ key row) :
    lookupBy key g (rows ++ [row]) (key row) = some (g row) := by
  have hnone : (rows.find? fun b => key b = key row) = none := by
    simpa [List.find?_eq_none] using hrow
  simp [lookupBy, List.find?_append, hnone]

lemma lookupBy_of_mem {next : ℕ} (h : Keyed key next rows) {b : β} (hb : b ∈ rows) :
    lookupBy key g rows (key b) = some (g b) := by
  have hfind : (rows.find? fun c => key c = key b) = some b :=
    find?_eq_of_unique hb (by simp) fun c hc hkey => h.eq_of_key_eq hc hb (by simpa using hkey)
  simp only [lookupBy, hfind, Option.map_some]

/-- Updates that keep the key and the column. -/
lemma lookupBy_map {f : β → β} (hkey : ∀ b, key (f b) = key b) (hg : ∀ b, g (f b) = g b) :
    lookupBy key g (rows.map f) id = lookupBy key g rows id := by
  simp only [lookupBy, List.find?_map, Function.comp_def, hkey, Option.map_map, hg]

/-- References do not notice rows added to the table they refer to. -/
lemma References.map_lookupBy_append {ref : α → ℕ} {as : List α}
    (h : References ref as key rows) (f : α → Option γ → δ) (new : List β) :
    (as.map fun a => f a (lookupBy key g (rows ++ new) (ref a))) =
      as.map fun a => f a (lookupBy key g rows (ref a)) := by
  refine List.map_congr_left fun a ha => ?_
  rw [lookupBy_append (h a ha)]

end Lookup

end Transaction

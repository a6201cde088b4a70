import EventPipeline.Library.Table
import Mathlib.Data.List.Chain

/-!
# Tables of versions

A table that keeps every version of a thing: the latest version of each thing is open, the
earlier ones are closed, and each is in a relation `R` to the next one. A version is added
either as the first of its thing, or next to the open one, which is closed. Where `R` says that
the period of a version begins where the one before ends, the periods cover every instant once
(`VersionTable.exists_unique_covers`).
-/

namespace Transaction

variable {α γ : Type} {isOpen : α → Bool} {R : α → α → Prop} {vs init : List α} {v : α}

/-- The versions of one thing, oldest first. -/
structure Versioned (isOpen : α → Bool) (R : α → α → Prop) (vs : List α) : Prop where
  last : ∀ init v, vs = init ++ [v] → isOpen v = true ∧ ∀ a ∈ init, isOpen a = false
  chain : vs.IsChain R

namespace Versioned

lemma nil : Versioned isOpen R [] :=
  ⟨by simp, .nil⟩

lemma singleton (hv : isOpen v = true) : Versioned isOpen R [v] := by
  refine ⟨fun init w h => ?_, .singleton v⟩
  obtain ⟨rfl, rfl⟩ : init = [] ∧ w = v := by
    rw [List.singleton_eq_append_iff] at h
    simpa using h
  exact ⟨hv, by simp⟩

lemma append_singleton (h : Versioned isOpen R (init ++ [v])) {v' w : α}
    (hclosed : isOpen v' = false) (hw : isOpen w = true) (hR : ∀ a, R a v → R a v')
    (hvw : R v' w) : Versioned isOpen R (init ++ [v'] ++ [w]) := by
  obtain ⟨-, hinit⟩ := h.last init v rfl
  constructor
  · intro init' w' heq
    obtain ⟨rfl, hw'⟩ := List.append_inj' heq rfl
    cases hw'
    refine ⟨hw, fun a ha => ?_⟩
    rcases List.mem_append.mp ha with ha | ha
    · exact hinit a ha
    · rw [List.mem_singleton.mp ha]
      exact hclosed
  · have hchain := List.isChain_append.mp h.chain
    refine List.isChain_append.mpr ⟨List.isChain_append.mpr ⟨hchain.1, .singleton v', ?_⟩,
      .singleton w, ?_⟩
    · intro a ha b hb
      cases hb
      exact hR a (hchain.2.2 a ha v rfl)
    · intro a ha b hb
      rw [List.getLast?_concat] at ha
      cases ha
      cases hb
      exact hvw

/-- An open version is the last one. -/
lemma eq_append_of_open (h : Versioned isOpen R vs) (hv : v ∈ vs) (hopen : isOpen v = true) :
    ∃ init, vs = init ++ [v] := by
  obtain ⟨init, w, rfl⟩ := (List.eq_nil_or_concat' vs).resolve_left (List.ne_nil_of_mem hv)
  rcases List.mem_append.mp hv with hmem | hmem
  · rw [(h.last init w rfl).2 v hmem] at hopen
    cases hopen
  · rw [List.mem_singleton.mp hmem]
    exact ⟨init, rfl⟩

/-- Something that has versions has an open one, which is the last. -/
lemma exists_open (h : Versioned isOpen R vs) (hv : v ∈ vs) :
    ∃ init w, vs = init ++ [w] ∧ isOpen w = true ∧ ∀ a ∈ init, isOpen a = false := by
  obtain ⟨init, w, rfl⟩ := (List.eq_nil_or_concat' vs).resolve_left (List.ne_nil_of_mem hv)
  exact ⟨init, w, rfl, h.last init w rfl⟩

end Versioned

section Periods

variable {start : α → ℕ} {stop : α → Option ℕ} {x y : α} {xs : List α} {i : ℕ}

/-- The instant is in the period of the version, which has no end while the version is open. -/
def Covers (start : α → ℕ) (stop : α → Option ℕ) (a : α) (i : ℕ) : Prop :=
  start a ≤ i ∧ ∀ e, stop a = some e → i < e

/-- The period of `b` begins where the one of `a` ends. -/
def Meets (start : α → ℕ) (stop : α → Option ℕ) (a b : α) : Prop :=
  stop a = some (start b) ∧ start a ≤ start b

lemma start_le_of_isChain (h : (x :: xs).IsChain (Meets start stop)) (hy : y ∈ x :: xs) :
    start x ≤ start y := by
  induction xs generalizing x with
  | nil =>
    rw [List.mem_singleton.mp hy]
  | cons z zs ih =>
    obtain ⟨hxz, htail⟩ := List.isChain_cons_cons.mp h
    rcases List.mem_cons.mp hy with rfl | hy
    · exact Nat.le_refl _
    · exact hxz.2.trans (ih htail hy)

/-- Periods that meet, the last of them without an end, cover every instant once. -/
lemma exists_unique_covers (h : (x :: xs).IsChain (Meets start stop))
    (hlast : ∀ init v, x :: xs = init ++ [v] → stop v = none) (hi : start x ≤ i) :
    ∃ w ∈ x :: xs, Covers start stop w i ∧ ∀ v ∈ x :: xs, Covers start stop v i → v = w := by
  induction xs generalizing x with
  | nil =>
    have hstop := hlast [] x rfl
    exact ⟨x, by simp, ⟨hi, by simp [hstop]⟩, fun v hv _ => List.mem_singleton.mp hv⟩
  | cons y ys ih =>
    obtain ⟨hxy, htail⟩ := List.isChain_cons_cons.mp h
    by_cases hyi : start y ≤ i
    · obtain ⟨w, hw, hcovers, hunique⟩ := ih htail
        (fun init v heq => hlast (x :: init) v (congrArg (x :: ·) heq)) hyi
      refine ⟨w, List.mem_cons_of_mem _ hw, hcovers, fun v hv hvi => ?_⟩
      rcases List.mem_cons.mp hv with rfl | hv
      · exact absurd (hvi.2 _ hxy.1) (Nat.not_lt.mpr hyi)
      · exact hunique v hv hvi
    · refine ⟨x, List.mem_cons_self, ⟨hi, fun e he => ?_⟩, fun v hv hvi => ?_⟩
      · rw [hxy.1] at he
        cases he
        exact Nat.lt_of_not_le hyi
      · rcases List.mem_cons.mp hv with rfl | hv
        · rfl
        · exact absurd ((start_le_of_isChain htail hv).trans hvi.1) hyi

/-- The same of the versions of one thing. -/
lemma Versioned.exists_unique_covers (h : Versioned isOpen (Meets start stop) vs)
    (hstop : ∀ a ∈ vs, isOpen a = true → stop a = none) (hv : v ∈ vs) (hi : start v ≤ i) :
    ∃ w ∈ vs, Covers start stop w i ∧ ∀ a ∈ vs, Covers start stop a i → a = w := by
  cases vs with
  | nil => cases hv
  | cons x xs =>
    refine Transaction.exists_unique_covers h.chain (fun init w heq => ?_)
      ((start_le_of_isChain h.chain hv).trans hi)
    exact hstop w (heq ▸ List.mem_append_right init List.mem_cons_self) (h.last init w heq).1

end Periods

section Grouped

variable [DecidableEq γ] {group : α → γ} {rows : List α} {row : α}

/-- Every thing in the table has an open version, the last, and closed ones before it. -/
def VersionTable (isOpen : α → Bool) (R : α → α → Prop) (group : α → γ) (rows : List α) : Prop :=
  ∀ g, Versioned isOpen R (rows.filter fun a => group a = g)

namespace VersionTable

lemma nil : VersionTable isOpen R group [] :=
  fun _ => .nil

/-- The first version of a thing that has no open one. -/
lemma append (h : VersionTable isOpen R group rows) (hrow : isOpen row = true)
    (hnone : ∀ a ∈ rows, group a = group row → isOpen a = false) :
    VersionTable isOpen R group (rows ++ [row]) := by
  intro g
  rw [List.filter_append]
  by_cases hg : group row = g
  · have hempty : (rows.filter fun a => group a = g) = [] := by
      refine List.eq_nil_iff_forall_not_mem.mpr fun a ha => ?_
      obtain ⟨init, w, heq, hw, -⟩ := (h g).exists_open ha
      have hmem : w ∈ rows.filter fun a => group a = g := by simp [heq]
      obtain ⟨hwr, hwg⟩ := List.mem_filter.mp hmem
      rw [hnone w hwr (by simpa [hg] using hwg)] at hw
      cases hw
    rw [hempty, List.filter_cons_of_pos (by simpa using hg)]
    exact .singleton hrow
  · rw [List.filter_cons_of_neg (by simpa using hg), List.filter_nil, List.append_nil]
    exact h g

/-- A further version of a thing, the open one being closed. -/
lemma replace {key : α → ℕ} {f : α → α} {cur : α} (h : VersionTable isOpen R group rows)
    (hkey : rows.Pairwise fun a b => key a < key b) (hcur : cur ∈ rows)
    (hopen : isOpen cur = true) (hgroup : ∀ a, group (f a) = group a)
    (hclosed : isOpen (f cur) = false) (hR : ∀ a, R a cur → R a (f cur)) (hnext : R (f cur) row)
    (hrow : group row = group cur) (hrow_open : isOpen row = true) :
    VersionTable isOpen R group (updateById key (key cur) f rows ++ [row]) := by
  have hne : ∀ a ∈ rows, a ≠ cur → key a ≠ key cur := by
    have : Std.Symm fun a b => key a ≠ key b := ⟨fun a b h => h.symm⟩
    exact fun a ha => (hkey.imp Nat.ne_of_lt).forall ha hcur
  intro g
  have hmap : ((updateById key (key cur) f rows).filter fun a => group a = g) =
      (rows.filter fun a => group a = g).map fun a => if key a = key cur then f a else a := by
    rw [updateById, List.filter_map]
    refine congrArg _ (List.filter_congr fun a _ => ?_)
    simp only [Function.comp]
    split_ifs
    · rw [hgroup]
    · rfl
  rw [List.filter_append, hmap]
  by_cases hg : group cur = g
  · have hmem : cur ∈ rows.filter fun a => group a = g := by simp [hcur, hg]
    obtain ⟨init, heq⟩ := (h g).eq_append_of_open hmem hopen
    have hv := h g
    have hinit : (init.map fun a => if key a = key cur then f a else a) = init := by
      refine (List.map_congr_left fun a ha => ?_).trans (List.map_id init)
      have har : a ∈ rows := (List.mem_filter.mp (heq ▸ List.mem_append_left [cur] ha)).1
      refine if_neg (hne a har ?_)
      rintro rfl
      rw [((h g).last init a heq).2 a ha] at hopen
      cases hopen
    rw [heq] at hv
    rw [heq, List.map_append, hinit, List.map_singleton, if_pos rfl,
      List.filter_cons_of_pos (by simpa [hrow] using hg)]
    exact hv.append_singleton hclosed hrow_open hR hnext
  · rw [List.filter_cons_of_neg (by simpa [hrow] using hg), List.filter_nil, List.append_nil]
    have hid : ((rows.filter fun a => group a = g).map fun a =>
        if key a = key cur then f a else a) = rows.filter fun a => group a = g := by
      refine (List.map_congr_left fun a ha => ?_).trans (List.map_id _)
      obtain ⟨har, hag⟩ := List.mem_filter.mp ha
      refine if_neg (hne a har ?_)
      rintro rfl
      exact hg (by simpa using hag)
    rw [hid]
    exact h g

/-- Of a thing with versions one is open, and it has the largest key. -/
lemma exists_open {key : α → ℕ} (h : VersionTable isOpen R group rows)
    (hkey : rows.Pairwise fun a b => key a < key b) {a : α} (ha : a ∈ rows) :
    ∃ c ∈ rows, group c = group a ∧ ∀ b ∈ rows, group b = group a →
      key b ≤ key c ∧ (isOpen b = true ↔ b = c) := by
  obtain ⟨init, c, heq, hopen, hclosed⟩ := (h (group a)).exists_open
    (List.mem_filter.mpr ⟨ha, by simp⟩)
  obtain ⟨hc, hgc⟩ := List.mem_filter.mp
    (show c ∈ rows.filter fun b => group b = group a by simp [heq])
  refine ⟨c, hc, by simpa using hgc, fun b hb hgroup => ?_⟩
  have hsorted := hkey.filter fun b => group b = group a
  have hmem : b ∈ init ++ [c] := heq ▸ List.mem_filter.mpr ⟨hb, by simpa using hgroup⟩
  rw [heq] at hsorted
  rcases List.mem_append.mp hmem with hinit | hlast
  · have hlt := (List.pairwise_append.mp hsorted).2.2 b hinit c List.mem_cons_self
    refine ⟨Nat.le_of_lt hlt, ?_⟩
    rw [hclosed b hinit]
    constructor
    · intro hfalse
      cases hfalse
    · rintro rfl
      exact absurd hlt (Nat.lt_irrefl _)
  · obtain rfl := List.mem_singleton.mp hlast
    simp [hopen]

/-- The periods of the versions of a thing cover every instant from the first of them on once. -/
lemma exists_unique_covers {start : α → ℕ} {stop : α → Option ℕ}
    (h : VersionTable isOpen (Meets start stop) group rows)
    (hstop : ∀ a ∈ rows, isOpen a = true → stop a = none) {a : α} (ha : a ∈ rows) {i : ℕ}
    (hi : start a ≤ i) :
    ∃ w ∈ rows, group w = group a ∧ Covers start stop w i ∧
      ∀ b ∈ rows, group b = group a → Covers start stop b i → b = w := by
  obtain ⟨w, hw, hcovers, hunique⟩ := (h (group a)).exists_unique_covers
    (fun b hb => hstop b (List.mem_filter.mp hb).1) (List.mem_filter.mpr ⟨ha, by simp⟩) hi
  obtain ⟨hwr, hwg⟩ := List.mem_filter.mp hw
  exact ⟨w, hwr, by simpa using hwg, hcovers, fun b hb hgroup =>
    hunique b (List.mem_filter.mpr ⟨hb, by simpa using hgroup⟩)⟩

end VersionTable

end Grouped

end Transaction

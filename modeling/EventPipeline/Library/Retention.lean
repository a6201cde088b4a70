import Mathlib.Data.List.Nodup
import Mathlib.Data.List.Perm.Subperm
import Mathlib.Data.List.Sort

/-!
# Retention by age and by number

Of a table that has grown too long, the oldest rows are deleted by their keys: those that come
first when the rows are sorted by a stamp. Rows of one stamp may be sorted in any way. A table that
loses rows in this way, or all rows below a bound, keeps the recent ones (`Recent`), which are the
last of all that were inserted, up to rows of one stamp (`Recent.suffixUpToTies`).
-/

namespace Transaction

variable {α κ τ : Type} [LE τ] {stamp : α → τ}

/-- A sort by `stamp`, of which rows with one stamp are returned in any order. -/
structure Arrangement (stamp : α → τ) where
  order : List α → List α
  perm (rows : List α) : (order rows).Perm rows
  sorted (rows : List α) : (order rows).Pairwise fun a b => stamp a ≤ stamp b

namespace Arrangement

variable (arrangement : Arrangement stamp)

/-- The rows that come first. -/
def top (n : ℕ) (rows : List α) : List α :=
  (arrangement.order rows).take n

variable [DecidableEq κ]

/-- The table without the rows that have the key of one that comes first. -/
def trim (key : α → κ) (n : ℕ) (rows : List α) : List α :=
  rows.filter fun a => key a ∉ (arrangement.top n rows).map key

variable {key : α → κ} {rows : List α}

/-- What is left are the rows that come behind. -/
lemma trim_perm (hkeys : (rows.map key).Nodup) (n : ℕ) :
    (arrangement.trim key n rows).Perm ((arrangement.order rows).drop n) := by
  have hnodup : ((arrangement.order rows).map key).Nodup :=
    ((arrangement.perm rows).map key).nodup_iff.mpr hkeys
  have hsplit : (arrangement.order rows).take n ++ (arrangement.order rows).drop n =
      arrangement.order rows := List.take_append_drop _ _
  rw [← hsplit, List.map_append] at hnodup
  refine ((arrangement.perm rows).filter _).symm.trans (.of_eq ?_)
  rw [← hsplit, List.filter_append, hsplit]
  have hfirst : ((arrangement.order rows).take n).filter
      (fun a => key a ∉ (arrangement.top n rows).map key) = [] := by
    refine List.filter_eq_nil_iff.mpr fun a ha => ?_
    simpa using ⟨a, ha, rfl⟩
  have hrest : ((arrangement.order rows).drop n).filter
      (fun a => key a ∉ (arrangement.top n rows).map key) = (arrangement.order rows).drop n := by
    refine List.filter_eq_self.mpr fun a ha => decide_eq_true fun hmem => ?_
    exact List.disjoint_of_nodup_append hnodup hmem (List.mem_map_of_mem ha)
  rw [hfirst, hrest, List.nil_append]

lemma length_trim (hkeys : (rows.map key).Nodup) (n : ℕ) :
    (arrangement.trim key n rows).length = rows.length - n := by
  rw [(arrangement.trim_perm hkeys n).length_eq, List.length_drop, (arrangement.perm rows).length_eq]

lemma trim_sublist (key : α → κ) (n : ℕ) (rows : List α) :
    List.Sublist (arrangement.trim key n rows) rows :=
  List.filter_sublist

end Arrangement

/-! ### Tables that forget the oldest rows -/

/-- Of the rows that were inserted, those that are gone are no more recent than those of the
table. -/
structure Recent (stamp : α → τ) (inserted rows : List α) : Prop where
  sublist : rows.Sublist inserted
  gone_le : ∀ gone ∈ inserted, gone ∉ rows → ∀ row ∈ rows, stamp gone ≤ stamp row

namespace Recent

variable {inserted rows : List α}

lemma nil : Recent stamp [] [] :=
  ⟨.slnil, fun _ h => absurd h List.not_mem_nil⟩

/-- The row that is inserted is the most recent. -/
lemma concat (h : Recent stamp inserted rows) {row : α}
    (hrow : ∀ earlier ∈ inserted, stamp earlier ≤ stamp row) :
    Recent stamp (inserted ++ [row]) (rows ++ [row]) := by
  refine ⟨h.sublist.append (.refl _), fun gone hgone hnot kept hkept => ?_⟩
  obtain ⟨hnotRows, hne⟩ := not_or.mp fun hmem => hnot (List.mem_append.mpr hmem)
  have hinserted : gone ∈ inserted := (List.mem_append.mp hgone).resolve_right hne
  rcases List.mem_append.mp hkept with hkept | hkept
  · exact h.gone_le gone hinserted hnotRows kept hkept
  · exact List.mem_singleton.mp hkept ▸ hrow gone hinserted

/-- What is deleted now has to be no more recent than what is kept. -/
lemma delete (h : Recent stamp inserted rows) {kept : List α} (hsub : kept.Sublist rows)
    (hle : ∀ gone ∈ rows, gone ∉ kept → ∀ row ∈ kept, stamp gone ≤ stamp row) :
    Recent stamp inserted kept := by
  refine ⟨hsub.trans h.sublist, fun gone hgone hnot row hrow => ?_⟩
  by_cases hmem : gone ∈ rows
  · exact hle gone hmem hnot row hrow
  · exact h.gone_le gone hgone hmem row (hsub.subset hrow)

/-- Rows are deleted for their age. -/
lemma filter (h : Recent stamp inserted rows) {p : α → Bool}
    (hp : ∀ a b, p a = false → p b = true → stamp a ≤ stamp b) :
    Recent stamp inserted (rows.filter p) := by
  refine h.delete List.filter_sublist fun gone hgone hnot row hrow => hp gone row ?_ ?_
  · exact Bool.eq_false_iff.mpr fun htrue => hnot (List.mem_filter.mpr ⟨hgone, htrue⟩)
  · exact (List.mem_filter.mp hrow).2

/-- Rows are deleted for their number. -/
lemma trim [DecidableEq κ] (h : Recent stamp inserted rows) (arrangement : Arrangement stamp)
    {key : α → κ} (hkeys : (rows.map key).Nodup) (n : ℕ) :
    Recent stamp inserted (arrangement.trim key n rows) := by
  have hperm := arrangement.trim_perm hkeys n
  have hsorted := arrangement.sorted rows
  rw [← List.take_append_drop n (arrangement.order rows)] at hsorted
  refine h.delete (arrangement.trim_sublist key n rows) fun gone hgone hnot row hrow => ?_
  refine (List.pairwise_append.mp hsorted).2.2 gone ?_ row (hperm.mem_iff.mp hrow)
  have hmem : gone ∈ arrangement.order rows := (arrangement.perm rows).mem_iff.mpr hgone
  rw [← List.take_append_drop n (arrangement.order rows)] at hmem
  exact (List.mem_append.mp hmem).resolve_right fun hdrop => hnot (hperm.mem_iff.mpr hdrop)

end Recent

/-- As many rows are gone as the table is shorter. -/
lemma length_filter_notMem [DecidableEq α] {rows kept : List α} (hsub : kept.Sublist rows)
    (hnodup : rows.Nodup) : (rows.filter fun row => row ∉ kept).length =
      rows.length - kept.length := by
  have hkept : (rows.filter fun row => row ∈ kept).Perm kept := by
    refine (List.perm_ext_iff_of_nodup (hnodup.filter _) (hnodup.sublist hsub)).mpr fun row => ?_
    simpa using fun h => hsub.subset h
  have hsplit := (List.filter_append_perm (fun row => decide (row ∈ kept)) rows).length_eq
  rw [List.length_append, hkept.length_eq] at hsplit
  simp only [decide_not]
  omega

/-- The table holds the last rows that were inserted: of rows of one stamp it may hold some, all
rows before them are gone, and all behind them are there. -/
def SuffixUpToTies (stamp : α → τ) (rows inserted : List α) : Prop :=
  ∃ older tied newer kept, inserted = older ++ tied ++ newer ∧ rows = kept ++ newer ∧
    kept.Sublist tied ∧ ∀ a ∈ tied, ∀ b ∈ tied, stamp a = stamp b

/-- The sort that leaves rows of one stamp in the order of the table. -/
def Arrangement.stable {τ : Type} [LinearOrder τ] (stamp : α → τ) : Arrangement stamp where
  order := List.insertionSort fun a b => stamp a ≤ stamp b
  perm rows := List.perm_insertionSort _ rows
  sorted rows := by
    have : Std.Total fun a b : α => stamp a ≤ stamp b := ⟨fun a b => le_total _ _⟩
    have : IsTrans α fun a b => stamp a ≤ stamp b := ⟨fun _ _ _ => le_trans⟩
    exact List.pairwise_insertionSort _ rows

section LinearOrder

variable {τ : Type} [LinearOrder τ] {stamp : α → τ} {inserted rows : List α}

/-- Of rows in the order of their stamps, those of the least stamp come first. -/
lemma exists_ties {s : τ} (hsorted : rows.Pairwise fun a b => stamp a ≤ stamp b)
    (hle : ∀ a ∈ rows, s ≤ stamp a) :
    ∃ tied newer, rows = tied ++ newer ∧ (∀ a ∈ tied, stamp a = s) ∧
      ∀ a ∈ newer, s < stamp a := by
  induction rows with
  | nil => exact ⟨[], [], rfl, by simp, by simp⟩
  | cons first rest ih =>
    obtain ⟨hfirst, hrest⟩ := List.pairwise_cons.mp hsorted
    have hs := hle first List.mem_cons_self
    by_cases heq : stamp first = s
    · obtain ⟨tied, newer, rfl, htied, hnewer⟩ :=
        ih hrest fun a ha => hle a (List.mem_cons_of_mem _ ha)
      exact ⟨first :: tied, newer, rfl, List.forall_mem_cons.mpr ⟨heq, htied⟩, hnewer⟩
    · have hlt : s < stamp first := lt_of_le_of_ne hs (Ne.symm heq)
      exact ⟨[], first :: rest, rfl, by simp, List.forall_mem_cons.mpr
        ⟨hlt, fun a ha => hlt.trans_le (hfirst a ha)⟩⟩

/-- Where the rows are inserted in the order of their stamps, a table of recent rows is a suffix. -/
lemma Recent.suffixUpToTies (h : Recent stamp inserted rows)
    (hsorted : inserted.Pairwise fun a b => stamp a ≤ stamp b) (hnodup : inserted.Nodup) :
    SuffixUpToTies stamp rows inserted := by
  cases rows with
  | nil => exact ⟨inserted, [], [], [], by simp, rfl, .refl _, by simp⟩
  | cons first rest =>
    obtain ⟨older, behind, rfl, hrest⟩ :
        ∃ older behind, inserted = older ++ first :: behind ∧ rest.Sublist behind := by
      obtain ⟨front, back, rfl, hfirst, hrest⟩ := List.cons_sublist_iff.mp h.sublist
      obtain ⟨older, between, rfl⟩ := List.append_of_mem hfirst
      exact ⟨older, between ++ back, by simp, List.sublist_append_of_sublist_right hrest⟩
    obtain ⟨hfirst, hbehind⟩ := List.pairwise_cons.mp (List.pairwise_append.mp hsorted).2.1
    obtain ⟨tied, newer, rfl, htied, hnewer⟩ := exists_ties hbehind hfirst
    obtain ⟨kept, last, rfl, hkept, hlast⟩ := List.sublist_append_iff.mp hrest
    -- a row behind the ties is more recent than `first`, so that it is not gone
    have hthere : ∀ a ∈ newer, a ∈ last := by
      intro a ha
      by_contra hnot
      have hne : ∀ b ∈ first :: kept, b ≠ a := by
        rintro b hb rfl
        have hb' : stamp b = stamp first := by
          rcases List.mem_cons.mp hb with rfl | hb
          · rfl
          · exact htied b (hkept.subset hb)
        exact (hnewer b ha).ne' hb'
      have hgone : a ∉ first :: (kept ++ last) := by
        rw [← List.cons_append, List.mem_append]
        exact fun hmem => hmem.elim (fun hmem => hne a hmem rfl) hnot
      exact (hnewer a ha).not_ge (h.gone_le a (by simp [ha]) hgone first List.mem_cons_self)
    have hnewerNodup : newer.Nodup := hnodup.sublist
      (((List.sublist_append_right tied newer).cons first).trans (List.sublist_append_right older _))
    have heq : last = newer :=
      hlast.eq_of_length_le (List.subperm_of_subset hnewerNodup hthere).length_le
    refine ⟨older, first :: tied, newer, first :: kept, by simp, by simp [heq],
      hkept.cons_cons _, ?_⟩
    have hall : ∀ a ∈ first :: tied, stamp a = stamp first :=
      List.forall_mem_cons.mpr ⟨rfl, htied⟩
    exact fun a ha b hb => (hall a ha).trans (hall b hb).symm

end LinearOrder

end Transaction

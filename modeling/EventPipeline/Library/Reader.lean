import Mathlib.Data.List.Pairwise
import Mathlib.Data.Nat.Notation
import Mathlib.Tactic.Common

/-!
# Reading a partitioned log at least once

A reader fetches batches of a partitioned log, handles their messages one after the other, and
commits the offset behind a batch once the batch is done. It may stop anywhere, and starts again
from the offsets it committed. What handling does to the state is a parameter: `returns` are the
calls that return, and `breaks` those that end the reader.

A message is behind the reader when its offset is below the committed one, or when it has been
handled in the batch at hand. What a call that returns establishes, and every step keeps, holds
of every message behind the reader (`Reachable.behind`).
-/

namespace Transaction

structure Batch (M : Type) where
  partition : ℕ
  messages : List M
  todo : List M

structure Reader (M S : Type) where
  state : S
  log : ℕ → List M
  committed : ℕ → ℕ
  position : ℕ → ℕ
  batches : List (Batch M)
  /-- The calls made so far, with the states they met; nothing is decided by it. -/
  met : List (ℕ × M × S)

namespace Reader

variable {M S : Type} (offset : M → ℕ)

def start (s : S) : Reader M S :=
  ⟨s, fun _ => [], fun _ => 0, fun _ => 0, [], []⟩

/-- The messages of a partition from an offset on. -/
def pending (r : Reader M S) (p n : ℕ) : List M :=
  (r.log p).filter fun m => n ≤ offset m

def publish (r : Reader M S) (p : ℕ) (m : M) : Reader M S :=
  { r with log := fun q => if q = p then r.log q ++ [m] else r.log q }

/-- The position behind the batches fetched. -/
def advanced (r : Reader M S) (batches : List (Batch M)) (p : ℕ) : ℕ :=
  match (batches.find? fun b => b.partition = p).bind fun b => b.messages.getLast? with
  | some m => offset m + 1
  | none => r.position p

def fetch (r : Reader M S) (batches : List (Batch M)) : Reader M S :=
  { r with batches, position := r.advanced offset batches }

/-- A call, and the batches left to handle. -/
def call (r : Reader M S) (p : ℕ) (m : M) (s : S) (batches : List (Batch M)) : Reader M S :=
  { r with state := s, batches, met := r.met ++ [(p, m, r.state)] }

def commit (r : Reader M S) (p n : ℕ) (batches : List (Batch M)) : Reader M S :=
  { r with batches, committed := fun q => if q = p then n else r.committed q }

/-- A new process starts behind what was committed. -/
def restart (r : Reader M S) : Reader M S :=
  { r with batches := [], position := r.committed }

/-- What can be fetched: of every partition at most one batch, from its position on. -/
structure Fetched (r : Reader M S) (batches : List (Batch M)) : Prop where
  distinct : batches.Pairwise fun b b' => b.partition ≠ b'.partition
  nonempty : ∀ b ∈ batches, b.messages ≠ []
  todo_eq : ∀ b ∈ batches, b.todo = b.messages
  isPrefix : ∀ b ∈ batches, b.messages <+: r.pending offset b.partition (r.position b.partition)

inductive Step (routed : ℕ → M → Prop) (returns breaks : Reader M S → ℕ → M → S → Prop) :
    Reader M S → Reader M S → Prop
  | published {r : Reader M S} {p : ℕ} {m : M} (hr : routed p m)
      (h : ∀ m' ∈ r.log p, offset m' < offset m) :
      Step routed returns breaks r (r.publish p m)
  | fetched {r : Reader M S} {batches : List (Batch M)} (hidle : r.batches = [])
      (h : Fetched offset r batches) : Step routed returns breaks r (r.fetch offset batches)
  | returned {r : Reader M S} {p : ℕ} {m : M} {messages todo : List M} {rest : List (Batch M)}
      {s : S} (hb : r.batches = ⟨p, messages, m :: todo⟩ :: rest) (h : returns r p m s) :
      Step routed returns breaks r (r.call p m s (⟨p, messages, todo⟩ :: rest))
  | broken {r : Reader M S} {p : ℕ} {m : M} {messages todo : List M} {rest : List (Batch M)}
      {s : S} (hb : r.batches = ⟨p, messages, m :: todo⟩ :: rest) (h : breaks r p m s) :
      Step routed returns breaks r (r.call p m s []).restart
  | committed {r : Reader M S} {p : ℕ} {last : M} {messages : List M} {rest : List (Batch M)}
      (hb : r.batches = ⟨p, messages, []⟩ :: rest) (hlast : messages.getLast? = some last) :
      Step routed returns breaks r (r.commit p (offset last + 1) rest)
  | stopped {r : Reader M S} : Step routed returns breaks r r.restart

/-- The states of a reader that starts on `s`. -/
inductive Reachable (routed : ℕ → M → Prop) (returns breaks : Reader M S → ℕ → M → S → Prop)
    (s : S) : Reader M S → Prop
  | start : Reachable routed returns breaks s (.start s)
  | step {r r' : Reader M S} (h : Reachable routed returns breaks s r)
      (hs : Step offset routed returns breaks r r') : Reachable routed returns breaks s r'

/-! ### Offsets -/

structure Inv (r : Reader M S) : Prop where
  sorted : ∀ p, (r.log p).Pairwise fun m m' => offset m < offset m'
  distinct : r.batches.Pairwise fun b b' => b.partition ≠ b'.partition
  isPrefix : ∀ b ∈ r.batches, b.messages <+: r.pending offset b.partition (r.committed b.partition)
  isSuffix : ∀ b ∈ r.batches, b.todo <:+ b.messages
  idle : ∀ p, (∀ b ∈ r.batches, b.partition ≠ p) → r.position p = r.committed p
  position : ∀ b ∈ r.batches, ∀ m, b.messages.getLast? = some m →
    r.position b.partition = offset m + 1
  bound : ∀ p, r.committed p = 0 ∨ ∃ m ∈ r.log p, r.committed p = offset m + 1

/-- The message is below the committed offset, or has been handled in the batch at hand. -/
def Behind (r : Reader M S) (p : ℕ) (m : M) : Prop :=
  (m ∈ r.log p ∧ offset m < r.committed p) ∨
    ∃ b ∈ r.batches, b.partition = p ∧ ∃ done, b.messages = done ++ b.todo ∧ m ∈ done

variable {offset} {routed : ℕ → M → Prop} {returns breaks : Reader M S → ℕ → M → S → Prop}
  {r r' : Reader M S} {s : S} {p : ℕ} {m : M}

@[simp] lemma publish_log_self (r : Reader M S) (p : ℕ) (m : M) :
    (r.publish p m).log p = r.log p ++ [m] :=
  if_pos rfl

lemma publish_log_of_ne {q : ℕ} (h : q ≠ p) (r : Reader M S) (m : M) :
    (r.publish p m).log q = r.log q :=
  if_neg h

namespace Inv

lemma start (s : S) : Inv offset (Reader.start s : Reader M S) where
  sorted _ := .nil
  distinct := .nil
  isPrefix := by simp [Reader.start]
  isSuffix := by simp [Reader.start]
  idle _ _ := rfl
  position := by simp [Reader.start]
  bound _ := .inl rfl

lemma restart (h : Inv offset r) : Inv offset r.restart where
  sorted := h.sorted
  distinct := .nil
  isPrefix := by simp [Reader.restart]
  isSuffix := by simp [Reader.restart]
  idle _ _ := rfl
  position := by simp [Reader.restart]
  bound := h.bound

/-- A committed offset is not above a new message. -/
lemma committed_le (h : Inv offset r) (hm : ∀ m' ∈ r.log p, offset m' < offset m) :
    r.committed p ≤ offset m := by
  rcases h.bound p with hzero | ⟨m', hm', heq⟩
  · omega
  · have := hm m' hm'
    omega

lemma publish (h : Inv offset r) (hm : ∀ m' ∈ r.log p, offset m' < offset m) :
    Inv offset (r.publish p m) where
  sorted q := by
    simp only [Reader.publish]
    split_ifs with hq
    · subst hq
      refine List.pairwise_append.mpr ⟨h.sorted q, List.pairwise_singleton _ _, ?_⟩
      intro m' hm' m'' hm''
      rw [List.mem_singleton.mp hm'']
      exact hm m' hm'
    · exact h.sorted q
  distinct := h.distinct
  isPrefix b hb := by
    refine (h.isPrefix b hb).trans ?_
    simp only [Reader.publish, pending]
    split_ifs
    · rw [List.filter_append]
      exact List.prefix_append _ _
    · exact List.prefix_rfl
  isSuffix := h.isSuffix
  idle := h.idle
  position := h.position
  bound q := by
    refine (h.bound q).imp id ?_
    rintro ⟨m', hm', heq⟩
    refine ⟨m', ?_, heq⟩
    simp only [Reader.publish]
    split_ifs
    · exact List.mem_append_left _ hm'
    · exact hm'

lemma fetch {batches : List (Batch M)} (h : Inv offset r) (hidle : r.batches = [])
    (hf : Fetched offset r batches) : Inv offset (r.fetch offset batches) := by
  have hposition : ∀ q, r.position q = r.committed q := fun q => h.idle q (by simp [hidle])
  refine ⟨h.sorted, hf.distinct, fun b hb => ?_, fun b hb => ?_, fun q hq => ?_,
    fun b hb m hm => ?_, h.bound⟩
  · rw [show (r.fetch offset batches).committed = r.committed from rfl, ← hposition]
    exact hf.isPrefix b hb
  · exact hf.todo_eq b hb ▸ List.suffix_rfl
  · have hnone : (batches.find? fun b => b.partition = q) = none :=
      List.find?_eq_none.mpr fun b hb => by simpa using hq b hb
    simp only [Reader.fetch, advanced, hnone, Option.bind_none]
    exact hposition q
  · -- the batch found for its partition is the batch itself
    have hsome : (batches.find? fun b' => b'.partition = b.partition).isSome = true :=
      List.find?_isSome.mpr ⟨b, hb, by simp⟩
    obtain ⟨b', hb'⟩ := Option.isSome_iff_exists.mp hsome
    have hpartition : b'.partition = b.partition := by simpa using List.find?_some hb'
    have hsame : b' = b := by
      have : Std.Symm fun b b' : Batch M => b.partition ≠ b'.partition := ⟨fun _ _ h => h.symm⟩
      by_contra hne
      exact hf.distinct.forall (List.mem_of_find?_eq_some hb') hb hne hpartition
    simp only [Reader.fetch, advanced, hb', Option.bind_some, hsame, hm]

lemma call {messages todo : List M} {rest : List (Batch M)} (h : Inv offset r)
    (hb : r.batches = ⟨p, messages, m :: todo⟩ :: rest) (s : S) :
    Inv offset (r.call p m s (⟨p, messages, todo⟩ :: rest)) := by
  have hhead := List.mem_cons_self (a := (⟨p, messages, m :: todo⟩ : Batch M)) (l := rest)
  rw [← hb] at hhead
  have htail : ∀ b ∈ rest, b ∈ r.batches := fun b hmem => by simp [hb, hmem]
  refine ⟨h.sorted, ?_, fun b hmem => ?_, fun b hmem => ?_, fun q hq => ?_,
    fun b hmem m' hm' => ?_, h.bound⟩
  · have hdistinct := h.distinct
    rw [hb] at hdistinct
    exact List.pairwise_cons.mpr (List.pairwise_cons.mp hdistinct)
  · rcases List.mem_cons.mp hmem with rfl | hmem
    · exact h.isPrefix ⟨p, messages, m :: todo⟩ hhead
    · exact h.isPrefix b (htail b hmem)
  · rcases List.mem_cons.mp hmem with rfl | hmem
    · exact (List.suffix_cons m todo).trans (h.isSuffix ⟨p, messages, m :: todo⟩ hhead)
    · exact h.isSuffix b (htail b hmem)
  · refine h.idle q fun b hmem => ?_
    rw [hb] at hmem
    rcases List.mem_cons.mp hmem with rfl | hmem
    · exact hq ⟨p, messages, todo⟩ List.mem_cons_self
    · exact hq b (List.mem_cons_of_mem _ hmem)
  · rcases List.mem_cons.mp hmem with rfl | hmem
    · exact h.position ⟨p, messages, m :: todo⟩ hhead m' hm'
    · exact h.position b (htail b hmem) m' hm'

lemma commit {last : M} {messages : List M} {rest : List (Batch M)} (h : Inv offset r)
    (hb : r.batches = ⟨p, messages, []⟩ :: rest) (hlast : messages.getLast? = some last) :
    Inv offset (r.commit p (offset last + 1) rest) := by
  have hhead := List.mem_cons_self (a := (⟨p, messages, []⟩ : Batch M)) (l := rest)
  rw [← hb] at hhead
  have htail : ∀ b ∈ rest, b ∈ r.batches := fun b hmem => by simp [hb, hmem]
  have hdistinct := h.distinct
  rw [hb] at hdistinct
  obtain ⟨hother, hrest⟩ := List.pairwise_cons.mp hdistinct
  refine ⟨h.sorted, hrest, fun b hmem => ?_, fun b hmem => h.isSuffix b (htail b hmem),
    fun q hq => ?_, fun b hmem => h.position b (htail b hmem), fun q => ?_⟩
  · have hne : b.partition ≠ p := (hother b hmem).symm
    simp only [Reader.commit, if_neg hne]
    exact h.isPrefix b (htail b hmem)
  · by_cases hqp : q = p
    · subst hqp
      simp only [Reader.commit, if_true]
      exact h.position _ hhead last hlast
    · simp only [Reader.commit, if_neg hqp]
      refine h.idle q fun b hmem => ?_
      rw [hb] at hmem
      rcases List.mem_cons.mp hmem with rfl | hmem
      · exact fun heq => hqp heq.symm
      · exact hq b hmem
  · by_cases hqp : q = p
    · subst hqp
      simp only [Reader.commit, if_true]
      refine .inr ⟨last, ?_, rfl⟩
      have hpending := (h.isPrefix _ hhead).subset (List.mem_of_getLast? hlast)
      exact (List.mem_filter.mp hpending).1
    · simp only [Reader.commit, if_neg hqp]
      exact h.bound q

lemma step (h : Inv offset r) (hs : Step offset routed returns breaks r r') :
    Inv offset r' := by
  cases hs with
  | published hr hm => exact h.publish hm
  | fetched hidle hf => exact h.fetch hidle hf
  | returned hb _ => exact h.call hb _
  | broken hb _ => exact (h.call hb _).restart
  | committed hb hlast => exact h.commit hb hlast
  | stopped => exact h.restart

end Inv

lemma Reachable.inv (h : Reachable offset routed returns breaks s r) : Inv offset r := by
  induction h with
  | start => exact .start s
  | step _ hs ih => exact ih.step hs

lemma Reachable.routed_of_mem (h : Reachable offset routed returns breaks s r) (hm : m ∈ r.log p) :
    routed p m := by
  induction h with
  | start => cases hm
  | step _ hs ih =>
    cases hs with
    | @published q m₀ hr _ =>
      simp only [Reader.publish] at hm
      split_ifs at hm with hp
      · rcases List.mem_append.mp hm with hm | hm
        · exact ih hm
        · obtain rfl := List.mem_singleton.mp hm
          exact hp ▸ hr
      · exact ih hm
    | fetched => exact ih hm
    | returned => exact ih hm
    | broken => exact ih hm
    | committed => exact ih hm
    | stopped => exact ih hm

/-- Handled messages are in the log. -/
lemma Inv.mem_log {messages todo : List M} {rest : List (Batch M)} (h : Inv offset r)
    (hb : r.batches = ⟨p, messages, m :: todo⟩ :: rest) : m ∈ r.log p := by
  have hhead := List.mem_cons_self (a := (⟨p, messages, m :: todo⟩ : Batch M)) (l := rest)
  rw [← hb] at hhead
  have hmessages : m ∈ messages := (h.isSuffix _ hhead).subset List.mem_cons_self
  exact (List.mem_filter.mp ((h.isPrefix _ hhead).subset hmessages)).1

lemma Inv.eq_of_offset_eq {m' : M} (h : Inv offset r) (hm : m ∈ r.log p) (hm' : m' ∈ r.log p)
    (heq : offset m = offset m') : m = m' := by
  have hne : (r.log p).Pairwise fun m m' => offset m ≠ offset m' :=
    (h.sorted p).imp fun hlt => Nat.ne_of_lt hlt
  have : Std.Symm fun m m' : M => offset m ≠ offset m' := ⟨fun _ _ h => h.symm⟩
  by_contra hmm
  exact hne.forall hm hm' hmm heq

/-- What is published is above the log. -/
lemma Step.log_cases (hs : Step offset routed returns breaks r r') (p : ℕ) :
    r'.log p = r.log p ∨
      ∃ m, (∀ m' ∈ r.log p, offset m' < offset m) ∧ r'.log p = r.log p ++ [m] := by
  cases hs with
  | @published q m hr hm =>
    by_cases hp : p = q
    · subst hp
      exact .inr ⟨m, hm, if_pos rfl⟩
    · exact .inl (if_neg hp)
  | fetched => exact .inl rfl
  | returned => exact .inl rfl
  | broken => exact .inl rfl
  | committed => exact .inl rfl
  | stopped => exact .inl rfl

/-- The first message from an offset on comes right behind the messages before it. -/
lemma filter_lt_succ {log : List M} (hsorted : log.Pairwise fun m m' => offset m < offset m') {n : ℕ}
    (h : (log.filter fun m => n ≤ offset m).head? = some m) :
    (log.filter fun m' => offset m' < offset m + 1) = (log.filter fun m' => offset m' < n) ++ [m] := by
  induction log with
  | nil => cases h
  | cons m' log ih =>
    obtain ⟨hgt, hsorted⟩ := List.pairwise_cons.mp hsorted
    by_cases hlt : offset m' < n
    · rw [List.filter_cons_of_neg (by simpa using hlt)] at h
      have hmem : m ∈ log := (List.mem_filter.mp (List.mem_of_mem_head? h)).1
      have hlt' := hgt m hmem
      rw [List.filter_cons_of_pos (by simp; omega), List.filter_cons_of_pos (by simpa using hlt),
        ih hsorted h, List.cons_append]
    · rw [List.filter_cons_of_pos (by simpa using hlt)] at h
      obtain rfl : m' = m := Option.some.inj h
      have hnone : ∀ k, k ≤ offset m' + 1 → (log.filter fun m => offset m < k) = [] := by
        intro k hk
        refine List.filter_eq_nil_iff.mpr fun m'' hm'' => ?_
        have := hgt m'' hm''
        simp only [decide_eq_true_eq]
        omega
      rw [List.filter_cons_of_pos (by simp), List.filter_cons_of_neg (by simpa using hlt),
        hnone _ (Nat.le_refl _), hnone n (by omega), List.nil_append]

/-! ### What is behind the reader -/

/-- Messages up to the last one of a batch are in the batch. -/
lemma mem_of_prefix {messages log : List M} {last : M}
    (hsorted : log.Pairwise fun m m' => offset m < offset m') (hread : messages <+: log)
    (hlast : messages.getLast? = some last) (hm : m ∈ log) (hle : offset m ≤ offset last) :
    m ∈ messages := by
  obtain ⟨after, rfl⟩ := hread
  rcases List.mem_append.mp hm with hm | hm
  · exact hm
  · have hlt := (List.pairwise_append.mp hsorted).2.2 last (List.mem_of_getLast? hlast) m hm
    omega

/-- A step puts at most the message behind the reader whose call returned. -/
lemma Behind.of_step (hi : Inv offset r) (hs : Step offset routed returns breaks r r')
    (h : Behind offset r' p m) :
    Behind offset r p m ∨ ∃ s batches, returns r p m s ∧ r' = r.call p m s batches := by
  cases hs with
  | @published p₀ m₀ hr hm₀ =>
    refine .inl (h.imp ?_ id)
    rintro ⟨hm, hlt⟩
    refine ⟨?_, hlt⟩
    simp only [Reader.publish] at hm hlt
    split_ifs at hm with hp
    · subst hp
      rcases List.mem_append.mp hm with hm | hm
      · exact hm
      · rw [List.mem_singleton.mp hm] at hlt
        have := hi.committed_le hm₀
        omega
    · exact hm
  | fetched hidle hf =>
    refine .inl (h.imp id ?_)
    rintro ⟨b, hb, -, done, hdone, hm⟩
    rw [hf.todo_eq b hb] at hdone
    rw [List.self_eq_append_left.mp hdone] at hm
    cases hm
  | @returned p₀ m₀ messages todo rest s₀ hb hreturn =>
    have hhead := List.mem_cons_self (a := (⟨p₀, messages, m₀ :: todo⟩ : Batch M)) (l := rest)
    rw [← hb] at hhead
    rcases h with h | ⟨b, hmem, hp, done, hdone, hm⟩
    · exact .inl (.inl h)
    · rcases List.mem_cons.mp hmem with rfl | hmem
      · obtain ⟨before, hbefore⟩ := hi.isSuffix _ hhead
        have hsplit : done ++ todo = before ++ [m₀] ++ todo := by
          rw [List.append_assoc]
          exact (hbefore.trans hdone).symm
        rw [List.append_cancel_right hsplit] at hm
        rcases List.mem_append.mp hm with hm | hm
        · exact .inl (.inr ⟨_, hhead, hp, before, hbefore.symm, hm⟩)
        · obtain rfl := List.mem_singleton.mp hm
          obtain rfl : p₀ = p := hp
          exact .inr ⟨s₀, _, hreturn, rfl⟩
      · exact .inl (.inr ⟨b, hb ▸ List.mem_cons_of_mem _ hmem, hp, done, hdone, hm⟩)
  | broken hb hbreak =>
    refine .inl (h.imp id ?_)
    rintro ⟨b, hmem, -⟩
    cases hmem
  | @committed p₀ last messages rest hb hlast =>
    have hhead := List.mem_cons_self (a := (⟨p₀, messages, []⟩ : Batch M)) (l := rest)
    rw [← hb] at hhead
    left
    rcases h with ⟨hm, hlt⟩ | ⟨b, hmem, hp, done, hdone, hm⟩
    · by_cases hlow : offset m < r.committed p
      · exact .inl ⟨hm, hlow⟩
      · simp only [Reader.commit] at hlt
        split_ifs at hlt with hp
        · subst hp
          have hmpending : m ∈ r.pending offset p (r.committed p) :=
            List.mem_filter.mpr ⟨hm, by simpa using hlow⟩
          have hmessages := mem_of_prefix ((hi.sorted p).filter _) (hi.isPrefix _ hhead) hlast
            hmpending (Nat.le_of_lt_succ hlt)
          exact .inr ⟨_, hhead, rfl, messages, (List.append_nil _).symm, hmessages⟩
        · exact absurd hlt hlow
    · exact .inr ⟨b, hb ▸ List.mem_cons_of_mem _ hmem, hp, done, hdone, hm⟩
  | stopped =>
    refine .inl (h.imp id ?_)
    rintro ⟨b, hmem, -⟩
    cases hmem

/-- When a message is handled, every message before it is behind the reader. -/
lemma Inv.behind {m' : M} {messages todo : List M} {rest : List (Batch M)} (h : Inv offset r)
    (hb : r.batches = ⟨p, messages, m :: todo⟩ :: rest) (hm' : m' ∈ r.log p)
    (hlt : offset m' < offset m) : Behind offset r p m' := by
  have hhead := List.mem_cons_self (a := (⟨p, messages, m :: todo⟩ : Batch M)) (l := rest)
  rw [← hb] at hhead
  by_cases hlow : offset m' < r.committed p
  · exact .inl ⟨hm', hlow⟩
  · obtain ⟨before, hbefore⟩ := h.isSuffix _ hhead
    obtain ⟨after, hafter⟩ := h.isPrefix _ hhead
    simp only at hbefore hafter
    refine .inr ⟨_, hhead, rfl, before, hbefore.symm, ?_⟩
    have hpending : m' ∈ r.pending offset p (r.committed p) :=
      List.mem_filter.mpr ⟨hm', by simpa using hlow⟩
    have hsorted : (r.pending offset p (r.committed p)).Pairwise fun m m' => offset m < offset m' :=
      (h.sorted p).filter _
    rw [← hafter, ← hbefore, List.append_assoc, List.cons_append] at hpending hsorted
    rcases List.mem_append.mp hpending with hmem | hmem
    · exact hmem
    · rcases List.mem_cons.mp hmem with rfl | hmem
      · omega
      · have := (List.pairwise_cons.mp (List.pairwise_append.mp hsorted).2.1).1 m' hmem
        omega

/-- What every call that returns establishes, and every step keeps, holds behind the reader. -/
theorem Reachable.behind {P : Reader M S → ℕ → M → Prop}
    (hreturn : ∀ r p m s' batches, Reachable offset routed returns breaks s r →
      returns r p m s' → P (r.call p m s' batches) p m)
    (hstep : ∀ r r' p m, Reachable offset routed returns breaks s r →
      Step offset routed returns breaks r r' → P r p m → P r' p m)
    (h : Reachable offset routed returns breaks s r) (hm : Behind offset r p m) : P r p m := by
  induction h with
  | start =>
    rcases hm with ⟨hm, -⟩ | ⟨b, hb, -⟩
    · cases hm
    · cases hb
  | step h hs ih =>
    rcases hm.of_step h.inv hs with hm | ⟨s', batches, hr, rfl⟩
    · exact hstep _ _ _ _ h hs (ih hm)
    · exact hreturn _ _ _ _ _ h hr

end Reader

/-! ### Merges -/

/-- What reads the parts of a list in some order of its own has met its elements in that order. -/
lemma exists_merge {α β κ : Type} [DecidableEq κ] {key : α → κ} {key' : β → κ} {R : α → β → Prop}
    {as : List α} {bs : List β}
    (h : ∀ k, List.Forall₂ R (as.filter (key · = k)) (bs.filter (key' · = k))) :
    ∃ as', (∀ k, as'.filter (key · = k) = as.filter (key · = k)) ∧
      List.Forall₂ (fun a b => key a = key' b ∧ R a b) as' bs := by
  induction bs generalizing as with
  | nil =>
    cases as with
    | nil => exact ⟨[], fun _ => rfl, .nil⟩
    | cons a as =>
      have ha := h (key a)
      rw [List.filter_cons_of_pos (by simp)] at ha
      cases ha
  | cons b bs ih =>
    have hb := h (key' b)
    rw [List.filter_cons_of_pos (by simp)] at hb
    generalize hfilter : as.filter (key · = key' b) = found at hb
    cases hb with
    | @cons a _ rest _ hab hrest =>
      -- `a` is the first of its part, and leaves the other parts alone
      obtain ⟨before, after, rfl, hbefore, ha, hafter⟩ := List.filter_eq_cons_iff.mp hfilter
      have ha : key a = key' b := of_decide_eq_true ha
      have hnone : before.filter (key · = key' b) = [] :=
        List.filter_eq_nil_iff.mpr fun x hx => by simpa using hbefore x hx
      obtain ⟨as', hparts, hpairs⟩ := @ih (before ++ after) fun k => by
        by_cases hk : key' b = k
        · subst hk
          rwa [List.filter_append, hnone, List.nil_append, hafter]
        · have hother := h k
          rw [List.filter_cons_of_neg (by simpa using hk), List.filter_append,
            List.filter_cons_of_neg (by simpa [ha] using hk)] at hother
          rwa [List.filter_append]
      refine ⟨a :: as', fun k => ?_, .cons ⟨ha, hab⟩ hpairs⟩
      by_cases hk : key a = k
      · subst hk
        rw [List.filter_cons_of_pos (by simp), hparts, List.filter_append, List.filter_append,
          List.filter_cons_of_pos (by simp), ha, hnone, List.nil_append, List.nil_append]
      · rw [List.filter_cons_of_neg (by simpa using hk), hparts, List.filter_append,
          List.filter_append, List.filter_cons_of_neg (by simpa using hk)]

end Transaction

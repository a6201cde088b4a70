import EventPipeline.Library.Group
import Mathlib.Logic.Relation

/-!
# Catching up with a partitioned log

A system that reads a log, in turns, can always come to its end: from any state in which it is quiet,
if it has a run that passes the first message that is pending, whatever this message is
(`Turns.caught_up`). What the runs make of the messages, and of those before, stays.

A group that has lost its members goes on with one of them, which starts behind the committed offsets
and fetches the messages one by one (`Group.turns`).
-/

namespace Transaction

variable {M S C σ : Type} {offset : M → ℕ}

/-- The messages from an offset on, when the first of them has been passed. -/
lemma filter_of_cons {log rest : List M} {m : M} {n : ℕ}
    (hsorted : log.Pairwise fun m m' => offset m < offset m')
    (h : (log.filter fun m => n ≤ offset m) = m :: rest) :
    (log.filter fun m' => offset m + 1 ≤ offset m') = rest := by
  have hle : n ≤ offset m := by
    have hmem : m ∈ log.filter fun m => n ≤ offset m := by simp [h]
    simpa using (List.mem_filter.mp hmem).2
  have hgt : ∀ m' ∈ rest, offset m < offset m' := by
    have hsorted' := hsorted.filter fun m => n ≤ offset m
    rw [h] at hsorted'
    exact (List.pairwise_cons.mp hsorted').1
  have hpassed : (log.filter fun m' => offset m + 1 ≤ offset m') =
      (log.filter fun m => n ≤ offset m).filter fun m' => offset m + 1 ≤ offset m' := by
    rw [List.filter_filter]
    refine List.filter_congr fun m' _ => ?_
    simp only [← Bool.decide_and, decide_eq_decide]
    omega
  rw [hpassed, h, List.filter_cons_of_neg (by simp)]
  exact List.filter_eq_self.mpr fun m' hm' => decide_eq_true (hgt m' hm')

/-! ### In turns -/

/-- When the system is quiet, a run passes the first message of a partition that is pending, makes
`Done` of it, and takes back nothing. -/
structure Turns (offset : M → ℕ) (Step : σ → σ → Prop) (Quiet : σ → Prop) (log : σ → ℕ → List M)
    (committed : σ → ℕ → ℕ) (Done : σ → ℕ → M → Prop) : Prop where
  sorted : ∀ s, Quiet s → ∀ p, (log s p).Pairwise fun m m' => offset m < offset m'
  turn : ∀ s p m, Quiet s → ((log s p).filter fun m => committed s p ≤ offset m).head? = some m →
    ∃ s', Relation.ReflTransGen Step s s' ∧ Quiet s' ∧ log s' = log s ∧
      (∀ q, committed s' q = if q = p then offset m + 1 else committed s q) ∧ Done s' p m ∧
      ∀ q m', Done s q m' → Done s' q m'

namespace Turns

variable {Step : σ → σ → Prop} {Quiet : σ → Prop} {log : σ → ℕ → List M} {committed : σ → ℕ → ℕ}
  {Done : σ → ℕ → M → Prop} {s s' : σ}

/-- The partition is read to its end, and all that was pending in it is done. -/
lemma caught_up_in (h : Turns offset Step Quiet log committed Done) (hs : Quiet s) (p : ℕ) :
    ∃ s', Relation.ReflTransGen Step s s' ∧ Quiet s' ∧ log s' = log s ∧
      (∀ q, q ≠ p → committed s' q = committed s q) ∧
      (∀ m ∈ log s p, offset m < committed s' p ∧ (committed s p ≤ offset m → Done s' p m)) ∧
      ∀ q m, Done s q m → Done s' q m := by
  generalize hpending : ((log s p).filter fun m => committed s p ≤ offset m) = pending
  induction pending generalizing s with
  | nil =>
    refine ⟨s, .refl, hs, rfl, fun _ _ => rfl, fun m hm => ?_, fun _ _ => id⟩
    have hlt : ¬ committed s p ≤ offset m := by
      simpa using List.filter_eq_nil_iff.mp hpending m hm
    exact ⟨by omega, fun hle => absurd hle hlt⟩
  | cons m rest ih =>
    obtain ⟨s₁, hreach₁, hs₁, hlog₁, hcommitted₁, hdone₁, hkeep₁⟩ :=
      h.turn s p m hs (by rw [hpending]; rfl)
    have hrest : ((log s₁ p).filter fun m => committed s₁ p ≤ offset m) = rest := by
      rw [hcommitted₁, if_pos rfl, hlog₁]
      exact filter_of_cons (h.sorted s hs p) hpending
    obtain ⟨s', hreach, hs', hlog, hcommitted, hpassed, hkeep⟩ := ih hs₁ hrest
    refine ⟨s', hreach₁.trans hreach, hs', hlog.trans hlog₁, fun q hq => ?_, fun m' hm' => ?_,
      fun q m' hm' => hkeep q m' (hkeep₁ q m' hm')⟩
    · rw [hcommitted q hq, hcommitted₁, if_neg hq]
    · obtain ⟨hlt, hdone⟩ := hpassed m' (hlog₁ ▸ hm')
      refine ⟨hlt, fun hle => ?_⟩
      have hmem : m' ∈ (log s p).filter fun m => committed s p ≤ offset m :=
        List.mem_filter.mpr ⟨hm', by simpa using hle⟩
      rw [hpending] at hmem
      rcases List.mem_cons.mp hmem with rfl | hmem
      · exact hkeep p m' hdone₁
      · rw [← hrest] at hmem
        exact hdone (by simpa using (List.mem_filter.mp hmem).2)

/-- Every partition is read to its end, if those from some number on are empty. -/
theorem caught_up (h : Turns offset Step Quiet log committed Done) (hs : Quiet s) {bound : ℕ}
    (hbound : ∀ p, bound ≤ p → log s p = []) :
    ∃ s', Relation.ReflTransGen Step s s' ∧ Quiet s' ∧ log s' = log s ∧
      (∀ p, ∀ m ∈ log s p, offset m < committed s' p ∧ (committed s p ≤ offset m → Done s' p m)) ∧
      ∀ q m, Done s q m → Done s' q m := by
  suffices hsome : ∀ n, ∃ s', Relation.ReflTransGen Step s s' ∧ Quiet s' ∧ log s' = log s ∧
      (∀ p, n ≤ p → committed s' p = committed s p) ∧
      (∀ p < n, ∀ m ∈ log s p,
        offset m < committed s' p ∧ (committed s p ≤ offset m → Done s' p m)) ∧
      ∀ q m, Done s q m → Done s' q m by
    obtain ⟨s', hreach, hs', hlog, -, hpassed, hkeep⟩ := hsome bound
    refine ⟨s', hreach, hs', hlog, fun p m hm => ?_, hkeep⟩
    by_cases hp : p < bound
    · exact hpassed p hp m hm
    · rw [hbound p (by omega)] at hm
      cases hm
  intro n
  induction n with
  | zero =>
    exact ⟨s, .refl, hs, rfl, fun _ _ => rfl, fun p hp => absurd hp (Nat.not_lt_zero p),
      fun _ _ => id⟩
  | succ n ih =>
    obtain ⟨s₁, hreach₁, hs₁, hlog₁, hcommitted₁, hpassed₁, hkeep₁⟩ := ih
    obtain ⟨s', hreach, hs', hlog, hcommitted, hpassed, hkeep⟩ := h.caught_up_in hs₁ n
    refine ⟨s', hreach₁.trans hreach, hs', hlog.trans hlog₁, fun p hp => ?_, fun p hp m hm => ?_,
      fun q m hm => hkeep q m (hkeep₁ q m hm)⟩
    · rw [hcommitted p (by omega), hcommitted₁ p (by omega)]
    · by_cases heq : p = n
      · subst heq
        rw [← hcommitted₁ p (Nat.le_refl p)]
        exact hpassed m (hlog₁ ▸ hm)
      · obtain ⟨hlt, hdone⟩ := hpassed₁ p (by omega) m hm
        rw [hcommitted p heq]
        exact ⟨hlt, fun hle => hkeep p m (hdone hle)⟩

end Turns

/-! ### One member for all -/

namespace Group

variable {routed : ℕ → M → Prop} {handler : Handler M S C} {g g' : Group M S C} {s : S} {x p : ℕ}
  {m : M}

/-- The member `x` has all partitions, and nothing to do so far. -/
structure Alone (g : Group M S C) (x : ℕ) : Prop where
  owner : ∀ p, g.owner p = some x
  batches : (g.members x).batches = []
  busy : (g.members x).busy = none
  position : (g.members x).position = g.committed

/-- Whatever has happened, a member can start anew and be assigned all partitions. -/
lemma exists_alone (g : Group M S C) (x : ℕ) :
    ∃ g', Relation.ReflTransGen (Step offset routed handler) g g' ∧ g'.Alone x ∧ g'.log = g.log ∧
      g'.committed = g.committed ∧ g'.state = g.state := by
  have hassigned : Step offset routed handler (g.leave x) { g.leave x with
      owner := fun _ => some x
      members := fun y => { (g.leave x).members y with position := g.committed } } :=
    @Group.Step.assigned _ _ _ _ _ _ _ _ (fun _ => g.committed) fun _ _ _ => .inl rfl
  refine ⟨_, .head .stopped (.single hassigned), ⟨fun _ => rfl, ?_, ?_, rfl⟩, rfl, rfl, rfl⟩
  · simp [Group.leave, Group.put]
  · simp [Group.leave, Group.put]

/-- From some number on no partition has been written to. -/
lemma Reachable.exists_bound (h : Reachable offset routed handler s g) :
    ∃ bound, ∀ p, bound ≤ p → g.log p = [] := by
  induction h with
  | start => exact ⟨0, fun _ _ => rfl⟩
  | step _ hs ih =>
    obtain ⟨bound, hbound⟩ := ih
    cases hs with
    | @published q m hr hm =>
      refine ⟨max bound (q + 1), fun p hp => ?_⟩
      have hne : p ≠ q := by omega
      rw [publish_log_of_ne hne]
      exact hbound p (by omega)
    | assigned => exact ⟨bound, hbound⟩
    | fetched => exact ⟨bound, hbound⟩
    | began => exact ⟨bound, hbound⟩
    | wentOn => exact ⟨bound, hbound⟩
    | returned => exact ⟨bound, hbound⟩
    | broken => exact ⟨bound, hbound⟩
    | committed => exact ⟨bound, hbound⟩
    | stopped => exact ⟨bound, hbound⟩

/-- The only member fetches the first message of a partition that is pending. -/
lemma Alone.fetch (h : g.Alone x)
    (hm : ((g.log p).filter fun m => g.committed p ≤ offset m).head? = some m) :
    Step offset routed handler g (g.put x { g.members x with
      batches := [⟨p, [m], [m]⟩]
      position := fun q => if q = p then offset m + 1 else g.committed q }) := by
  have hfetched : Reader.Fetched offset (g.reader x) [⟨p, [m], [m]⟩] := by
    refine ⟨List.pairwise_singleton _ _, by simp, by simp, fun b hb => ?_⟩
    rw [List.mem_singleton.mp hb]
    obtain ⟨rest, hrest⟩ := List.head?_eq_some_iff.mp hm
    refine ⟨rest, ?_⟩
    simp only [Reader.pending, Group.reader, h.position]
    exact hrest.symm
  have hadvanced : (g.reader x).advanced offset [⟨p, [m], [m]⟩] =
      fun q => if q = p then offset m + 1 else g.committed q := by
    funext q
    by_cases hq : q = p
    · simp [Reader.advanced, hq]
    · simp [Reader.advanced, Ne.symm hq, hq, Group.reader, h.position]
  rw [← hadvanced]
  exact .fetched h.batches hfetched fun b hb => by
    rw [List.mem_singleton.mp hb]
    exact h.owner p

/-- The call on the message it fetched has returned. -/
lemma Alone.commit {g₁ g₂ : Group M S C} (h : g.Alone x)
    (hg₁ : g₁ = g.put x { g.members x with
      batches := [⟨p, [m], [m]⟩]
      position := fun q => if q = p then offset m + 1 else g.committed q })
    (hf : Finished g₁ x [⟨p, [m], []⟩] s g₂) :
    ∃ g', Step offset routed handler g₂ g' ∧ g'.Alone x ∧ g'.log = g.log ∧
      g'.state = s ∧ ∀ q, g'.committed q = if q = p then offset m + 1 else g.committed q := by
  subst hg₁
  have hbatches : (g₂.members x).batches = [⟨p, [m], []⟩] := by rw [hf.self]
  have hcommitted : g₂.committed = g.committed := hf.committed
  have howner : ∀ q, g₂.owner q = some x := fun q => (congrFun hf.owner q).trans (h.owner q)
  refine ⟨_, .committed hbatches rfl (howner p), ⟨howner, ?_, ?_, ?_⟩, hf.log, hf.state, fun q => ?_⟩
  · simp [Group.put]
  · simp [Group.put, hf.self]
  · funext q
    simp [Group.put, hf.self, hcommitted]
  · rw [← hcommitted]
    rfl

/-- The only member goes through the log message by message, if the call on any message returns. What
is `Good` and what is `Done` is to be kept by every step. -/
lemma turns {Good : Group M S C → Prop} {Done : Group M S C → ℕ → M → Prop} (x : ℕ)
    (hsorted : ∀ g, Good g → ∀ p, (g.log p).Pairwise fun m m' => offset m < offset m')
    (hcall : ∀ g p m, Good g → m ∈ g.log p → (g.members x).batches = [⟨p, [m], [m]⟩] →
      (g.members x).busy = none → ∃ s g', Relation.ReflTransGen (Step offset routed handler) g g' ∧
        Finished g x [⟨p, [m], []⟩] s g' ∧ Done g' p m)
    (hgood : ∀ g g', Good g → Step offset routed handler g g' → Good g')
    (hkeep : ∀ g g' p m, Good g → Step offset routed handler g g' → Done g p m → Done g' p m) :
    Turns offset (Step offset routed handler) (fun g => Good g ∧ g.Alone x) Group.log
      Group.committed Done where
  sorted g hg := hsorted g hg.1
  turn g p m hg hm := by
    have hpath : ∀ {g g'}, Relation.ReflTransGen (Step offset routed handler) g g' → Good g →
        Good g' ∧ ∀ q m', Done g q m' → Done g' q m' := by
      intro g g' hreach hg
      induction hreach with
      | refl => exact ⟨hg, fun _ _ => id⟩
      | tail _ hs ih =>
        exact ⟨hgood _ _ ih.1 hs, fun q m' hdone => hkeep _ _ _ _ ih.1 hs (ih.2 q m' hdone)⟩
    obtain ⟨hg, halone⟩ := hg
    have hfetch : Step offset routed handler g _ := halone.fetch hm
    have hmem : m ∈ g.log p := (List.mem_filter.mp (List.mem_of_mem_head? hm)).1
    obtain ⟨s, g₂, hreach, hfinished, hdone⟩ := hcall _ p m (hgood _ _ hg hfetch) hmem
      (by simp) (by simpa using halone.busy)
    obtain ⟨g', hcommit, halone', hlog, -, hcommitted⟩ := halone.commit rfl hfinished
    have hreach₂ := hreach.head hfetch
    obtain ⟨hgood₂, hkeep₂⟩ := hpath hreach₂ hg
    have hreach' : Relation.ReflTransGen (Step offset routed handler) g g' := hreach₂.tail hcommit
    obtain ⟨hg', hkeep'⟩ := hpath hreach' hg
    exact ⟨g', hreach', ⟨hg', halone'⟩, hlog, hcommitted, hkeep _ _ _ _ hgood₂ hcommit hdone, hkeep'⟩

end Group

end Transaction

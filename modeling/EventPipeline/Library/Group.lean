import EventPipeline.Library.Reader

/-!
# A group of readers of a partitioned log

The members of a group share the partitions of a log. Each of them fetches batches of the partitions
it owns, from the position it has reached in them, and handles their messages one after the other;
the calls of different members are interleaved. Partitions are assigned anew at any time, also while
a member is still busy with a batch of one of them: its new owner starts behind the committed offset,
and the old one goes on with its batch until it is to commit it, which only the owner can.

What a call that returns establishes, and every step keeps, holds of every message below a committed
offset (`Group.Reachable.below`), and of every message before the one that a member is busy with
(`Group.Reachable.earlier`).
-/

namespace Transaction

/-- What a call is: how it starts on a message, what it does to the shared state before its last
step, how it returns, and what it leaves where the process dies in it. -/
structure Handler (M S C : Type) where
  begins : M → C → Prop
  goesOn : C → S → C → S → Prop
  returns : C → S → S → Prop
  breaks : C → S → S → Prop

/-- The call has begun on the message. -/
inductive Handler.Under {M S C : Type} (handler : Handler M S C) (m : M) : C → Prop
  | begun {c : C} (h : handler.begins m c) : Under handler m c
  | wentOn {c c' : C} {s s' : S} (h : Under handler m c) (hs : handler.goesOn c s c' s') :
      Under handler m c'

structure Member (M C : Type) where
  position : ℕ → ℕ
  batches : List (Batch M)
  /-- The call that is made, on the message that is to be handled next. -/
  busy : Option C

structure Group (M S C : Type) where
  state : S
  log : ℕ → List M
  committed : ℕ → ℕ
  owner : ℕ → Option ℕ
  members : ℕ → Member M C
  /-- The calls that returned, with the states their last step met; nothing is decided by it. -/
  met : List (ℕ × M × S)

namespace Group

variable {M S C : Type} (offset : M → ℕ)

def start (s : S) : Group M S C :=
  ⟨s, fun _ => [], fun _ => 0, fun _ => none, fun _ => ⟨fun _ => 0, [], none⟩, []⟩

def publish (g : Group M S C) (p : ℕ) (m : M) : Group M S C :=
  { g with log := fun q => if q = p then g.log q ++ [m] else g.log q }

def put (g : Group M S C) (x : ℕ) (member : Member M C) : Group M S C :=
  { g with members := fun y => if y = x then member else g.members y }

/-- What the member `x` sees of the log. -/
def reader (g : Group M S C) (x : ℕ) : Reader M Unit :=
  ⟨(), g.log, g.committed, (g.members x).position, (g.members x).batches, []⟩

/-- The call on the message ends in the state `s`. -/
def finish (g : Group M S C) (x p : ℕ) (m : M) (batches : List (Batch M)) (s : S) :
    Group M S C :=
  { g.put x { g.members x with batches, busy := none } with
    state := s
    met := g.met ++ [(p, m, g.state)] }

/-- The member `x` has ended a call in `s`; the others have not moved. -/
structure Finished (g : Group M S C) (x : ℕ) (batches : List (Batch M)) (s : S)
    (g' : Group M S C) : Prop where
  state : g'.state = s
  log : g'.log = g.log
  committed : g'.committed = g.committed
  owner : g'.owner = g.owner
  self : g'.members x = { g.members x with batches, busy := none }
  other : ∀ y, y ≠ x → g'.members y = g.members y

/-- A member that has left the group. -/
def leave (g : Group M S C) (x : ℕ) : Group M S C :=
  { g.put x { g.members x with batches := [], busy := none } with
    owner := fun p => if g.owner p = some x then none else g.owner p }

/-- One step of the log, of the assignment, or of a member `x`. -/
inductive Step (routed : ℕ → M → Prop) (handler : Handler M S C) :
    Group M S C → Group M S C → Prop
  | published {g : Group M S C} {p : ℕ} {m : M} (hr : routed p m)
      (h : ∀ m' ∈ g.log p, offset m' < offset m) : Step routed handler g (g.publish p m)
  | assigned {g : Group M S C} {owner : ℕ → Option ℕ} {position : ℕ → ℕ → ℕ}
      (h : ∀ x p, owner p = some x → position x p = g.committed p ∨
        g.owner p = some x ∧ position x p = (g.members x).position p) :
      Step routed handler g { g with
        owner
        members := fun x => { g.members x with position := position x } }
  | fetched {g : Group M S C} {x : ℕ} {batches : List (Batch M)}
      (hidle : (g.members x).batches = [])
      (h : Reader.Fetched offset (g.reader x) batches)
      (howner : ∀ b ∈ batches, g.owner b.partition = some x) :
      Step routed handler g (g.put x { g.members x with
        batches
        position := (g.reader x).advanced offset batches })
  | began {g : Group M S C} {x p : ℕ} {m : M} {messages todo : List M} {rest : List (Batch M)}
      {c : C} (hb : (g.members x).batches = ⟨p, messages, m :: todo⟩ :: rest)
      (hbusy : (g.members x).busy = none) (h : handler.begins m c) :
      Step routed handler g (g.put x { g.members x with busy := some c })
  | wentOn {g : Group M S C} {x : ℕ} {c c' : C} {s : S} (hbusy : (g.members x).busy = some c)
      (h : handler.goesOn c g.state c' s) :
      Step routed handler g { g.put x { g.members x with busy := some c' } with state := s }
  | returned {g : Group M S C} {x p : ℕ} {m : M} {messages todo : List M} {rest : List (Batch M)}
      {c : C} {s : S} (hb : (g.members x).batches = ⟨p, messages, m :: todo⟩ :: rest)
      (hbusy : (g.members x).busy = some c) (h : handler.returns c g.state s) :
      Step routed handler g (g.finish x p m (⟨p, messages, todo⟩ :: rest) s)
  | broken {g : Group M S C} {x : ℕ} {c : C} {s : S} (hbusy : (g.members x).busy = some c)
      (h : handler.breaks c g.state s) : Step routed handler g { g.leave x with state := s }
  | committed {g : Group M S C} {x p : ℕ} {messages : List M} {last : M} {rest : List (Batch M)}
      (hb : (g.members x).batches = ⟨p, messages, []⟩ :: rest)
      (hlast : messages.getLast? = some last) (howner : g.owner p = some x) :
      Step routed handler g { g.put x { g.members x with batches := rest } with
        committed := fun q => if q = p then offset last + 1 else g.committed q }
  | stopped {g : Group M S C} {x : ℕ} : Step routed handler g (g.leave x)

/-- The states of a group that starts on `s`. -/
inductive Reachable (routed : ℕ → M → Prop) (handler : Handler M S C) (s : S) :
    Group M S C → Prop
  | start : Reachable routed handler s (.start s)
  | step {g g' : Group M S C} (h : Reachable routed handler s g)
      (hs : Step offset routed handler g g') : Reachable routed handler s g'

/-! ### Offsets -/

/-- An offset of the log, or the next one. -/
def Bound (messages : List M) (n : ℕ) : Prop :=
  n = 0 ∨ ∃ m ∈ messages, n = offset m + 1

/-- What holds of a member that owns some partitions, where `P` is what becomes of a message. -/
structure MemberInv (handler : Handler M S C) (log : ℕ → List M) (owns : ℕ → Prop)
    (P : ℕ → M → Prop) (member : Member M C) : Prop where
  bound : ∀ p, owns p → Bound offset (log p) (member.position p)
  passed : ∀ p, owns p → ∀ m ∈ log p, offset m < member.position p →
    P p m ∨ ∃ b ∈ member.batches, b.partition = p ∧ m ∈ b.todo
  messages : ∀ b ∈ member.batches, ∀ m ∈ b.messages, m ∈ log b.partition
  sorted : ∀ b ∈ member.batches, b.messages.Pairwise fun m m' => offset m < offset m'
  isSuffix : ∀ b ∈ member.batches, b.todo <:+ b.messages
  read : ∀ b ∈ member.batches, ∀ last ∈ b.messages, ∀ m ∈ log b.partition,
    offset m ≤ offset last → m ∈ b.todo ∨ P b.partition m
  busy : ∀ c, member.busy = some c → ∃ p messages m todo rest,
    member.batches = ⟨p, messages, m :: todo⟩ :: rest ∧ handler.Under m c

structure Inv (handler : Handler M S C) (P : ℕ → M → Prop) (g : Group M S C) : Prop where
  sorted : ∀ p, (g.log p).Pairwise fun m m' => offset m < offset m'
  bound : ∀ p, Bound offset (g.log p) (g.committed p)
  below : ∀ p, ∀ m ∈ g.log p, offset m < g.committed p → P p m
  member : ∀ x, MemberInv offset handler g.log (fun p => g.owner p = some x) P (g.members x)

variable {offset} {routed : ℕ → M → Prop} {handler : Handler M S C} {P P' : ℕ → M → Prop}
  {g g' : Group M S C} {s : S} {x p : ℕ} {m : M} {log : ℕ → List M} {owns : ℕ → Prop}
  {member : Member M C}

/-- A new message is behind the bound. -/
lemma Bound.le {messages : List M} {n : ℕ} (h : Bound offset messages n)
    (hm : ∀ m' ∈ messages, offset m' < offset m) : n ≤ offset m := by
  rcases h with rfl | ⟨m', hm', rfl⟩
  · exact Nat.zero_le _
  · exact hm m' hm'

lemma Bound.append {messages : List M} {n : ℕ} (h : Bound offset messages n) (m : M) :
    Bound offset (messages ++ [m]) n := by
  refine h.imp id ?_
  rintro ⟨m', hm', rfl⟩
  exact ⟨m', List.mem_append_left _ hm', rfl⟩

@[simp] lemma publish_log_self (g : Group M S C) (p : ℕ) (m : M) :
    (g.publish p m).log p = g.log p ++ [m] :=
  if_pos rfl

lemma publish_log_of_ne {q : ℕ} (h : q ≠ p) (g : Group M S C) (m : M) :
    (g.publish p m).log q = g.log q :=
  if_neg h

/-- The position after a fetch is behind a batch, or as it was. -/
lemma advanced_cases {batches : List (Batch M)} {r : Reader M Unit}
    (h : Reader.Fetched offset r batches) (p : ℕ) :
    r.advanced offset batches p = r.position p ∨ ∃ b ∈ batches, ∃ last ∈ b.messages,
      b.partition = p ∧ r.advanced offset batches p = offset last + 1 := by
  cases hfind : batches.find? fun b => b.partition = p with
  | none => exact .inl (by simp [Reader.advanced, hfind])
  | some b =>
    have hmem := List.mem_of_find?_eq_some hfind
    have hp : b.partition = p := by simpa using List.find?_some hfind
    obtain ⟨last, hlast⟩ := Option.ne_none_iff_exists'.mp
      (mt List.getLast?_eq_none_iff.mp (h.nonempty b hmem))
    refine .inr ⟨b, hmem, last, List.mem_of_getLast? hlast, hp, ?_⟩
    simp [Reader.advanced, hfind, hlast]

/-- What comes up to a message of the batch is in the batch, or before it. -/
lemma mem_of_fetched {batches : List (Batch M)} {r : Reader M Unit}
    (h : Reader.Fetched offset r batches)
    (hsorted : ∀ p, (r.log p).Pairwise fun m m' => offset m < offset m') {b : Batch M}
    (hb : b ∈ batches) {last : M} (hlast : last ∈ b.messages) (hm : m ∈ r.log b.partition)
    (hle : offset m ≤ offset last) : offset m < r.position b.partition ∨ m ∈ b.todo := by
  by_cases hlt : offset m < r.position b.partition
  · exact .inl hlt
  · have hpending : m ∈ r.pending offset b.partition (r.position b.partition) :=
      List.mem_filter.mpr ⟨hm, decide_eq_true (Nat.le_of_not_lt hlt)⟩
    have hsorted' := (hsorted b.partition).filter fun m => r.position b.partition ≤ offset m
    obtain ⟨after, hafter⟩ := h.isPrefix b hb
    rw [← hafter] at hpending
    rw [Reader.pending] at hafter
    rw [← hafter] at hsorted'
    rw [h.todo_eq b hb]
    rcases List.mem_append.mp hpending with hmem | hmem
    · exact .inr hmem
    · have hgt := (List.pairwise_append.mp hsorted').2.2 last hlast m hmem
      omega

@[simp] lemma put_members_self (g : Group M S C) (x : ℕ) (member : Member M C) :
    (g.put x member).members x = member :=
  if_pos rfl

lemma put_members_of_ne {y : ℕ} (h : y ≠ x) (g : Group M S C) (member : Member M C) :
    (g.put x member).members y = g.members y :=
  if_neg h

lemma Finished.finish (g : Group M S C) (x p : ℕ) (m : M) (batches : List (Batch M)) (s : S) :
    Finished g x batches s (g.finish x p m batches s) where
  state := rfl
  log := rfl
  committed := rfl
  owner := rfl
  self := put_members_self _ _ _
  other _ hy := put_members_of_ne hy _ _

namespace MemberInv

lemma mono (h : MemberInv offset handler log owns P member) (hP : ∀ p m, P p m → P' p m) :
    MemberInv offset handler log owns P' member :=
  { h with
    passed := fun p hp m hm hlt => (h.passed p hp m hm hlt).imp (hP p m) id
    read := fun b hb last hlast m hm hle => (h.read b hb last hlast m hm hle).imp id (hP _ m) }

/-- A member that owns fewer partitions. -/
lemma disown (h : MemberInv offset handler log owns P member) {owns' : ℕ → Prop}
    (howns : ∀ p, owns' p → owns p) : MemberInv offset handler log owns' P member :=
  { h with
    bound := fun p hp => h.bound p (howns p hp)
    passed := fun p hp => h.passed p (howns p hp) }

lemma publish (h : MemberInv offset handler g.log owns P member)
    (hm : ∀ m' ∈ g.log p, offset m' < offset m) :
    MemberInv offset handler (g.publish p m).log owns P member where
  bound q hq := by
    by_cases heq : q = p
    · subst heq
      rw [publish_log_self]
      exact (h.bound q hq).append m
    · rw [publish_log_of_ne heq]
      exact h.bound q hq
  passed q hq m' hm' hlt := by
    by_cases heq : q = p
    · subst heq
      rw [publish_log_self] at hm'
      rcases List.mem_append.mp hm' with hold | hnew
      · exact h.passed q hq m' hold hlt
      · rw [List.mem_singleton.mp hnew] at hlt
        exact absurd hlt (Nat.not_lt_of_le ((h.bound q hq).le hm))
    · rw [publish_log_of_ne heq] at hm'
      exact h.passed q hq m' hm' hlt
  messages b hb m' hm' := by
    have hmem := h.messages b hb m' hm'
    by_cases heq : b.partition = p
    · rw [heq, publish_log_self, ← heq]
      exact List.mem_append_left _ hmem
    · rwa [publish_log_of_ne heq]
  sorted := h.sorted
  isSuffix := h.isSuffix
  read b hb last hlast m' hm' hle := by
    by_cases heq : b.partition = p
    · rw [heq, publish_log_self, ← heq] at hm'
      rcases List.mem_append.mp hm' with hold | hnew
      · exact h.read b hb last hlast m' hold hle
      · rw [List.mem_singleton.mp hnew] at hle
        have hlt := hm last (heq ▸ h.messages b hb last hlast)
        omega
    · rw [publish_log_of_ne heq] at hm'
      exact h.read b hb last hlast m' hm' hle
  busy := h.busy

/-- A member that has nothing to do. -/
lemma idle (hbound : ∀ p, owns p → Bound offset (log p) (member.position p))
    (hpassed : ∀ p, owns p → ∀ m ∈ log p, offset m < member.position p → P p m)
    (hbatches : member.batches = []) (hbusy : member.busy = none) :
    MemberInv offset handler log owns P member where
  bound := hbound
  passed p hp m hm hlt := .inl (hpassed p hp m hm hlt)
  messages b hb := by simp [hbatches] at hb
  sorted b hb := by simp [hbatches] at hb
  isSuffix b hb := by simp [hbatches] at hb
  read b hb := by simp [hbatches] at hb
  busy c hc := by simp [hbusy] at hc

lemma begin {messages todo : List M} {rest : List (Batch M)} {c : C}
    (h : MemberInv offset handler log owns P member)
    (hb : member.batches = ⟨p, messages, m :: todo⟩ :: rest) (hc : handler.begins m c) :
    MemberInv offset handler log owns P { member with busy := some c } where
  bound := h.bound
  passed := h.passed
  messages := h.messages
  sorted := h.sorted
  isSuffix := h.isSuffix
  read := h.read
  busy c' hc' := by
    cases hc'
    exact ⟨p, messages, m, todo, rest, hb, .begun hc⟩

lemma goOn {c c' : C} {s s' : S} (h : MemberInv offset handler log owns P member)
    (hbusy : member.busy = some c) (hs : handler.goesOn c s c' s') :
    MemberInv offset handler log owns P { member with busy := some c' } where
  bound := h.bound
  passed := h.passed
  messages := h.messages
  sorted := h.sorted
  isSuffix := h.isSuffix
  read := h.read
  busy c'' hc'' := by
    cases hc''
    obtain ⟨p, messages, m, todo, rest, hb, hunder⟩ := h.busy c hbusy
    exact ⟨p, messages, m, todo, rest, hb, hunder.wentOn hs⟩

/-- The message that has been handled is no longer to be done. -/
lemma handled {messages todo : List M} {rest : List (Batch M)}
    (h : MemberInv offset handler log owns P member)
    (hb : member.batches = ⟨p, messages, m :: todo⟩ :: rest) (hm : P p m) :
    MemberInv offset handler log owns P
      { member with batches := ⟨p, messages, todo⟩ :: rest, busy := none } := by
  have hfirst : (⟨p, messages, m :: todo⟩ : Batch M) ∈ member.batches := by simp [hb]
  have hrest : ∀ b ∈ rest, b ∈ member.batches := by
    intro b hmem
    simp [hb, hmem]
  refine ⟨h.bound, ?_, ?_, ?_, ?_, ?_, by simp⟩
  · intro q hq m' hm' hlt
    rcases h.passed q hq m' hm' hlt with hP | ⟨b, hmem, hq', htodo⟩
    · exact .inl hP
    · rw [hb] at hmem
      rcases List.mem_cons.mp hmem with rfl | hmem
      · rcases List.mem_cons.mp htodo with rfl | htodo
        · exact .inl (hq' ▸ hm)
        · exact .inr ⟨_, List.mem_cons_self, hq', htodo⟩
      · exact .inr ⟨b, List.mem_cons_of_mem _ hmem, hq', htodo⟩
  · intro b hmem
    rcases List.mem_cons.mp hmem with rfl | hmem
    · exact h.messages ⟨p, messages, m :: todo⟩ hfirst
    · exact h.messages b (hrest b hmem)
  · intro b hmem
    rcases List.mem_cons.mp hmem with rfl | hmem
    · exact h.sorted ⟨p, messages, m :: todo⟩ hfirst
    · exact h.sorted b (hrest b hmem)
  · intro b hmem
    rcases List.mem_cons.mp hmem with rfl | hmem
    · exact (List.suffix_cons m todo).trans (h.isSuffix _ hfirst)
    · exact h.isSuffix b (hrest b hmem)
  · intro b hmem last hlast m' hm' hle
    rcases List.mem_cons.mp hmem with rfl | hmem
    · rcases h.read _ hfirst last hlast m' hm' hle with htodo | hP
      · rcases List.mem_cons.mp htodo with rfl | htodo
        · exact .inr hm
        · exact .inl htodo
      · exact .inr hP
    · exact h.read b (hrest b hmem) last hlast m' hm' hle

/-- A batch that is done is dropped. -/
lemma drop {messages : List M} {rest : List (Batch M)}
    (h : MemberInv offset handler log owns P member)
    (hb : member.batches = ⟨p, messages, []⟩ :: rest) :
    MemberInv offset handler log owns P { member with batches := rest } := by
  have hrest : ∀ b ∈ rest, b ∈ member.batches := by
    intro b hmem
    simp [hb, hmem]
  refine ⟨h.bound, ?_, fun b hmem => h.messages b (hrest b hmem),
    fun b hmem => h.sorted b (hrest b hmem), fun b hmem => h.isSuffix b (hrest b hmem),
    fun b hmem => h.read b (hrest b hmem), ?_⟩
  · intro q hq m' hm' hlt
    refine (h.passed q hq m' hm' hlt).imp id ?_
    rintro ⟨b, hmem, hq', htodo⟩
    rw [hb] at hmem
    rcases List.mem_cons.mp hmem with rfl | hmem
    · cases htodo
    · exact ⟨b, hmem, hq', htodo⟩
  · intro c hc
    obtain ⟨p', messages', m', todo', rest', hb', -⟩ := h.busy c hc
    rw [hb] at hb'
    cases hb'

/-- A member with nothing to do fetches batches of partitions it owns. -/
lemma fetch {r : Reader M Unit} {batches : List (Batch M)}
    (h : MemberInv offset handler r.log owns P member)
    (hsorted : ∀ p, (r.log p).Pairwise fun m m' => offset m < offset m')
    (hidle : member.batches = []) (hposition : r.position = member.position)
    (hf : Reader.Fetched offset r batches) (howner : ∀ b ∈ batches, owns b.partition) :
    MemberInv offset handler r.log owns P
      { member with batches, position := r.advanced offset batches } := by
  have hmem : ∀ b ∈ batches, ∀ m ∈ b.messages, m ∈ r.log b.partition := fun b hb m hm =>
    (List.mem_filter.mp ((hf.isPrefix b hb).subset hm)).1
  -- what is below the position has been handled, as there is nothing to do
  have hbelow : ∀ p, owns p → ∀ m ∈ r.log p, offset m < r.position p → P p m := by
    intro p hp m hm hlt
    rw [hposition] at hlt
    rcases h.passed p hp m hm hlt with hP | ⟨b, hb, -⟩
    · exact hP
    · rw [hidle] at hb
      cases hb
  have hread : ∀ b ∈ batches, ∀ last ∈ b.messages, ∀ m ∈ r.log b.partition,
      offset m ≤ offset last → m ∈ b.todo ∨ P b.partition m := by
    intro b hb last hlast m hm hle
    rcases mem_of_fetched hf hsorted hb hlast hm hle with hlt | htodo
    · exact .inr (hbelow b.partition (howner b hb) m hm hlt)
    · exact .inl htodo
  refine ⟨?_, ?_, hmem, ?_, ?_, hread, ?_⟩
  · intro p hp
    show Bound offset (r.log p) (r.advanced offset batches p)
    rcases advanced_cases hf p with heq | ⟨b, hb, last, hlast, rfl, heq⟩
    · rw [heq, hposition]
      exact h.bound p hp
    · rw [heq]
      exact .inr ⟨last, hmem b hb last hlast, rfl⟩
  · intro p hp m hm hlt
    change offset m < r.advanced offset batches p at hlt
    rcases advanced_cases hf p with heq | ⟨b, hb, last, hlast, rfl, heq⟩
    · exact .inl (hbelow p hp m hm (heq ▸ hlt))
    · have hle : offset m ≤ offset last := by
        rw [heq] at hlt
        exact Nat.le_of_lt_succ hlt
      rcases hread b hb last hlast m hm hle with htodo | hP
      · exact .inr ⟨b, hb, rfl, htodo⟩
      · exact .inl hP
  · intro b hb
    exact ((hsorted b.partition).filter _).sublist (hf.isPrefix b hb).sublist
  · exact fun b hb => hf.todo_eq b hb ▸ List.suffix_rfl
  · intro c hc
    obtain ⟨p, messages, m, todo, rest, hb, -⟩ := h.busy c hc
    rw [hidle] at hb
    cases hb

end MemberInv

/-! ### The group -/

namespace Inv

lemma start (s : S) : Inv offset handler P (.start s) where
  sorted _ := .nil
  bound _ := .inl rfl
  below p m hm := by cases hm
  member x := .idle (fun p hp => by cases hp) (fun p hp => by cases hp) rfl rfl

lemma mono (h : Inv offset handler P g) (hP : ∀ p m, P p m → P' p m) : Inv offset handler P' g :=
  { h with
    below := fun p m hm hlt => hP p m (h.below p m hm hlt)
    member := fun x => (h.member x).mono hP }

lemma publish (h : Inv offset handler P g) (hm : ∀ m' ∈ g.log p, offset m' < offset m) :
    Inv offset handler P (g.publish p m) where
  sorted q := by
    by_cases heq : q = p
    · subst heq
      rw [publish_log_self]
      refine List.pairwise_append.mpr ⟨h.sorted q, List.pairwise_singleton _ _, ?_⟩
      intro m' hm' m'' hm''
      rw [List.mem_singleton.mp hm'']
      exact hm m' hm'
    · rw [publish_log_of_ne heq]
      exact h.sorted q
  bound q := by
    by_cases heq : q = p
    · subst heq
      rw [publish_log_self]
      exact (h.bound q).append m
    · rw [publish_log_of_ne heq]
      exact h.bound q
  below q m' hm' hlt := by
    by_cases heq : q = p
    · subst heq
      rw [publish_log_self] at hm'
      rcases List.mem_append.mp hm' with hold | hnew
      · exact h.below q m' hold hlt
      · rw [List.mem_singleton.mp hnew] at hlt
        exact absurd hlt (Nat.not_lt_of_le ((h.bound q).le hm))
    · rw [publish_log_of_ne heq] at hm'
      exact h.below q m' hm' hlt
  member x := (h.member x).publish hm

lemma put (h : Inv offset handler P g) {member : Member M C}
    (hmember : MemberInv offset handler g.log (fun p => g.owner p = some x) P member) :
    Inv offset handler P (g.put x member) where
  sorted := h.sorted
  bound := h.bound
  below := h.below
  member y := by
    by_cases heq : y = x
    · subst heq
      rw [put_members_self]
      exact hmember
    · rw [put_members_of_ne heq]
      exact h.member y

/-- Only the new owner of a partition has to know where to start. -/
lemma assign (h : Inv offset handler P g) {owner : ℕ → Option ℕ} {position : ℕ → ℕ → ℕ}
    (hassign : ∀ x p, owner p = some x → position x p = g.committed p ∨
      g.owner p = some x ∧ position x p = (g.members x).position p) :
    Inv offset handler P { g with
      owner
      members := fun x => { g.members x with position := position x } } where
  sorted := h.sorted
  bound := h.bound
  below := h.below
  member x := by
    obtain ⟨hbound, hpassed, hmessages, hsorted, hsuffix, hread, hbusy⟩ := h.member x
    refine ⟨?_, ?_, hmessages, hsorted, hsuffix, hread, hbusy⟩
    · intro p hp
      show Bound offset (g.log p) (position x p)
      rcases hassign x p hp with heq | ⟨hold, heq⟩
      · rw [heq]
        exact h.bound p
      · rw [heq]
        exact hbound p hold
    · intro p hp m hm hlt
      rcases hassign x p hp with heq | ⟨hold, heq⟩
      · exact .inl (h.below p m hm (heq ▸ hlt))
      · exact hpassed p hold m hm (heq ▸ hlt)

lemma leave (h : Inv offset handler P g) (x : ℕ) : Inv offset handler P (g.leave x) where
  sorted := h.sorted
  bound := h.bound
  below := h.below
  member y := by
    by_cases heq : y = x
    · subst heq
      refine .idle ?_ ?_ ?_ ?_
      · intro p hp
        simp only [Group.leave] at hp
        split_ifs at hp with hown
        exact absurd hp hown
      · intro p hp
        simp only [Group.leave] at hp
        split_ifs at hp with hown
        exact absurd hp hown
      · simp [Group.leave, Group.put]
      · simp [Group.leave, Group.put]
    · have howns : ∀ p, (g.leave x).owner p = some y → g.owner p = some y := by
        intro p hp
        simp only [Group.leave] at hp
        split_ifs at hp with hown
        exact hp
      simpa [Group.leave, Group.put, heq] using (h.member y).disown howns

/-- The owner of a partition commits the batch that is done. -/
lemma commit {messages : List M} {last : M} {rest : List (Batch M)} (h : Inv offset handler P g)
    (hb : (g.members x).batches = ⟨p, messages, []⟩ :: rest)
    (hlast : messages.getLast? = some last) :
    Inv offset handler P { g.put x { g.members x with batches := rest } with
      committed := fun q => if q = p then offset last + 1 else g.committed q } := by
  have hput := h.put ((h.member x).drop hb)
  have hfirst : (⟨p, messages, []⟩ : Batch M) ∈ (g.members x).batches := by simp [hb]
  have hmem : last ∈ messages := List.mem_of_getLast? hlast
  refine ⟨hput.sorted, ?_, ?_, hput.member⟩
  · intro q
    by_cases hq : q = p
    · subst hq
      exact .inr ⟨last, (h.member x).messages _ hfirst last hmem, by simp⟩
    · simpa [Group.put, hq] using h.bound q
  · intro q m hm hlt
    by_cases hq : q = p
    · subst hq
      have hle : offset m ≤ offset last := Nat.le_of_lt_succ (by simpa using hlt)
      rcases (h.member x).read _ hfirst last hmem m hm hle with htodo | hP
      · cases htodo
      · exact hP
    · exact h.below q m hm (by simpa [hq] using hlt)

/-- A step keeps what holds of the messages behind the group, if it holds of the message whose call
returns. -/
lemma step (h : Inv offset handler P g) (hs : Step offset routed handler g g')
    (hreturn : ∀ x p m c s batches, (∃ messages todo rest,
      (g.members x).batches = ⟨p, messages, m :: todo⟩ :: rest) → handler.Under m c →
      handler.returns c g.state s → g' = g.finish x p m batches s → P p m) :
    Inv offset handler P g' := by
  cases hs with
  | published _ hm => exact h.publish hm
  | assigned hassign => exact h.assign hassign
  | @fetched x batches hidle hf howner =>
    exact h.put ((h.member x).fetch h.sorted hidle rfl hf howner)
  | @began x p m messages todo rest c hb _ hbegin => exact h.put ((h.member x).begin hb hbegin)
  | @wentOn x c c' s hbusy hgo =>
    obtain ⟨hsorted, hbound, hbelow, hmember⟩ := h.put ((h.member x).goOn hbusy hgo)
    exact ⟨hsorted, hbound, hbelow, hmember⟩
  | @returned x p m messages todo rest c s hb hbusy hr =>
    obtain ⟨p', messages', m', todo', rest', hb', hunder⟩ := (h.member x).busy c hbusy
    rw [hb] at hb'
    cases hb'
    have hP : P p m := hreturn x p m c s _ ⟨messages, todo, rest, hb⟩ hunder hr rfl
    obtain ⟨hsorted, hbound, hbelow, hmember⟩ := h.put ((h.member x).handled hb hP)
    exact ⟨hsorted, hbound, hbelow, hmember⟩
  | @broken x c s _ _ =>
    obtain ⟨hsorted, hbound, hbelow, hmember⟩ := h.leave x
    exact ⟨hsorted, hbound, hbelow, hmember⟩
  | committed hb hlast _ => exact h.commit hb hlast
  | @stopped x => exact h.leave x

end Inv

/-- What every call that returns establishes, and every step keeps, holds behind the group. -/
theorem Reachable.inv {P : Group M S C → ℕ → M → Prop}
    (hreturn : ∀ g x p m c s' batches, Reachable offset routed handler s g →
      (∃ messages todo rest, (g.members x).batches = ⟨p, messages, m :: todo⟩ :: rest) →
      handler.Under m c → handler.returns c g.state s' → P (g.finish x p m batches s') p m)
    (hstep : ∀ g g' p m, Reachable offset routed handler s g →
      Step offset routed handler g g' → P g p m → P g' p m)
    (h : Reachable offset routed handler s g) : Inv offset handler (P g) g := by
  induction h with
  | start => exact .start s
  | @step g g' h hs ih =>
    refine (ih.mono fun p m => hstep g g' p m h hs).step hs ?_
    rintro x p m c s' batches hb hunder hr rfl
    exact hreturn g x p m c s' batches h hb hunder hr

/-- Every message before the one that is handled next is behind the group. -/
lemma Inv.earlier {messages todo : List M} {rest : List (Batch M)} {m' : M}
    (h : Inv offset handler P g) (hb : (g.members x).batches = ⟨p, messages, m :: todo⟩ :: rest)
    (hm' : m' ∈ g.log p) (hlt : offset m' < offset m) : P p m' := by
  have hfirst : (⟨p, messages, m :: todo⟩ : Batch M) ∈ (g.members x).batches := by simp [hb]
  have hsuffix := (h.member x).isSuffix _ hfirst
  have hmem : m ∈ messages := hsuffix.subset List.mem_cons_self
  rcases (h.member x).read _ hfirst m hmem m' hm' (Nat.le_of_lt hlt) with htodo | hP
  · -- what is left to do comes at `m` or behind it
    have hsorted := ((h.member x).sorted _ hfirst).sublist hsuffix.sublist
    rcases List.mem_cons.mp htodo with rfl | htodo
    · exact absurd hlt (Nat.lt_irrefl _)
    · have hgt := (List.pairwise_cons.mp hsorted).1 m' htodo
      omega
  · exact hP

end Group

end Transaction

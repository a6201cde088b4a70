import EventPipeline.Library.Program
import Mathlib.Data.Fintype.Basic
import Mathlib.Logic.Function.Basic

/-!
# Sessions that share a store

A store answers several sessions at once, one statement between two others. A statement looks at
the state before it writes, so that other sessions can come in between. What an open transaction has
written is seen by its own session alone until it commits. Meanwhile it holds the locks of its
writes, and a session whose statement is about to write under one of them waits.

A session follows its program alone as long as no other one commits (`Follows`). Where it still does
after a commit, the transactions might as well have been executed one after the other
(`Cluster.Reachable.inv`).
-/

namespace Transaction

variable {Op : Type} {Res : Op → Type} {S W T E X L α β ι : Type}

/-- How a store shared by sessions answers: what a statement finds when it looks at the state, and
what it writes on the state it meets afterwards. Writes that follow from alike findings are the
same. -/
structure Store (Op : Type) (Res : Op → Type) (S W T E L : Type) where
  Found : Op → Type
  look : (op : Op) → S → Except E (Found op)
  write : T → (op : Op) → Found op → S → Except E (Res op × List W)
  apply : S → W → S
  locks : W → List L
  Alike : {op : Op} → Found op → Found op → Prop
  alike_refl : ∀ {op} (found : Found op), Alike found found
  write_alike : ∀ {op} {found found' : Found op}, Alike found found' →
    ∀ t s, write t op found s = write t op found' s

namespace Store

variable (store : Store Op Res S W T E L)

/-- The store as one session alone sees it. -/
def engine : Engine Op Res S W T E where
  exec t op s := do
    let found ← store.look op s
    store.write t op found s
  apply := store.apply

/-- The locks a transaction holds for what it has written. -/
def held (ws : List W) : List L :=
  ws.flatMap store.locks

@[simp] lemma held_nil : store.held [] = [] := rfl

@[simp] lemma held_cons (w : W) (ws : List W) :
    store.held (w :: ws) = store.locks w ++ store.held ws := rfl

@[simp] lemma held_append (ws ws' : List W) :
    store.held (ws ++ ws') = store.held ws ++ store.held ws' :=
  List.flatMap_append

end Store

namespace Program

lemma bind_assoc {γ : Type} (p : Program Op Res E X α) (f : α → Program Op Res E X β)
    (g : β → Program Op Res E X γ) : p >>= f >>= g = p >>= fun a => f a >>= g := by
  induction p with
  | ret a => rfl
  | fail x => rfl
  | call op k ih => exact congrArg (Program.call op) (funext ih)

end Program

/-! ### Partial executions -/

section Partial

variable (eng : Engine Op Res S W T E) (disturbed : E → Prop)

/-- `Follows eng disturbed p s q ws`: alone from `s` on, `p` gets to `q` and has written `ws` by
then. The environment may raise the errors that are `disturbed`. -/
inductive Follows : Program Op Res E X α → S → Program Op Res E X α → List W → Prop
  | here (p : Program Op Res E X α) (s : S) : Follows p s p []
  | executed {t : T} {op : Op} {k : Except E (Res op) → Program Op Res E X α} {s : S} {r : Res op}
      {ws ws' : List W} {q : Program Op Res E X α} (he : eng.exec t op s = .ok (r, ws))
      (hk : Follows (k (.ok r)) (eng.applyAll s ws) q ws') : Follows (.call op k) s q (ws ++ ws')
  | raised {op : Op} {k : Except E (Res op) → Program Op Res E X α} {s : S} {e : E} {ws : List W}
      {q : Program Op Res E X α} (he : (∃ t, eng.exec t op s = .error e) ∨ disturbed e)
      (hk : Follows (k (.error e)) s q ws) : Follows (.call op k) s q ws

variable {eng} {disturbed} {p q : Program Op Res E X α} {s : S} {ws : List W}

namespace Follows

lemma trans {q' : Program Op Res E X α} {ws' : List W} (h : Follows eng disturbed p s q ws)
    (h' : Follows eng disturbed q (eng.applyAll s ws) q' ws') :
    Follows eng disturbed p s q' (ws ++ ws') := by
  induction h with
  | here => exact h'
  | executed he _ ih =>
    rw [List.append_assoc]
    refine .executed he (ih ?_)
    rwa [← eng.applyAll_append]
  | raised he _ ih => exact .raised he (ih h')

/-- One more statement. -/
lemma call {op : Op} {k : Except E (Res op) → Program Op Res E X α} {t : T} {r : Res op}
    {ws' : List W} (h : Follows eng disturbed p s (.call op k) ws)
    (he : eng.exec t op (eng.applyAll s ws) = .ok (r, ws')) :
    Follows eng disturbed p s (k (.ok r)) (ws ++ ws') := by
  have hstep : Follows eng disturbed (.call op k) (eng.applyAll s ws) (k (.ok r)) (ws' ++ []) :=
    .executed he (.here _ _)
  rw [List.append_nil] at hstep
  exact h.trans hstep

lemma fail {op : Op} {k : Except E (Res op) → Program Op Res E X α} {e : E}
    (h : Follows eng disturbed p s (.call op k) ws)
    (he : (∃ t, eng.exec t op (eng.applyAll s ws) = .error e) ∨ disturbed e) :
    Follows eng disturbed p s (k (.error e)) ws := by
  have hstep := h.trans (Follows.raised (k := k) he (.here _ _))
  rwa [List.append_nil] at hstep

end Follows

lemma follows_ret {a : α} : Follows eng disturbed (.ret a) s q ws ↔ q = .ret a ∧ ws = [] := by
  constructor
  · intro h
    cases h
    exact ⟨rfl, rfl⟩
  · rintro ⟨rfl, rfl⟩
    exact .here _ _

lemma follows_fail {x : X} :
    Follows eng disturbed (.fail x : Program Op Res E X α) s q ws ↔ q = .fail x ∧ ws = [] := by
  constructor
  · intro h
    cases h
    exact ⟨rfl, rfl⟩
  · rintro ⟨rfl, rfl⟩
    exact .here _ _

lemma Follows.runs {a : α} (h : Follows eng disturbed p s (.ret a) ws) :
    Runs eng p s a (eng.applyAll s ws) := by
  generalize hq : (.ret a : Program Op Res E X α) = q at h
  induction h with
  | here =>
    subst hq
    exact .ret _ _
  | executed he _ ih =>
    rw [eng.applyAll_append]
    exact .executed he (ih hq)
  | raised _ _ ih => exact .raised _ (ih hq)

/-- A composed program is still in its first part, or that has returned. -/
lemma follows_bind {p : Program Op Res E X α} {f : α → Program Op Res E X β}
    {q : Program Op Res E X β} (h : Follows eng disturbed (p >>= f) s q ws) :
    (∃ p', Follows eng disturbed p s p' ws ∧ q = p' >>= f) ∨
      ∃ a ws₁ ws₂, Follows eng disturbed p s (.ret a) ws₁ ∧
        Follows eng disturbed (f a) (eng.applyAll s ws₁) q ws₂ ∧ ws = ws₁ ++ ws₂ := by
  induction p generalizing s ws with
  | ret a => exact .inr ⟨a, [], ws, .here _ _, h, rfl⟩
  | fail x =>
    obtain ⟨rfl, rfl⟩ := follows_fail.mp h
    exact .inl ⟨.fail x, .here _ _, rfl⟩
  | call op k ih =>
    cases h with
    | here => exact .inl ⟨.call op k, .here _ _, rfl⟩
    | executed he hk =>
      rcases ih _ hk with ⟨p', hp, rfl⟩ | ⟨a, ws₁, ws₂, hp, hf, rfl⟩
      · exact .inl ⟨p', .executed he hp, rfl⟩
      · refine .inr ⟨a, _ ++ ws₁, ws₂, .executed he hp, ?_, (List.append_assoc _ _ _).symm⟩
        rwa [eng.applyAll_append]
    | raised he hk =>
      rcases ih _ hk with ⟨p', hp, rfl⟩ | ⟨a, ws₁, ws₂, hp, hf, rfl⟩
      · exact .inl ⟨p', .raised he hp, rfl⟩
      · exact .inr ⟨a, ws₁, ws₂, .raised he hp, hf, rfl⟩

/-- The first statement of a program that fails with it. -/
lemma follows_statement {wrap : E → X} {op : Op} {f : Res op → Program Op Res E X α}
    (h : Follows eng disturbed (Program.statement wrap op >>= f) s q ws) :
    (q = Program.statement wrap op >>= f ∧ ws = []) ∨
      (∃ t r ws₁ ws₂, eng.exec t op s = .ok (r, ws₁) ∧
        Follows eng disturbed (f r) (eng.applyAll s ws₁) q ws₂ ∧ ws = ws₁ ++ ws₂) ∨
      ∃ e, ((∃ t, eng.exec t op s = .error e) ∨ disturbed e) ∧ q = .fail (wrap e) ∧ ws = [] := by
  cases h with
  | here => exact .inl ⟨rfl, rfl⟩
  | executed he hk => exact .inr (.inl ⟨_, _, _, _, he, hk, rfl⟩)
  | raised he hk =>
    obtain ⟨rfl, rfl⟩ := follows_fail.mp hk
    exact .inr (.inr ⟨_, he, rfl, rfl⟩)

lemma Follows.callsOnly {Q : Op → Prop} (h : Follows eng disturbed p s q ws)
    (hp : p.CallsOnly Q) : q.CallsOnly Q := by
  induction h with
  | here => exact hp
  | executed _ _ ih => exact ih (hp.2 _)
  | raised _ _ ih => exact ih (hp.2 _)

lemma Program.run_congr {env env' : ℕ → Except E T} (p : Program Op Res E X α) {n : ℕ}
    (h : ∀ i, n ≤ i → env i = env' i) (s : S) : p.run eng env n s = p.run eng env' n s := by
  induction p generalizing n s with
  | ret a => rfl
  | fail x => rfl
  | call op k ih =>
    simp only [Program.run, h n (Nat.le_refl n)]
    exact ih _ (fun i hi => h i (Nat.le_of_succ_le hi)) _

/-- The conditions of one statement more. -/
lemma Program.run_update {env : ℕ → Except E T} {op : Op} {s s' s'' : S} {n m : ℕ}
    {k : Except E (Res op) → Program Op Res E X α} {answer : Except E (Res op)}
    {q : Program Op Res E X α} (x : Except E T) (hx : eng.answer x op s = (answer, s'))
    (hnm : n < m) (h : (k answer).run eng env (n + 1) s' = q.run eng env m s'') :
    (Program.call op k).run eng (Function.update env n x) n s =
      q.run eng (Function.update env n x) m s'' := by
  have hlater : ∀ i, n < i → Function.update env n x i = env i := fun i hi =>
    Function.update_of_ne hi.ne' _ _
  simp only [Program.run, Function.update_self, hx]
  rw [Program.run_congr _ hlater, h]
  exact (Program.run_congr _ (fun i hi => hlater i (hnm.trans_le hi)) _).symm

/-- What is followed statement by statement is executed under some conditions. -/
lemma Follows.run [Nonempty T] (h : Follows eng disturbed p s q ws) (n : ℕ) :
    ∃ m ≥ n, ∃ env : ℕ → Except E T, (∀ i e, env i = .error e → disturbed e) ∧
      p.run eng env n s = q.run eng env m (eng.applyAll s ws) := by
  induction h generalizing n with
  | here p s =>
    refine ⟨n, Nat.le_refl n, fun _ => .ok (Classical.arbitrary T), fun i e he => ?_, rfl⟩
    cases he
  | @executed t op k s r ws q ws' he hk ih =>
    obtain ⟨m, hm, env, henv, hrun⟩ := ih (n + 1)
    refine ⟨m, Nat.le_of_succ_le hm, Function.update env n (.ok t), fun i e hi => ?_, ?_⟩
    · rw [Function.update_apply] at hi
      split_ifs at hi
      exact henv i e hi
    · rw [eng.applyAll_append]
      exact Program.run_update _ (by simp only [Engine.answer, he]) hm hrun
  | @raised op k s e ws q he hk ih =>
    obtain ⟨m, hm, env, henv, hrun⟩ := ih (n + 1)
    rcases he with ⟨t, he⟩ | he
    · refine ⟨m, Nat.le_of_succ_le hm, Function.update env n (.ok t), fun i e' hi => ?_, ?_⟩
      · rw [Function.update_apply] at hi
        split_ifs at hi
        exact henv i e' hi
      · exact Program.run_update _ (by simp only [Engine.answer, he]) hm hrun
    · refine ⟨m, Nat.le_of_succ_le hm, Function.update env n (.error e), fun i e' hi => ?_, ?_⟩
      · rw [Function.update_apply] at hi
        split_ifs at hi
        · cases hi
          exact he
        · exact henv i e' hi
      · exact Program.run_update _ rfl hm hrun

end Partial

/-! ### Sessions -/

section Sessions

/-- Where a session is: at a statement of its program or its end, or between the two halves of a
statement, or done. -/
inductive Stage (store : Store Op Res S W T E L) (X α : Type)
  | running (p : Program Op Res E X α)
  | writing (op : Op) (found : store.Found op) (k : Except E (Res op) → Program Op Res E X α)
  | ended (result : Except X α)

structure Session (store : Store Op Res S W T E L) (X α : Type) where
  stage : Stage store X α
  /-- The writes of its open transaction. -/
  own : List W
  /-- The attempts that failed so far. -/
  failed : ℕ

/-- The committed state and the sessions that are open on it. -/
structure Cluster (store : Store Op Res S W T E L) (X α ι : Type) where
  committed : S
  sessions : ι → Session store X α

/-- What the sessions are there for: each executes its program in one transaction, which it repeats
at most `more` times where its error is worth it. -/
structure Clients (Op : Type) (Res : Op → Type) (E X α ι : Type) where
  program : ι → Program Op Res E X α
  disturbed : E → Prop
  again : X → Bool
  more : ℕ

variable {store : Store Op Res S W T E L}

namespace Cluster

variable [DecidableEq ι]

/-- What the session `i` sees. -/
def view (c : Cluster store X α ι) (i : ι) : S :=
  store.engine.applyAll c.committed (c.sessions i).own

def put (c : Cluster store X α ι) (i : ι) (session : Session store X α) : Cluster store X α ι :=
  { c with sessions := Function.update c.sessions i session }

/-- Another session holds a lock of these writes. -/
def Waits (c : Cluster store X α ι) (i : ι) (ws : List W) : Prop :=
  ∃ j ≠ i, ∃ lock ∈ store.held ws, lock ∈ store.held (c.sessions j).own

/-- The clients before their first statement. -/
def start (clients : Clients Op Res E X α ι) (s : S) : Cluster store X α ι :=
  ⟨s, fun i => ⟨.running (clients.program i), [], 0⟩⟩

/-- One step of the session `i`. -/
inductive Step (clients : Clients Op Res E X α ι) (i : ι) :
    Cluster store X α ι → Cluster store X α ι → Prop
  | looked {c : Cluster store X α ι} {op : Op} {k : Except E (Res op) → Program Op Res E X α}
      {found : store.Found op} (hstage : (c.sessions i).stage = .running (.call op k))
      (hlook : store.look op (c.view i) = .ok found) :
      Step clients i c (c.put i { c.sessions i with stage := .writing op found k })
  | unseen {c : Cluster store X α ι} {op : Op} {k : Except E (Res op) → Program Op Res E X α} {e : E}
      (hstage : (c.sessions i).stage = .running (.call op k))
      (hlook : store.look op (c.view i) = .error e) :
      Step clients i c (c.put i { c.sessions i with stage := .running (k (.error e)) })
  | wrote {c : Cluster store X α ι} {op : Op} {k : Except E (Res op) → Program Op Res E X α}
      {found : store.Found op} {t : T} {r : Res op} {ws : List W}
      (hstage : (c.sessions i).stage = .writing op found k)
      (hwrite : store.write t op found (c.view i) = .ok (r, ws)) (hfree : ¬ c.Waits i ws) :
      Step clients i c (c.put i { c.sessions i with
        stage := .running (k (.ok r))
        own := (c.sessions i).own ++ ws })
  | refused {c : Cluster store X α ι} {op : Op} {k : Except E (Res op) → Program Op Res E X α}
      {found : store.Found op} {t : T} {e : E}
      (hstage : (c.sessions i).stage = .writing op found k)
      (hwrite : store.write t op found (c.view i) = .error e) :
      Step clients i c (c.put i { c.sessions i with stage := .running (k (.error e)) })
  | disturbed {c : Cluster store X α ι} {op : Op} {k : Except E (Res op) → Program Op Res E X α} {e : E}
      (hstage : (c.sessions i).stage = .running (.call op k) ∨
        ∃ found, (c.sessions i).stage = .writing op found k) (he : clients.disturbed e) :
      Step clients i c (c.put i { c.sessions i with stage := .running (k (.error e)) })
  | committed {c : Cluster store X α ι} {a : α} (hstage : (c.sessions i).stage = .running (.ret a)) :
      Step clients i c ⟨c.view i, Function.update c.sessions i
        ⟨.ended (.ok a), [], (c.sessions i).failed⟩⟩
  | repeated {c : Cluster store X α ι} {x : X} (hstage : (c.sessions i).stage = .running (.fail x))
      (hx : clients.again x = true) (hn : (c.sessions i).failed < clients.more) :
      Step clients i c (c.put i ⟨.running (clients.program i), [], (c.sessions i).failed + 1⟩)
  | given_up {c : Cluster store X α ι} {x : X} (hstage : (c.sessions i).stage = .running (.fail x))
      (hlast : clients.again x = true → clients.more ≤ (c.sessions i).failed) :
      Step clients i c (c.put i ⟨.ended (.error x), [], (c.sessions i).failed⟩)

/-- The states the clients reach from `s`, where a session takes a step only if `allowed`. -/
inductive Reachable (clients : Clients Op Res E X α ι) (allowed : ι → Cluster store X α ι → Prop)
    (s : S) : Cluster store X α ι → Prop
  | start : Reachable clients allowed s (start clients s)
  | step {i : ι} {c c' : Cluster store X α ι} (h : Reachable clients allowed s c)
      (ha : allowed i c) (hs : Step clients i c c') : Reachable clients allowed s c'

end Cluster

/-! ### Serial orders -/

/-- The session has done what its program does alone from `s` on. -/
def Session.Tracks (disturbed : E → Prop) (p : Program Op Res E X α) (s : S)
    (session : Session store X α) : Prop :=
  match session.stage with
  | .running q => Follows store.engine disturbed p s q session.own
  | .writing op _ k => Follows store.engine disturbed p s (.call op k) session.own
  | .ended _ => session.own = []

/-- The transactions of the log, each executed alone on the state the earlier ones have left. -/
inductive Serial (eng : Engine Op Res S W T E) (clients : Clients Op Res E X α ι) (s : S) :
    List (ι × Except X α) → S → Prop
  | nil : Serial eng clients s [] s
  | committed {log : List (ι × Except X α)} {s' : S} {i : ι} {a : α} {ws : List W}
      (h : Serial eng clients s log s')
      (hp : Follows eng clients.disturbed (clients.program i) s' (.ret a) ws) :
      Serial eng clients s (log ++ [(i, .ok a)]) (eng.applyAll s' ws)
  | failed {log : List (ι × Except X α)} {s' : S} {i : ι} {x : X} {ws : List W}
      (h : Serial eng clients s log s')
      (hp : Follows eng clients.disturbed (clients.program i) s' (.fail x) ws) :
      Serial eng clients s (log ++ [(i, .error x)]) s'

lemma Serial.nil_eq {eng : Engine Op Res S W T E} {clients : Clients Op Res E X α ι} {s s' : S}
    (h : Serial eng clients s [] s') : s' = s := by
  generalize hlog : ([] : List (ι × Except X α)) = log at h
  cases h with
  | nil => rfl
  | _ => simp at hlog

namespace Cluster

variable {clients : Clients Op Res E X α ι} {s : S} {c c' : Cluster store X α ι} {i : ι}

/-- What has ended is what the log says, and every open session might have begun just now. -/
structure Inv (clients : Clients Op Res E X α ι) (s : S) (c : Cluster store X α ι) : Prop where
  tracks : ∀ i, (c.sessions i).Tracks clients.disturbed (clients.program i) c.committed
  apart : ∀ i j, i ≠ j → ∀ lock ∈ store.held (c.sessions i).own,
    lock ∉ store.held (c.sessions j).own
  serial : ∃ log, Serial store.engine clients s log c.committed ∧ (log.map Prod.fst).Nodup ∧
    ∀ i r, (i, r) ∈ log ↔ (c.sessions i).stage = .ended r

namespace Inv

lemma start : Inv clients s (Cluster.start clients s : Cluster store X α ι) where
  tracks i := .here _ _
  apart i j _ lock hlock := by
    cases hlock
  serial := ⟨[], .nil, List.nodup_nil, fun i r => by simp [Cluster.start]⟩

lemma tracks_view (h : Inv clients s c) {q : Program Op Res E X α}
    (hstage : (c.sessions i).stage = .running q) :
    Follows store.engine clients.disturbed (clients.program i) c.committed q (c.sessions i).own := by
  have htracks := h.tracks i
  simp only [Session.Tracks, hstage] at htracks
  exact htracks

lemma tracks_writing (h : Inv clients s c) {op : Op} {found : store.Found op}
    {k : Except E (Res op) → Program Op Res E X α}
    (hstage : (c.sessions i).stage = .writing op found k) :
    Follows store.engine clients.disturbed (clients.program i) c.committed (.call op k)
      (c.sessions i).own := by
  have htracks := h.tracks i
  simp only [Session.Tracks, hstage] at htracks
  exact htracks

/-- As long as no session has ended, nothing is committed. -/
lemma committed_eq (h : Inv clients s c) (hopen : ∀ i r, (c.sessions i).stage ≠ .ended r) :
    c.committed = s := by
  obtain ⟨log, hserial, -, hlog⟩ := h.serial
  obtain rfl : log = [] := List.eq_nil_iff_forall_not_mem.mpr fun e he =>
    hopen e.1 e.2 ((hlog _ _).mp he)
  exact hserial.nil_eq

end Inv

/-- What the session has found is like what it would find now. -/
def UpToDate (c : Cluster store X α ι) (i : ι) : Prop :=
  ∀ op found k, (c.sessions i).stage = .writing op found k →
    ∃ found', store.look op (c.view i) = .ok found' ∧ store.Alike found found'

/-- What is written is what the statement would write as a whole now. -/
lemma UpToDate.exec_eq (h : c.UpToDate i) {op : Op} {found : store.Found op}
    {k : Except E (Res op) → Program Op Res E X α}
    (hstage : (c.sessions i).stage = .writing op found k) (t : T) :
    store.engine.exec t op (c.view i) = store.write t op found (c.view i) := by
  obtain ⟨found', hlook, halike⟩ := h op found k hstage
  simp only [Store.engine, hlook]
  exact (store.write_alike halike t _).symm

variable [DecidableEq ι]

@[simp] lemma put_committed (session : Session store X α) : (c.put i session).committed = c.committed :=
  rfl

@[simp] lemma put_self (session : Session store X α) : (c.put i session).sessions i = session :=
  Function.update_self _ _ _

@[simp] lemma put_of_ne {j : ι} (h : j ≠ i) (session : Session store X α) :
    (c.put i session).sessions j = c.sessions j :=
  Function.update_of_ne h _ _

namespace Inv

/-- The locks after a step that takes those of `ws`. -/
lemma apart_put (h : Inv clients s c) {session : Session store X α} {ws : List W}
    (hown : ∀ lock ∈ store.held session.own,
      lock ∈ store.held (c.sessions i).own ∨ lock ∈ store.held ws)
    (hfree : ¬ c.Waits i ws) (j j' : ι) (hne : j ≠ j') :
    ∀ lock ∈ store.held ((c.put i session).sessions j).own,
      lock ∉ store.held ((c.put i session).sessions j').own := by
  intro lock hlock hlock'
  by_cases hj : j = i
  · subst hj
    rw [put_self] at hlock
    rw [put_of_ne hne.symm] at hlock'
    rcases hown lock hlock with hmem | hmem
    · exact h.apart j j' hne lock hmem hlock'
    · exact hfree ⟨j', hne.symm, lock, hmem, hlock'⟩
  · rw [put_of_ne hj] at hlock
    by_cases hj' : j' = i
    · subst hj'
      rw [put_self] at hlock'
      rcases hown lock hlock' with hmem | hmem
      · exact h.apart j j' hne lock hlock hmem
      · exact hfree ⟨j, hj, lock, hmem, hlock⟩
    · rw [put_of_ne hj'] at hlock'
      exact h.apart j j' hne lock hlock hlock'

/-- A session that stays open. -/
lemma put_open (h : Inv clients s c) {session : Session store X α} {ws : List W}
    (hopen : ∀ r, (c.sessions i).stage ≠ .ended r) (hopen' : ∀ r, session.stage ≠ .ended r)
    (htracks : session.Tracks clients.disturbed (clients.program i) c.committed)
    (hown : ∀ lock ∈ store.held session.own,
      lock ∈ store.held (c.sessions i).own ∨ lock ∈ store.held ws)
    (hfree : ¬ c.Waits i ws) : Inv clients s (c.put i session) where
  tracks j := by
    by_cases hj : j = i
    · subst hj
      rw [put_self]
      exact htracks
    · rw [put_of_ne hj]
      exact h.tracks j
  apart := h.apart_put hown hfree
  serial := by
    obtain ⟨log, hserial, hnodup, hlog⟩ := h.serial
    refine ⟨log, hserial, hnodup, fun j r => (hlog j r).trans ?_⟩
    by_cases hj : j = i
    · subst hj
      rw [put_self]
      exact iff_of_false (hopen r) (hopen' r)
    · rw [put_of_ne hj]

/-- A session that ends, here with its last entry of the log. -/
lemma log_ended {log : List (ι × Except X α)} {result : Except X α} {failed : ℕ}
    (hopen : ∀ r, (c.sessions i).stage ≠ .ended r) (hnodup : (log.map Prod.fst).Nodup)
    (hlog : ∀ j r, (j, r) ∈ log ↔ (c.sessions j).stage = .ended r) :
    ((log ++ [(i, result)]).map Prod.fst).Nodup ∧ ∀ j r, (j, r) ∈ log ++ [(i, result)] ↔
      (Function.update c.sessions i ⟨.ended result, [], failed⟩ j).stage = .ended r := by
  constructor
  · rw [List.map_append, List.map_singleton]
    refine List.nodup_append.mpr ⟨hnodup, List.nodup_singleton i, ?_⟩
    rintro j hj _ hi rfl
    obtain rfl := List.mem_singleton.mp hi
    obtain ⟨⟨_, r⟩, hmem, rfl⟩ := List.mem_map.mp hj
    exact hopen r ((hlog _ r).mp hmem)
  · intro j r
    rw [List.mem_append, hlog, List.mem_singleton, Prod.mk.injEq]
    by_cases hj : j = i
    · subst hj
      simp [hopen r, eq_comm]
    · simp [hj]

end Inv

/-- A step keeps the invariant, if a commit does not lead another session astray. -/
lemma Step.inv [Nonempty T] (hs : Step clients i c c') (h : Inv clients s c)
    (hcurrent : c.UpToDate i)
    (hstable : ∀ a, (c.sessions i).stage = .running (.ret a) → ∀ j ≠ i,
      (c.sessions j).Tracks clients.disturbed (clients.program j) c.committed →
      (c.sessions j).Tracks clients.disturbed (clients.program j) (c.view i)) :
    Inv clients s c' := by
  have hnone : ∀ c : Cluster store X α ι, ¬ c.Waits i [] := by
    rintro c ⟨j, -, lock, hlock, -⟩
    cases hlock
  have hsame : ∀ lock ∈ store.held (c.sessions i).own,
      lock ∈ store.held (c.sessions i).own ∨ lock ∈ store.held [] := fun _ h => .inl h
  cases hs with
  | looked hstage hlook =>
    have htracks := h.tracks_view hstage
    exact h.put_open (by simp [hstage]) (by simp) htracks hsame (hnone c)
  | unseen hstage hlook =>
    have htracks := h.tracks_view hstage
    refine h.put_open (by simp [hstage]) (by simp) ?_ hsame (hnone c)
    refine htracks.fail (.inl ⟨Classical.arbitrary T, ?_⟩)
    simp only [Store.engine]
    exact congrArg (· >>= _) hlook
  | @wrote op k found t r ws hstage hwrite hfree =>
    have htracks := h.tracks_writing hstage
    have hexec := (hcurrent.exec_eq hstage t).trans hwrite
    refine h.put_open (by simp [hstage]) (by simp) (htracks.call hexec) (fun lock hlock => ?_) hfree
    exact List.mem_append.mp (store.held_append _ _ ▸ hlock)
  | refused hstage hwrite =>
    have htracks := h.tracks_writing hstage
    refine h.put_open (by simp [hstage]) (by simp) ?_ hsame (hnone c)
    exact htracks.fail (.inl ⟨_, (hcurrent.exec_eq hstage _).trans hwrite⟩)
  | @disturbed op k e hstage he =>
    have htracks : Follows store.engine clients.disturbed (clients.program i) c.committed
        (.call op k) (c.sessions i).own := by
      rcases hstage with hstage | ⟨found, hstage⟩
      · exact h.tracks_view hstage
      · exact h.tracks_writing hstage
    refine h.put_open ?_ (by simp) (htracks.fail (.inr he)) hsame (hnone c)
    rcases hstage with hstage | ⟨found, hstage⟩ <;> simp [hstage]
  | committed hstage =>
    have htracks := h.tracks_view hstage
    have hopen : ∀ r, (c.sessions i).stage ≠ .ended r := by simp [hstage]
    obtain ⟨log, hserial, hnodup, hlog⟩ := h.serial
    obtain ⟨hnodup', hlog'⟩ := Inv.log_ended hopen hnodup hlog
    exact
      { tracks := fun j => by
          by_cases hj : j = i
          · subst hj
            simp only [Function.update_self]
            rfl
          · simp only [Function.update_of_ne hj]
            exact hstable _ hstage j hj (h.tracks j)
        apart := h.apart_put (fun lock hlock => by cases hlock) (hnone c)
        serial := ⟨_, hserial.committed htracks, hnodup', hlog'⟩ }
  | repeated hstage hx hn =>
    exact h.put_open (by simp [hstage]) (by simp) (.here _ _) (fun lock hlock => by cases hlock)
      (hnone c)
  | given_up hstage hlast =>
    have htracks := h.tracks_view hstage
    have hopen : ∀ r, (c.sessions i).stage ≠ .ended r := by simp [hstage]
    obtain ⟨log, hserial, hnodup, hlog⟩ := h.serial
    obtain ⟨hnodup', hlog'⟩ := Inv.log_ended hopen hnodup hlog
    exact
      { tracks := fun j => by
          by_cases hj : j = i
          · subst hj
            rw [put_self]
            rfl
          · rw [put_of_ne hj]
            exact h.tracks j
        apart := h.apart_put (fun lock hlock => by cases hlock) (hnone c)
        serial := ⟨_, hserial.failed htracks, hnodup', hlog'⟩ }

lemma Step.committed_cases (hs : Step clients i c c') : c'.committed = c.committed ∨
    ∃ a, (c.sessions i).stage = .running (.ret a) ∧ c'.committed = c.view i := by
  cases hs with
  | committed hstage => exact .inr ⟨_, hstage, rfl⟩
  | _ => exact .inl rfl

lemma Step.sessions_of_ne (hs : Step clients i c c') {j : ι} (h : j ≠ i) :
    c'.sessions j = c.sessions j := by
  cases hs with
  | committed => exact Function.update_of_ne h _ _
  | _ => exact put_of_ne h _

/-- A session that writes next has just looked. -/
lemma Step.look_eq (hs : Step clients i c c') {op : Op} {found : store.Found op}
    {k : Except E (Res op) → Program Op Res E X α}
    (hstage : (c'.sessions i).stage = .writing op found k) :
    store.look op (c'.view i) = .ok found := by
  cases hs with
  | looked _ hlook =>
    rw [put_self] at hstage
    cases hstage
    rw [view, put_self]
    exact hlook
  | committed => simp at hstage
  | _ => simp [put_self] at hstage

/-- In a run whose steps keep `J`, where `J` keeps the commits from leading other sessions astray
and the findings up to date, the transactions might as well have been executed one after the
other. -/
theorem Reachable.inv [Nonempty T] {allowed : ι → Cluster store X α ι → Prop}
    {J : Cluster store X α ι → Prop} (hstart : J (Cluster.start clients s))
    (hJ : ∀ i c c', J c → Inv clients s c → allowed i c → Step clients i c c' → J c')
    (hcurrent : ∀ i c, J c → Inv clients s c → allowed i c → c.UpToDate i)
    (hstable : ∀ i c a, J c → Inv clients s c → (c.sessions i).stage = .running (.ret a) →
      ∀ j ≠ i, (c.sessions j).Tracks clients.disturbed (clients.program j) c.committed →
        (c.sessions j).Tracks clients.disturbed (clients.program j) (c.view i))
    (h : Reachable clients allowed s c) : J c ∧ Inv clients s c := by
  induction h with
  | start => exact ⟨hstart, .start⟩
  | step _ ha hs ih =>
    obtain ⟨hJc, hinv⟩ := ih
    exact ⟨hJ _ _ _ hJc hinv ha hs, hs.inv hinv (hcurrent _ _ hJc hinv ha) (hstable _ _ · hJc hinv)⟩

/-! ### Computed steps -/

section Computed

variable [Fintype ι] [DecidableEq L]

instance (c : Cluster store X α ι) (i : ι) (ws : List W) : Decidable (c.Waits i ws) :=
  inferInstanceAs (Decidable
    (∃ j, j ≠ i ∧ ∃ lock ∈ store.held ws, lock ∈ store.held (c.sessions j).own))

/-- The step of the session `i` that nothing disturbs, under the conditions `t`; `none` where the
session waits or has ended. -/
def act (clients : Clients Op Res E X α ι) (i : ι) (t : T) (c : Cluster store X α ι) :
    Option (Cluster store X α ι) :=
  match (c.sessions i).stage with
  | .running (.call op k) =>
    match store.look op (c.view i) with
    | .ok found => some (c.put i { c.sessions i with stage := .writing op found k })
    | .error e => some (c.put i { c.sessions i with stage := .running (k (.error e)) })
  | .writing op found k =>
    match store.write t op found (c.view i) with
    | .ok (r, ws) =>
      if c.Waits i ws then none
      else some (c.put i { c.sessions i with
        stage := .running (k (.ok r))
        own := (c.sessions i).own ++ ws })
    | .error e => some (c.put i { c.sessions i with stage := .running (k (.error e)) })
  | .running (.ret a) =>
    some ⟨c.view i, Function.update c.sessions i ⟨.ended (.ok a), [], (c.sessions i).failed⟩⟩
  | .running (.fail x) =>
    if clients.again x = true ∧ (c.sessions i).failed < clients.more then
      some (c.put i ⟨.running (clients.program i), [], (c.sessions i).failed + 1⟩)
    else some (c.put i ⟨.ended (.error x), [], (c.sessions i).failed⟩)
  | .ended _ => none

lemma step_of_act {t : T} (h : act clients i t c = some c') : Step clients i c c' := by
  unfold act at h
  split at h
  · rename_i op k hstage
    split at h
    · rename_i found hlook
      cases h
      exact .looked hstage hlook
    · rename_i e hlook
      cases h
      exact .unseen hstage hlook
  · rename_i op found k hstage
    split at h
    · rename_i r ws hwrite
      split_ifs at h with hwaits
      cases h
      exact .wrote hstage hwrite hwaits
    · rename_i e hwrite
      cases h
      exact .refused hstage hwrite
  · rename_i a hstage
    cases h
    exact .committed hstage
  · rename_i x hstage
    split_ifs at h with hagain
    · cases h
      exact .repeated hstage hagain.1 hagain.2
    · cases h
      exact .given_up hstage fun hx => Nat.le_of_not_lt fun hn => hagain ⟨hx, hn⟩
  · cases h

/-- A run whose steps are `allowed`, with the turns of the sessions. -/
def acts (clients : Clients Op Res E X α ι) (allowed : ι → Cluster store X α ι → Prop)
    [∀ i c, Decidable (allowed i c)] :
    List (ι × T) → Cluster store X α ι → Option (Cluster store X α ι)
  | [], c => some c
  | (i, t) :: rest, c =>
    if allowed i c then (act clients i t c).bind (acts clients allowed rest) else none

lemma reachable_of_acts {allowed : ι → Cluster store X α ι → Prop}
    [∀ i c, Decidable (allowed i c)] {turns : List (ι × T)} (hc : Reachable clients allowed s c)
    (h : acts clients allowed turns c = some c') : Reachable clients allowed s c' := by
  induction turns generalizing c with
  | nil =>
    cases h
    exact hc
  | cons turn rest ih =>
    obtain ⟨i, t⟩ := turn
    simp only [acts] at h
    split_ifs at h with ha
    obtain ⟨c₁, hact, hrest⟩ := Option.bind_eq_some_iff.mp h
    exact ih (hc.step ha (step_of_act hact)) hrest

end Computed

end Cluster

end Sessions

end Transaction

import EventPipeline.Library.Group
import EventPipeline.Loop

/-!
# Replicas of the ingestion consumer

The consumer can be scaled: the replicas are one consumer group on the partitions of
`webhook-events`, and share the tables. A call of `handle_message` is made step by step, one attempt
of `_run_in_txn` after the other, so that the attempts of different replicas are interleaved; a
replica may lose a partition while it is busy with a batch of it, and it may die anywhere.

Whatever is below a committed offset is settled, and so is what comes before the message that a
replica is busy with (`settled_behind`). The tables are those of one consumer that handles the
messages of the ledger, each of them once and nothing going wrong (`serial_rebuild`).
-/

namespace EventPipeline

open Transaction

/-- Where a call of `handle_message` is. -/
inductive Handling
  | malformed (msg : Message) (e : PyError)
  | attempting (call : Call)

/-- A process that dies while it does what leads from `w₀` to `w₁` leaves some of it. -/
structure World.Partly (w₀ w₁ w : World) : Prop where
  db : w.db = w₀.db
  pipelineLog : w₀.pipelineLog <+: w.pipelineLog ∧ w.pipelineLog <+: w₁.pipelineLog
  reports : w₀.reports <+: w.reports ∧ w.reports <+: w₁.reports
  sent : w₀.sent <+: w.sent ∧ w.sent <+: w₁.sent
  counts : w₀.counts <+: w.counts ∧ w.counts <+: w₁.counts

namespace Handling

inductive Begins (ext : Externals) (msg : Message) : Handling → Prop
  | malformed {e : PyError} (h : decodeEvent ext msg.value = .error e) :
      Begins ext msg (.malformed msg e)
  | received {event eventId : Json} (h : decodeEvent ext msg.value = .ok (event, eventId)) :
      Begins ext msg (.attempting ⟨event, eventId, decodeEvent_eventId h, 0⟩)

/-- An attempt that is repeated. -/
inductive GoesOn (ext : Externals) : Handling → World → Handling → World → Prop
  | retried {w : World} {call : Call} {x : Exn} {db : Database} (env : Attempt)
      (h : runInTxn ext.sql env call.event call.eventId w.db = (.error x, db))
      (hx : x.isOperational = true) (hn : call.failed < 2) :
      GoesOn ext (.attempting call) w (.attempting call.again) { w with db }

/-- The call returns; its last attempt was `attended`. -/
inductive Returns (ext : Externals) (attended : Attempt → Call → Database → Prop) :
    Handling → World → World → Prop
  | malformed {w : World} {msg : Message} {e : PyError} (env : CallEnv) :
      Returns ext attended (.malformed msg e) w (w.malformed ext env msg e)
  | ended {w : World} {call : Call} {result : Except Exn (Option Outbox)} {db : Database}
      (env : CallEnv) (ha : attended (env.attempts call.failed) call w.db)
      (h : runInTxn ext.sql (env.attempts call.failed) call.event call.eventId w.db = (result, db))
      (hlast : ∀ x, result = .error x → x.isOperational = true → 2 ≤ call.failed)
      (hr : (conclude ext env call.event call.eventId result { w with db }).1 = .ok ()) :
      Returns ext attended (.attempting call) w
        (conclude ext env call.event call.eventId result { w with db }).2

/-- The call raises, or the process dies in it. -/
inductive Breaks (ext : Externals) : Handling → World → World → Prop
  | malformed {w w' : World} {msg : Message} {e : PyError} (env : CallEnv)
      (hw : World.Partly w (w.malformed ext env msg e) w') : Breaks ext (.malformed msg e) w w'
  | attempt {w : World} {call : Call} (env : Attempt) :
      Breaks ext (.attempting call) w
        { w with db := (runInTxn ext.sql env call.event call.eventId w.db).2 }
  | ended {w w' : World} {call : Call} {result : Except Exn (Option Outbox)} {db : Database}
      (env : CallEnv)
      (h : runInTxn ext.sql (env.attempts call.failed) call.event call.eventId w.db = (result, db))
      (hw : World.Partly { w with db }
        (conclude ext env call.event call.eventId result { w with db }).2 w') :
      Breaks ext (.attempting call) w w'

end Handling

/-- `handle_message`, step by step. -/
def handler (ext : Externals) (attended : Attempt → Call → Database → Prop) :
    Handler Message World Handling where
  begins := Handling.Begins ext
  goesOn := Handling.GoesOn ext
  returns := Handling.Returns ext attended
  breaks := Handling.Breaks ext

abbrev Replicas := Group Message World Handling

/-- The states of any number of replicas, whatever is published where `routed` allows it, if every
call that returns was `attended`. -/
def Replicas.Reachable (ext : Externals) (routed : ℕ → Message → Prop)
    (attended : Attempt → Call → Database → Prop) : Replicas → Prop :=
  Group.Reachable Message.offset routed (handler ext attended) .start

abbrev Replicas.Step (ext : Externals) (routed : ℕ → Message → Prop)
    (attended : Attempt → Call → Database → Prop) : Replicas → Replicas → Prop :=
  Group.Step Message.offset routed (handler ext attended)

variable {ext : Externals} {attended : Attempt → Call → Database → Prop}
  {routed : ℕ → Message → Prop} {g g' : Replicas} {w w' : World} {c c' : Handling} {msg : Message}
  {p : ℕ}

/-! ### What a call does to the tables -/

/-- The call is one of `handle_message` on the message. -/
def Handling.On (ext : Externals) (msg : Message) : Handling → Prop
  | .malformed msg' e => msg' = msg ∧ decodeEvent ext msg.value = .error e
  | .attempting call => decodeEvent ext msg.value = .ok (call.event, call.eventId)

lemma Handling.on_of_under (h : (handler ext attended).Under msg c) : c.On ext msg := by
  induction h with
  | begun h =>
    cases h with
    | malformed h => exact ⟨rfl, h⟩
    | received h => exact h
  | wentOn _ hs ih =>
    cases hs with
    | retried env h hx hn => exact ih

/-- The tables are left as they were, or as an attempt at the event of the message leaves them. -/
def Attempted (ext : Externals) (msg : Message) (db db' : Database) : Prop :=
  db' = db ∨ ∃ (env : Attempt) (event eventId : Json),
    decodeEvent ext msg.value = .ok (event, eventId) ∧
      db' = (runInTxn ext.sql env event eventId db).2

lemma Handling.GoesOn.attempted (h : GoesOn ext c w c' w') (hon : c.On ext msg) :
    Attempted ext msg w.db w'.db := by
  cases h with
  | retried env h hx hn => exact .inr ⟨env, _, _, hon, by rw [h]⟩

lemma Handling.Returns.attempted (h : Returns ext attended c w w') (hon : c.On ext msg) :
    Attempted ext msg w.db w'.db := by
  cases h with
  | malformed env => exact .inl rfl
  | ended env ha h hlast hr =>
    rw [conclude_db]
    exact .inr ⟨_, _, _, hon, by rw [h]⟩

lemma Handling.Breaks.attempted (h : Breaks ext c w w') (hon : c.On ext msg) :
    Attempted ext msg w.db w'.db := by
  cases h with
  | malformed env hw => exact .inl hw.db
  | attempt env => exact .inr ⟨env, _, _, hon, rfl⟩
  | ended env h hw =>
    rw [hw.db]
    exact .inr ⟨_, _, _, hon, by rw [h]⟩

lemma Attempted.preserves {I : Database → Prop} {db db' : Database}
    (h : Attempted ext msg db db') (hstep : ∀ event eventId outbox db',
      decodeEvent ext msg.value = .ok (event, eventId) →
      Runs ext.sql.engine (eventTxn event eventId) db outbox db' → I db') (hdb : I db) : I db' := by
  rcases h with rfl | ⟨env, event, eventId, hdec, rfl⟩
  · exact hdb
  · exact runInTxn_preserves (fun outbox db' hrun => hstep event eventId outbox db' hdec hrun) env hdb

lemma Attempted.later {db db' : Database} (h : Attempted ext msg db db')
    (hc : Consistent ext.sql db) : Consistent ext.sql db' ∧ Later ext.sql db db' :=
  h.preserves (I := fun db' => Consistent ext.sql db' ∧ Later ext.sql db db')
    (fun _ _ _ _ _ hrun => ⟨hc.step hrun, Later.of_runs hc hrun⟩) ⟨hc, .refl _ _⟩

/-! ### Runs of the group -/

namespace Replicas

/-- Where the replicas are, whatever becomes of the messages. -/
lemma Reachable.located (h : Reachable ext routed attended g) :
    Group.Inv Message.offset (handler ext attended) (fun _ _ => True) g :=
  Group.Reachable.inv (P := fun _ _ _ => True) (fun _ _ _ _ _ _ _ _ _ _ _ => trivial)
    (fun _ _ _ _ _ _ _ => trivial) h

lemma Step.log_mono (hs : Step ext routed attended g g') (hm : msg ∈ g.log p) : msg ∈ g'.log p := by
  cases hs with
  | @published q m hr hm' =>
    by_cases heq : p = q
    · subst heq
      rw [Group.publish_log_self]
      exact List.mem_append_left _ hm
    · rw [Group.publish_log_of_ne heq]
      exact hm
  | assigned => exact hm
  | fetched => exact hm
  | began => exact hm
  | wentOn => exact hm
  | returned => exact hm
  | broken => exact hm
  | committed => exact hm
  | stopped => exact hm

lemma Step.met_mono {r : ℕ × Message × World} (hs : Step ext routed attended g g')
    (hr : r ∈ g.met) : r ∈ g'.met := by
  cases hs with
  | returned => exact List.mem_append_left _ hr
  | published => exact hr
  | assigned => exact hr
  | fetched => exact hr
  | began => exact hr
  | wentOn => exact hr
  | broken => exact hr
  | committed => exact hr
  | stopped => exact hr

/-- A call is made on a message of the log. -/
lemma on_of_busy (hi : Group.Inv Message.offset (handler ext attended) (fun _ _ => True) g) {x : ℕ}
    (hbusy : (g.members x).busy = some c) : ∃ p msg, msg ∈ g.log p ∧ c.On ext msg := by
  obtain ⟨p, messages, m, todo, rest, hb, hunder⟩ := (hi.member x).busy c hbusy
  have hfirst : (⟨p, messages, m :: todo⟩ : Batch Message) ∈ (g.members x).batches := by simp [hb]
  have hmem := ((hi.member x).isSuffix _ hfirst).subset List.mem_cons_self
  exact ⟨p, m, (hi.member x).messages _ hfirst m hmem, Handling.on_of_under hunder⟩

/-- A step does to the tables what a call does that is made on a message of the log. -/
lemma Step.attempted (hi : Group.Inv Message.offset (handler ext attended) (fun _ _ => True) g)
    (hs : Step ext routed attended g g') :
    g'.state.db = g.state.db ∨
      ∃ p msg, msg ∈ g.log p ∧ Attempted ext msg g.state.db g'.state.db := by
  cases hs with
  | published => exact .inl rfl
  | assigned => exact .inl rfl
  | fetched => exact .inl rfl
  | began => exact .inl rfl
  | committed => exact .inl rfl
  | stopped => exact .inl rfl
  | wentOn hbusy h =>
    obtain ⟨p, msg, hmem, hon⟩ := on_of_busy hi hbusy
    exact .inr ⟨p, msg, hmem, Handling.GoesOn.attempted h hon⟩
  | returned hb hbusy h =>
    obtain ⟨p, msg, hmem, hon⟩ := on_of_busy hi hbusy
    exact .inr ⟨p, msg, hmem, Handling.Returns.attempted h hon⟩
  | broken hbusy h =>
    obtain ⟨p, msg, hmem, hon⟩ := on_of_busy hi hbusy
    exact .inr ⟨p, msg, hmem, Handling.Breaks.attempted h hon⟩

lemma Step.later (hi : Group.Inv Message.offset (handler ext attended) (fun _ _ => True) g)
    (hs : Step ext routed attended g g') (hc : Consistent ext.sql g.state.db) :
    Consistent ext.sql g'.state.db ∧ Later ext.sql g.state.db g'.state.db := by
  rcases hs.attempted hi with heq | ⟨p, msg, -, h⟩
  · rw [heq]
    exact ⟨hc, .refl _ _⟩
  · exact h.later hc

lemma Reachable.consistent (h : Reachable ext routed attended g) :
    Consistent ext.sql g.state.db := by
  induction h with
  | start => exact .empty _
  | step h hs ih => exact (Step.later (Reachable.located h) hs ih).1

/-! ### Calls that are not interrupted -/

section Uninterrupted

variable {env : CallEnv} {event eventId : Json} {hid : event.getItem "event_id" = .ok eventId}
  {x : ℕ} {messages todo batches : List Message} {rest : List (Batch Message)}

/-- The replica `x` is in a call, and has left `w` so far. -/
def busyWith (g : Replicas) (x : ℕ) (c : Handling) (w : World) : Replicas :=
  { g.put x { g.members x with busy := some c } with state := w }

@[simp] lemma busyWith_state (g : Replicas) (x : ℕ) (c : Handling) (w : World) :
    (busyWith g x c w).state = w := rfl

@[simp] lemma busyWith_self (g : Replicas) (x : ℕ) (c : Handling) (w : World) :
    (busyWith g x c w).members x = { g.members x with busy := some c } :=
  Group.put_members_self _ _ _

/-- It does not matter where in its call the replica was, nor what it had left. -/
lemma finished_of_busyWith {batches : List (Batch Message)} {w₁ w : World}
    (h : Group.Finished (busyWith g x c w₁) x batches w g') : Group.Finished g x batches w g' where
  state := h.state
  log := h.log
  committed := h.committed
  owner := h.owner
  self := by
    have hself := h.self
    rwa [busyWith_self] at hself
  other y hy := (h.other y hy).trans (Group.put_members_of_ne hy _ _)

/-- The call of the replica `x` on the message returns in `g`, and leaves `w`. -/
structure LastStep (ext : Externals) (routed : ℕ → Message → Prop)
    (attended : Attempt → Call → Database → Prop) (g : Replicas) (x p : ℕ) (msg : Message)
    (batches : List (Batch Message)) (w : World) : Prop where
  returns : ∃ c : Handling, c.On ext msg ∧ Handling.Returns ext attended c g.state w
  step : Step ext routed attended g (g.finish x p msg batches w)

lemma reaches_of_ended {i : ℕ} {result : Except Exn (Option Outbox)} {db : Database}
    (hdec : decodeEvent ext msg.value = .ok (event, eventId))
    (ha : ∀ i db, attended (env.attempts i) ⟨event, eventId, hid, i⟩ db)
    (hb : (g.members x).batches = ⟨p, messages, msg :: todo⟩ :: rest)
    (hbusy : (g.members x).busy = some (.attempting ⟨event, eventId, hid, i⟩))
    (h : runInTxn ext.sql (env.attempts i) event eventId g.state.db = (result, db))
    (hlast : ∀ x, result = .error x → x.isOperational = true → 2 ≤ i)
    (hr : (conclude ext env event eventId result { g.state with db }).1 = .ok ()) :
    LastStep ext routed attended g x p msg (⟨p, messages, todo⟩ :: rest)
      (conclude ext env event eventId result { g.state with db }).2 := by
  have hreturns : Handling.Returns ext attended (.attempting ⟨event, eventId, hid, i⟩) g.state
      (conclude ext env event eventId result { g.state with db }).2 :=
    .ended env (ha i g.state.db) h hlast hr
  exact ⟨⟨.attempting ⟨event, eventId, hid, i⟩, hdec, hreturns⟩, .returned hb hbusy hreturns⟩

lemma reaches_of_retry (hdec : decodeEvent ext msg.value = .ok (event, eventId))
    (ha : ∀ i db, attended (env.attempts i) ⟨event, eventId, hid, i⟩ db)
    {more i : ℕ} (hi : i + more = 2) {result : Except Exn (Option Outbox)} {db : Database}
    (hb : (g.members x).batches = ⟨p, messages, msg :: todo⟩ :: rest)
    (hbusy : (g.members x).busy = some (.attempting ⟨event, eventId, hid, i⟩))
    (h : retry Exn.isOperational (fun i => runInTxn ext.sql (env.attempts i) event eventId) more i
      g.state.db = (result, db))
    (hr : (conclude ext env event eventId result { g.state with db }).1 = .ok ()) :
    ∃ g₁ w, Relation.ReflTransGen (Step ext routed attended) g g₁ ∧
      w = (conclude ext env event eventId result { g.state with db }).2 ∧
      LastStep ext routed attended g₁ x p msg (⟨p, messages, todo⟩ :: rest) w ∧
      Group.Finished g x (⟨p, messages, todo⟩ :: rest) w
        (g₁.finish x p msg (⟨p, messages, todo⟩ :: rest) w) := by
  induction more generalizing i g with
  | zero =>
    exact ⟨g, _, .refl, rfl, reaches_of_ended hdec ha hb hbusy h (fun _ _ _ => by omega) hr,
      .finish g x p msg _ _⟩
  | succ more ih =>
    simp only [retry] at h
    split at h
    · rename_i e db₁ heq
      split_ifs at h with he
      · -- another attempt, in the state that this one left
        have hlt : i < 2 := by omega
        have hstep : Step ext routed attended g (busyWith g x
            (.attempting ⟨event, eventId, hid, i + 1⟩) { g.state with db := db₁ }) :=
          .wentOn hbusy (.retried (env.attempts i) heq he hlt)
        obtain ⟨g₁, w, hreach, rfl, hlast, hfinished⟩ := @ih (busyWith g x
          (.attempting ⟨event, eventId, hid, i + 1⟩) { g.state with db := db₁ }) (i + 1) (by omega)
          (by simpa using hb) (by simp) h hr
        exact ⟨g₁, _, .head hstep hreach, rfl, hlast, finished_of_busyWith hfinished⟩
      · cases h
        exact ⟨g, _, .refl, rfl, reaches_of_ended hdec ha hb hbusy heq
          (fun y hy hop => by cases hy; exact absurd hop he) hr, .finish g x p msg _ _⟩
    · rename_i a db₁ heq
      cases h
      exact ⟨g, _, .refl, rfl, reaches_of_ended hdec ha hb hbusy heq (fun y hy => by cases hy) hr,
        .finish g x p msg _ _⟩

/-- A call that no other call interrupts does what `handleMessage` does. -/
theorem handleMessage_reaches (env : CallEnv) (ha : ∀ i (call : Call) db,
      decodeEvent ext msg.value = .ok (call.event, call.eventId) →
        attended (env.attempts i) call db)
    (hb : (g.members x).batches = ⟨p, messages, msg :: todo⟩ :: rest)
    (hbusy : (g.members x).busy = none) (hr : (handleMessage ext env msg g.state).1 = .ok ()) :
    ∃ g₁ w, Relation.ReflTransGen (Step ext routed attended) g g₁ ∧
      w = (handleMessage ext env msg g.state).2 ∧
      LastStep ext routed attended g₁ x p msg (⟨p, messages, todo⟩ :: rest) w ∧
      Group.Finished g x (⟨p, messages, todo⟩ :: rest) w
        (g₁.finish x p msg (⟨p, messages, todo⟩ :: rest) w) := by
  have hbegin : ∀ c, Handling.Begins ext msg c →
      Step ext routed attended g (busyWith g x c g.state) := fun c hc => .began hb hbusy hc
  unfold handleMessage at hr ⊢
  cases hdec : decodeEvent ext msg.value with
  | error e =>
    have hreturns : Handling.Returns ext attended (.malformed msg e) g.state
        (g.state.malformed ext env msg e) := .malformed env
    refine ⟨busyWith g x (.malformed msg e) g.state, _, .single (hbegin _ (.malformed hdec)), rfl,
      ⟨⟨.malformed msg e, ⟨rfl, hdec⟩, hreturns⟩, .returned ?_ (by simp) hreturns⟩,
      finished_of_busyWith (.finish _ x p msg _ _)⟩
    simpa using hb
  | ok decoded =>
    obtain ⟨event, eventId⟩ := decoded
    simp only [hdec] at hr ⊢
    obtain ⟨g₁, w, hreach, rfl, hlast, hfinished⟩ := @reaches_of_retry ext attended routed
      (busyWith g x (.attempting ⟨event, eventId, decodeEvent_eventId hdec, 0⟩) g.state) msg p env
      event eventId (decodeEvent_eventId hdec) x messages todo rest hdec (fun i db => ha i _ db hdec)
      2 0 rfl _ _ (by simpa using hb) (by simp) rfl hr
    exact ⟨g₁, _, .head (hbegin _ (.received hdec)) hreach, rfl, hlast,
      finished_of_busyWith hfinished⟩

end Uninterrupted

end Replicas

/-! ### One replica -/

/-- Some messages in one partition, and nothing done. -/
def Replicas.published (msgs : List Message) : Replicas :=
  { (Group.start World.start : Replicas) with log := fun q => if q = 0 then msgs else [] }

namespace Replicas

lemma published_concat (msgs : List Message) (msg : Message) :
    published (msgs ++ [msg]) = (published msgs).publish 0 msg := by
  have hlog : (fun q => if q = 0 then msgs ++ [msg] else []) =
      ((published msgs).publish 0 msg).log := by
    funext q
    by_cases hq : q = 0
    · simp [hq, published]
    · rw [Group.publish_log_of_ne hq]
      simp [hq, published]
  exact congrArg (fun log => { (Group.start World.start : Replicas) with log }) hlog

lemma reachable_published {msgs : List Message}
    (hsorted : msgs.Pairwise fun m m' => m.offset < m'.offset)
    (hrouted : ∀ msg ∈ msgs, routed 0 msg) : Reachable ext routed attended (published msgs) := by
  induction msgs using List.reverseRecOn with
  | nil =>
    have hstart : published [] = .start .start := by simp [published, Group.start]
    rw [hstart]
    exact .start
  | append_singleton msgs msg ih =>
    obtain ⟨hold, -, hlast⟩ := List.pairwise_append.mp hsorted
    rw [published_concat]
    refine (ih hold fun m hm => hrouted m (List.mem_append_left _ hm)).step (.published ?_ ?_)
    · exact hrouted msg (List.mem_append_right _ (List.mem_singleton_self _))
    · exact fun m hm => hlast m hm msg (List.mem_singleton_self _)

lemma Reachable.trans (h : Reachable ext routed attended g)
    (hs : Relation.ReflTransGen (Step ext routed attended) g g') :
    Reachable ext routed attended g' := by
  induction hs with
  | refl => exact h
  | tail _ hstep ih => exact Group.Reachable.step ih hstep

lemma Reachable.of_calls {x : ℕ} {messages : List Message} {calls : List (CallEnv × Message)}
    (hg : Reachable ext routed attended g)
    (ha : ∀ call ∈ calls, ∀ i (c : Call) db, decodeEvent ext call.2.value = .ok (c.event, c.eventId) →
      attended (call.1.attempts i) c db)
    (hr : ∀ call ∈ calls, ∀ w, (handleMessage ext call.1 call.2 w).1 = .ok ())
    (hb : (g.members x).batches = [⟨p, messages, calls.map Prod.snd⟩])
    (hbusy : (g.members x).busy = none) :
    ∃ g', Reachable ext routed attended g' ∧
      Group.Finished g x [⟨p, messages, []⟩] (handleAll ext calls g.state) g' := by
  induction calls generalizing g with
  | nil =>
    refine ⟨g, hg, rfl, rfl, rfl, rfl, ?_, fun _ _ => rfl⟩
    rw [← hbusy, ← List.map_nil, ← hb]
  | cons call calls ih =>
    obtain ⟨hacall, hacalls⟩ := List.forall_mem_cons.mp ha
    obtain ⟨hrcall, hrcalls⟩ := List.forall_mem_cons.mp hr
    obtain ⟨g₁, w, hreach₁, hw, hlast₁, hfin₁⟩ :=
      handleMessage_reaches call.1 hacall hb hbusy (hrcall g.state)
    obtain ⟨g', hg', hfin'⟩ := ih (hg.trans (.tail hreach₁ hlast₁.step)) hacalls hrcalls
      (by rw [hfin₁.self]) (by rw [hfin₁.self])
    refine ⟨g', hg', ?_, hfin'.log.trans hfin₁.log,
      hfin'.committed.trans hfin₁.committed, hfin'.owner.trans hfin₁.owner, ?_, ?_⟩
    · rw [hfin'.state, hfin₁.state, hw, handleAll_cons]
    · rw [hfin'.self, hfin₁.self]
    · exact fun y hy => (hfin'.other y hy).trans (hfin₁.other y hy)

/-- A replica is assigned all partitions, and handles one of them from its committed offset on. -/
lemma Reachable.taken {x : ℕ} {calls : List (CallEnv × Message)}
    (hg : Reachable ext routed attended g) (hidle : (g.members x).batches = []) (hbusy : (g.members x).busy = none)
    (hpending : ((g.log p).filter fun m => g.committed p ≤ m.offset) = calls.map Prod.snd)
    (hne : calls ≠ [])
    (ha : ∀ call ∈ calls, ∀ i (c : Call) db, decodeEvent ext call.2.value = .ok (c.event, c.eventId) →
      attended (call.1.attempts i) c db)
    (hr : ∀ call ∈ calls, ∀ w, (handleMessage ext call.1 call.2 w).1 = .ok ()) :
    ∃ g' : Replicas, g'.Reachable ext routed attended ∧ g'.state = handleAll ext calls g.state ∧
      g'.log = g.log ∧ g'.committed = g.committed ∧ g'.owner p = some x ∧
      (g'.members x).batches = [⟨p, calls.map Prod.snd, []⟩] ∧ (g'.members x).busy = none ∧
      ∀ y, y ≠ x → (g'.members y).batches = (g.members y).batches ∧
        (g'.members y).busy = (g.members y).busy := by
  have hassigned := hg.step (@Group.Step.assigned _ _ _ _ _ _ _ (fun _ => some x)
    (fun _ => g.committed) fun _ _ _ => .inl rfl)
  have hfetched := hassigned.step (.fetched (x := x) hidle
    (show Reader.Fetched _ _ [⟨p, calls.map Prod.snd, calls.map Prod.snd⟩] from ?_) fun _ _ => rfl)
  · obtain ⟨g', hg', hfin⟩ := Reachable.of_calls (x := x) hfetched ha hr
      (by rw [Group.put_members_self]) (by rw [Group.put_members_self]; exact hbusy)
    refine ⟨g', hg', hfin.state, hfin.log, hfin.committed, congrFun hfin.owner p, ?_, ?_, ?_⟩
    · rw [hfin.self]
    · rw [hfin.self]
    · intro y hy
      rw [hfin.other y hy, Group.put_members_of_ne hy]
      exact ⟨rfl, rfl⟩
  · refine ⟨List.pairwise_singleton _ _, by simpa using hne, by simp, ?_⟩
    intro b hb
    rw [List.mem_singleton.mp hb]
    exact hpending ▸ List.prefix_rfl

/-- It commits what it has handled. -/
lemma Reachable.commits {x : ℕ} {messages : List Message} {last : Message}
    (hg : Reachable ext routed attended g) (hb : (g.members x).batches = [⟨p, messages, []⟩])
    (hlast : messages.getLast? = some last) (howner : g.owner p = some x) :
    ∃ g' : Replicas, g'.Reachable ext routed attended ∧ g'.state = g.state ∧ g'.log = g.log ∧
      (g'.committed = fun q => if q = p then last.offset + 1 else g.committed q) ∧
      ∀ y, (g'.members y).batches = (if y = x then [] else (g.members y).batches) ∧
        (g'.members y).busy = (g.members y).busy := by
  refine ⟨_, hg.step (.committed hb hlast howner), rfl, rfl, rfl, fun y => ?_⟩
  by_cases hy : y = x
  · subst hy
    simp
  · simp [hy, Group.put_members_of_ne hy]

/-- One replica handles some messages in one batch, and commits their offsets. -/
lemma exists_replicas {calls : List (CallEnv × Message)} {last : CallEnv × Message}
    (hsorted : (calls.map Prod.snd).Pairwise fun m m' => m.offset < m'.offset)
    (hlast : calls.getLast? = some last) (hrouted : ∀ call ∈ calls, routed 0 call.2)
    (ha : ∀ call ∈ calls, ∀ i (c : Call) db, decodeEvent ext call.2.value = .ok (c.event, c.eventId) →
      attended (call.1.attempts i) c db)
    (hr : ∀ call ∈ calls, ∀ w, (handleMessage ext call.1 call.2 w).1 = .ok ()) :
    ∃ g : Replicas, g.Reachable ext routed attended ∧ g.log 0 = calls.map Prod.snd ∧
      g.committed 0 = last.2.offset + 1 ∧ g.state = handleAll ext calls .start := by
  have hne : calls ≠ [] := by
    rintro rfl
    cases hlast
  have hpublished : Reachable ext routed attended (published (calls.map Prod.snd)) := by
    refine reachable_published hsorted fun msg hmsg => ?_
    obtain ⟨call, hcall, rfl⟩ := List.mem_map.mp hmsg
    exact hrouted call hcall
  obtain ⟨g, hg, hstate, hlog, -, howner, hbatches, -⟩ := hpublished.taken (x := 0) (p := 0) rfl rfl
    (by simp [published, Group.start]) hne ha hr
  have hmessage : (calls.map Prod.snd).getLast? = some last.2 := by
    rw [List.getLast?_map, hlast]
    rfl
  obtain ⟨g', hg', hstate', hlog', hcommitted', -⟩ := hg.commits hbatches hmessage howner
  exact ⟨g', hg', by rw [hlog', hlog]; rfl,
    (congrFun hcommitted' 0).trans (if_pos rfl),
    by rw [hstate', hstate]; rfl⟩

end Replicas

/-! ### Two replicas -/

namespace Replicas

/-- The calls on the messages of partition `p`: the order is in one, its payments in the other. -/
def paymentsOf (p : ℕ) : List (CallEnv × Message × Json × Json) :=
  if p = 0 then paymentCalls.take 1 else if p = 1 then paymentCalls.drop 1 else []

/-- The order is handled twice, and then the two payments. -/
def takenCalls : List (CallEnv × Message × Json × Json) :=
  paymentCalls.take 1 ++ paymentCalls

def sentCalls (calls : List (CallEnv × Message × Json × Json)) : List (CallEnv × Message) :=
  calls.map fun call => (call.1, call.2.1)

lemma handleMessage_payment : ∀ call ∈ sentCalls paymentCalls, call.1 = .healthy ∧
    ∀ w, (handleMessage paymentExternals call.1 call.2 w).1 = .ok () := by
  intro call hcall
  obtain ⟨c, hc, rfl⟩ := List.mem_map.mp hcall
  have htyped : c.1 = .healthy ∧ ∃ type, c.2.2.1.getItem "event_type" = .ok type := by
    simp only [paymentCalls, List.mem_cons, List.not_mem_nil, or_false] at hc
    rcases hc with rfl | rfl | rfl
    · exact ⟨rfl, _, rfl⟩
    · exact ⟨rfl, _, rfl⟩
    · exact ⟨rfl, _, rfl⟩
  obtain ⟨henv, type, htype⟩ := htyped
  exact ⟨henv, handleMessage_typed (decodeEvent_payment c hc) htype _⟩

lemma mem_payment {p : ℕ} {call : CallEnv × Message} (h : call ∈ sentCalls (paymentsOf p)) :
    call ∈ sentCalls paymentCalls := by
  obtain ⟨c, hc, rfl⟩ := List.mem_map.mp h
  refine List.mem_map_of_mem ?_
  simp only [paymentsOf] at hc
  split_ifs at hc
  · exact List.mem_of_mem_take hc
  · exact List.mem_of_mem_drop hc
  · cases hc

/-- A replica takes over a partition of the order or of its payments, and handles what is not below
its committed offset. -/
lemma Reachable.handled {x : ℕ} (hg : Reachable paymentExternals routed attended g)
    (ha : ∀ (call : Call) db, attended .healthy call db) (hp : p = 0 ∨ p = 1)
    (hidle : (g.members x).batches = []) (hbusy : (g.members x).busy = none)
    (hlog : g.log p = (sentCalls (paymentsOf p)).map Prod.snd) (hcommitted : g.committed p = 0) :
    ∃ g' : Replicas, g'.Reachable paymentExternals routed attended ∧
      g'.state = handleAll paymentExternals (sentCalls (paymentsOf p)) g.state ∧
      g'.log = g.log ∧ g'.committed = g.committed ∧ g'.owner p = some x ∧
      (g'.members x).batches = [⟨p, (sentCalls (paymentsOf p)).map Prod.snd, []⟩] ∧
      (g'.members x).busy = none ∧
      ∀ y, y ≠ x → (g'.members y).batches = (g.members y).batches ∧
        (g'.members y).busy = (g.members y).busy := by
  refine hg.taken hidle hbusy ?_ ?_ ?_ ?_
  · rw [hlog, hcommitted]
    simp
  · rcases hp with rfl | rfl <;> simp [sentCalls, paymentsOf, paymentCalls]
  · intro call hcall i c db _
    rw [(handleMessage_payment call (mem_payment hcall)).1]
    exact ha c db
  · exact fun call hcall => (handleMessage_payment call (mem_payment hcall)).2

/-- The order and the payments are published, and no replica has read them yet. -/
lemma exists_published (hrouted : ∀ call ∈ sentCalls paymentCalls, ∀ p, routed p call.2) :
    ∃ g : Replicas, g.Reachable paymentExternals routed attended ∧
      (∀ p, g.log p = (sentCalls (paymentsOf p)).map Prod.snd) ∧ (∀ p, g.committed p = 0) ∧
      (∀ x, (g.members x).batches = [] ∧ (g.members x).busy = none) ∧ g.state = .start := by
  have hsent : ∀ msg ∈ (sentCalls paymentCalls).map Prod.snd, ∀ p, routed p msg := by
    intro msg hmsg p
    obtain ⟨call, hcall, rfl⟩ := List.mem_map.mp hmsg
    exact hrouted call hcall p
  refine ⟨((published [sampleMessage]).publish 1 ⟨1, (paymentText "e2" "null" 10).toUTF8⟩).publish 1
    ⟨2, (paymentText "e3" "\"pix\"" 20).toUTF8⟩, ?_, fun p => ?_, ?_, ?_, rfl⟩
  · refine ((reachable_published (by simp) ?_).step (.published ?_ ?_)).step (.published ?_ ?_)
    · simpa using hsent _ List.mem_cons_self 0
    · exact hsent _ (List.mem_cons_of_mem _ List.mem_cons_self) 1
    · simp [published]
    · exact hsent _ (List.mem_cons_of_mem _ (List.mem_cons_of_mem _ List.mem_cons_self)) 1
    · simp [published]
  · by_cases hp : p = 0
    · simp [hp, Group.publish, published, sentCalls, paymentsOf, paymentCalls]
    · by_cases hp' : p = 1
      · simp [hp', Group.publish, published, sentCalls, paymentsOf, paymentCalls]
      · simp [hp, hp', Group.publish, published, sentCalls, paymentsOf]
  · simp [Group.publish, published, Group.start]
  · simp [Group.publish, published, Group.start]

/-- The replica that handles the order dies before it commits, and another one takes over the
partition; the first one is started anew, and handles the payments, which are in a partition of
their own. -/
lemma exists_two_replicas (ha : ∀ (call : Call) db, attended .healthy call db)
    (hrouted : ∀ call ∈ sentCalls paymentCalls, ∀ p, routed p call.2) :
    ∃ g : Replicas, g.Reachable paymentExternals routed attended ∧
      (∀ p, g.log p = (sentCalls (paymentsOf p)).map Prod.snd) ∧
      g.committed 0 = 1 ∧ g.committed 1 = 3 ∧
      g.state = handleAll paymentExternals (sentCalls takenCalls) .start := by
  obtain ⟨start, hreachable, hlog, hcommitted, hidle, hstart⟩ :=
    exists_published hrouted
  -- the first replica handles the order and dies
  obtain ⟨g₁, hg₁, hstate₁, hlog₁, hcommitted₁, -, -, -, hother₁⟩ :=
    hreachable.handled (x := 0) ha (.inl rfl) (hidle 0).1 (hidle 0).2 (hlog 0) (hcommitted 0)
  have hdead : Reachable paymentExternals routed attended (g₁.leave 0) := hg₁.step .stopped
  have hidle₁ : ∀ x, ((g₁.leave 0).members x).batches = [] ∧
      ((g₁.leave 0).members x).busy = none := by
    intro x
    by_cases hx : x = 0
    · simp [Group.leave, Group.put, hx]
    · simp [Group.leave, Group.put, hx, hother₁ x hx, hidle]
  -- the second one handles it again
  obtain ⟨g₂, hg₂, hstate₂, hlog₂, hcommitted₂, howner₂, hbatches₂, -, hother₂⟩ :=
    hdead.handled (x := 1) ha (.inl rfl) (hidle₁ 1).1 (hidle₁ 1).2
      ((congrFun hlog₁ 0).trans (hlog 0)) ((congrFun hcommitted₁ 0).trans (hcommitted 0))
  obtain ⟨g₃, hg₃, hstate₃, hlog₃, hcommitted₃, hmembers₃⟩ :=
    hg₂.commits hbatches₂ (show [sampleMessage].getLast? = some sampleMessage by rfl) howner₂
  have hcommitted₃₁ : g₃.committed 1 = 0 := by
    rw [hcommitted₃]
    exact (congrFun (hcommitted₂.trans hcommitted₁) 1).trans (hcommitted 1)
  have hlogs₃ : g₃.log = start.log := hlog₃.trans (hlog₂.trans hlog₁)
  have hidle₃ : (g₃.members 0).batches = [] ∧ (g₃.members 0).busy = none := by
    rw [(hmembers₃ 0).1, (hmembers₃ 0).2, (hother₂ 0 (by decide)).1, (hother₂ 0 (by decide)).2]
    exact ⟨(hidle₁ 0).1, (hidle₁ 0).2⟩
  obtain ⟨g₄, hg₄, hstate₄, hlog₄, hcommitted₄, howner₄, hbatches₄, -, -⟩ :=
    hg₃.handled (x := 0) ha (.inr rfl) hidle₃.1 hidle₃.2 ((congrFun hlogs₃ 1).trans (hlog 1))
      hcommitted₃₁
  obtain ⟨g₅, hg₅, hstate₅, hlog₅, hcommitted₅, -⟩ :=
    hg₄.commits hbatches₄ (List.getLast?_cons_cons.trans (List.getLast?_singleton ..)) howner₄
  refine ⟨g₅, hg₅, ?_, ?_, ?_, ?_⟩
  · intro p
    rw [hlog₅, hlog₄, hlogs₃]
    exact hlog p
  · rw [hcommitted₅, hcommitted₄, hcommitted₃]
    rfl
  · rw [hcommitted₅]
    rfl
  · have hleft : (g₁.leave 0).state = g₁.state := rfl
    rw [hstate₅, hstate₄, hstate₃, hstate₂, hleft, hstate₁, ← handleAll_append, ← handleAll_append]
    rw [hstart]
    rfl

end Replicas

/-! ### Behind the group -/

/-- The message has no event, or its event is in the ledger, or it was refused in a state that a
call on it met. -/
def Replicas.Settled (ext : Externals) (g : Replicas) (p : ℕ) (msg : Message) : Prop :=
  (∃ e, decodeEvent ext msg.value = .error e) ∨
    ∃ event eventId, decodeEvent ext msg.value = .ok (event, eventId) ∧
      (InLedger ext.sql eventId g.state.db ∨
        ∃ w, (p, msg, w) ∈ g.met ∧ Refused ext.sql event eventId w.db)

/-- The last attempt of the call completes, or finds the event in the ledger. -/
def Answered (ext : Externals) (env : Attempt) (call : Call) (db : Database) : Prop :=
  InLedger ext.sql call.eventId db ∨ env.Completes

namespace Replicas

lemma Settled.step (h : g.Settled ext p msg) (hg : Reachable ext routed attended g)
    (hs : Step ext routed attended g g') : g'.Settled ext p msg := by
  refine h.imp id ?_
  rintro ⟨event, eventId, hdec, hsettled⟩
  refine ⟨event, eventId, hdec, hsettled.imp ?_ ?_⟩
  · intro hledger
    exact hledger.later (Step.later hg.located hs hg.consistent).2
  · rintro ⟨w, hmet, hrefused⟩
    exact ⟨w, hs.met_mono hmet, hrefused⟩

/-- A call that returns settles its message. -/
lemma settled_of_returns {x : ℕ} {w : World} (batches : List (Batch Message))
    (hon : c.On ext msg) (h : Handling.Returns ext (Answered ext) c g.state w) :
    Settled ext (g.finish x p msg batches w) p msg := by
  cases h with
  | malformed env =>
    obtain ⟨rfl, hdec⟩ := hon
    exact .inl ⟨_, hdec⟩
  | @ended _ call result db env ha h hlast hr =>
    have hdec : decodeEvent ext msg.value = .ok (call.event, call.eventId) := hon
    have hdb : (runInTxn ext.sql (env.attempts call.failed) call.event call.eventId g.state.db).2 =
        db := congrArg Prod.snd h
    refine .inr ⟨_, _, hdec, ?_⟩
    show InLedger ext.sql call.eventId (conclude _ _ _ _ _ _).2.db ∨ _
    rw [conclude_db, ← hdb]
    rcases ha with hledger | hcompletes
    · exact .inl (hledger.runInTxn call.eventId_eq _)
    · refine (hcompletes.runInTxn call.eventId_eq).imp id fun hrefused => ⟨g.state, ?_, hrefused⟩
      exact List.mem_append_right _ (List.mem_singleton_self _)

lemma Reachable.settled (h : Reachable ext routed (Answered ext) g) :
    Group.Inv Message.offset (handler ext (Answered ext)) (g.Settled ext) g := by
  refine Group.Reachable.inv (P := Settled ext) ?_ ?_ h
  · intro g x p m c w batches _ _ hunder hr
    exact settled_of_returns batches (Handling.on_of_under hunder) hr
  · intro g g' p m hg hs hsettled
    exact hsettled.step hg hs

/-- However many replicas there are, however the partitions are assigned anew and wherever the
replicas die: every message below a committed offset is settled, and so is every message before the
one a replica is to handle, if the last attempts of the calls that returned were answered. -/
theorem settled_behind (ext : Externals) {g : Replicas}
    (h : Reachable ext (fun _ _ => True) (Answered ext) g) {p : ℕ} {msg : Message}
    (hmsg : msg ∈ g.log p) :
    (msg.offset < g.committed p → g.Settled ext p msg) ∧
      ∀ x messages m todo rest, (g.members x).batches = ⟨p, messages, m :: todo⟩ :: rest →
        msg.offset < m.offset → g.Settled ext p msg := by
  refine ⟨h.settled.below p msg hmsg, ?_⟩
  intro x messages m todo rest hb hlt
  exact h.settled.earlier hb hmsg hlt

/-- The order, which two replicas handled, and both payments, the first of which was refused. -/
theorem settled_behind_sample :
    ∃ g : Replicas, (∀ p, g.log p = (sentCalls (paymentsOf p)).map Prod.snd) ∧
      ∀ p, ∀ msg ∈ g.log p, msg.offset < g.committed p ∧ g.Settled paymentExternals p msg := by
  obtain ⟨g, hg, hlog, h₀, h₁, -⟩ := @exists_two_replicas (Answered paymentExternals)
    (fun _ _ => True) (fun _ _ => .inr Attempt.completes_healthy) fun _ _ _ => trivial
  refine ⟨g, hlog, fun p msg hmsg => ?_⟩
  have hlt : msg.offset < g.committed p := by
    rw [hlog] at hmsg
    by_cases hp : p = 0
    · subst hp
      rw [h₀, List.mem_singleton.mp hmsg]
      exact Nat.zero_lt_one
    · by_cases hp' : p = 1
      · subst hp'
        rw [h₁]
        simp [sentCalls, paymentsOf, paymentCalls] at hmsg
        rcases hmsg with rfl | rfl
        · exact (by decide : 1 < 3)
        · exact (by decide : 2 < 3)
      · simp [sentCalls, paymentsOf, hp, hp'] at hmsg
  exact ⟨hlt, (settled_behind paymentExternals hg hmsg).1 hlt⟩

end Replicas

/-! ### Where the tables come from -/

/-- The event of the message is claimed under the id. -/
def ClaimedUnder (ext : Externals) (msg : Message) (id : Varchar 100) : Prop :=
  ∃ event eventId, decodeEvent ext msg.value = .ok (event, eventId) ∧ ext.sql.TextOf eventId id

/-- The tables are what the messages `sources` of the log make of the empty schema, which are those
of the ledger, in its order. -/
structure Sourced (ext : Externals) (log : ℕ → List Message) (sources : List (ℕ × Message))
    (db : Database) : Prop where
  logged : ∀ source ∈ sources, source.2 ∈ log source.1
  claimed : List.Forall₂ (fun source id => ClaimedUnder ext source.2 id) sources
    (db.processedEvents.map (·.eventId))
  shop : db.shop = (sources.map Prod.snd).foldl (Shop.deliver ext) Database.empty.shop
  distinct : (sources.map fun source => source.2.value).Nodup

/-- A committed event is the last one of the ledger, and was not in it. -/
lemma ledger_of_runs {sql : SqlServer} {db db' : Database} {event eventId : Json}
    {outbox : Option Outbox} (hid : event.getItem "event_id" = .ok eventId)
    (h : Runs sql.engine (eventTxn event eventId) db outbox db') :
    ∃ id, sql.TextOf eventId id ∧ id ∉ db.processedEvents.map (·.eventId) ∧
      db'.processedEvents.map (·.eventId) = db.processedEvents.map (·.eventId) ++ [id] := by
  obtain ⟨id, eventType, data, row, db₁, now, hc, rfl⟩ := committed_of_runs h
  obtain rfl : eventId = id := Except.ok.inj (hid.symm.trans hc.eventId_eq)
  refine ⟨row.eventId, hc.claimed.eventId, ?_, ?_⟩
  · intro hmem
    obtain ⟨e, he, heq⟩ := List.mem_map.mp hmem
    have hfresh := hc.claimed.fresh e he
    rw [heq, sql.same_refl] at hfresh
    cases hfresh
  · have hmarked : ((db₁.marked sql eventId now).processedEvents.map fun e => e.eventId) =
        db₁.processedEvents.map fun e => e.eventId := by
      simp only [Database.marked, List.map_map]
      refine List.map_congr_left ?_
      intro e _
      simp only [Function.comp_apply]
      split_ifs <;> rfl
    rw [hmarked, hc.processed.processedEvents_eq, List.map_append]
    rfl

/-- An attempt that changes the tables does to the shop what its event says. -/
lemma shop_of_runInTxn {sql : SqlServer} {db : Database} {event eventId : Json} {env : Attempt}
    (hc : Consistent sql db) (hplain : PlainEvent event)
    (h : (runInTxn sql env event eventId db).2 ≠ db) :
    Shop.event sql event eventId db.shop = some (runInTxn sql env event eventId db).2.shop := by
  rcases runInTxn_run sql env event eventId db with heq | ⟨outbox, n, hrun⟩
  · exact absurd heq h
  · -- the statements that were answered were executed, so that the run is an undisturbed one
    obtain ⟨tick, htick⟩ : ∃ tick : ℕ → Tick, ∀ i t, env.statement i = .ok t → tick i = t := by
      refine ⟨fun i => (env.statement i).toOption.getD ⟨0, 0⟩, ?_⟩
      intro i t ht
      simp only [ht]
      rfl
    have hrun' := (raises_eventTxn event eventId).run_eq_ok htick hrun
    have hagree := @agree_eventTxn sql db tick 0 hc event eventId hplain
    cases hshop : Shop.event sql event eventId db.shop with
    | none =>
      obtain ⟨x, hx⟩ := hagree.of_none hshop
      rw [hrun'] at hx
      cases hx
    | some s =>
      obtain ⟨r, hr, hview⟩ := hagree.of_some hshop
      rw [hrun'] at hr
      cases hr
      exact congrArg some hview.symm

namespace Sourced

variable {log log' : ℕ → List Message} {sources : List (ℕ × Message)} {db db' : Database}

lemma empty (ext : Externals) (log : ℕ → List Message) : Sourced ext log [] .empty where
  logged source hs := by cases hs
  claimed := .nil
  shop := rfl
  distinct := .nil

lemma mono (h : Sourced ext log sources db) (hlog : ∀ p, ∀ m ∈ log p, m ∈ log' p) :
    Sourced ext log' sources db :=
  { h with logged := fun source hs => hlog source.1 source.2 (h.logged source hs) }

/-- Two messages with the same bytes are claimed under the same id. -/
lemma value_not_mem {id : Varchar 100} (h : Sourced ext log sources db)
    (hclaimed : ClaimedUnder ext msg id) (hfresh : id ∉ db.processedEvents.map (·.eventId)) :
    msg.value ∉ sources.map fun source => source.2.value := by
  intro hmem
  obtain ⟨source, hsource, hvalue⟩ := List.mem_map.mp hmem
  obtain ⟨id', hid', event, eventId, hdec, htext⟩ := exists_of_mem_left h.claimed hsource
  obtain ⟨event', eventId', hdec', htext'⟩ := hclaimed
  rw [← hvalue, hdec] at hdec'
  cases hdec'
  rw [ext.sql.textOf_unique htext' htext] at hfresh
  exact hfresh hid'

lemma step (h : Sourced ext log sources db) (hc : Consistent ext.sql db)
    (hmsg : msg ∈ log p) (hplain : msg.Plain ext) (ha : Attempted ext msg db db') :
    ∃ sources, Sourced ext log sources db' := by
  rcases ha with rfl | ⟨env, event, eventId, hdec, rfl⟩
  · exact ⟨sources, h⟩
  · by_cases heq : (runInTxn ext.sql env event eventId db).2 = db
    · rw [heq]
      exact ⟨sources, h⟩
    · have hshop := shop_of_runInTxn hc (hplain event eventId hdec) heq
      rcases runInTxn_db ext.sql env event eventId db with hsame | ⟨outbox, hrun⟩
      · exact absurd hsame heq
      · obtain ⟨id, htext, hfresh, hledger⟩ := ledger_of_runs (decodeEvent_eventId hdec) hrun
        have hclaimed : ClaimedUnder ext msg id := ⟨event, eventId, hdec, htext⟩
        refine ⟨sources ++ [(p, msg)], ?_, ?_, ?_, ?_⟩
        · intro source hsource
          rcases List.mem_append.mp hsource with hold | hnew
          · exact h.logged source hold
          · rw [List.mem_singleton.mp hnew]
            exact hmsg
        · rw [hledger]
          exact List.rel_append h.claimed (.cons hclaimed .nil)
        · rw [List.map_append, List.foldl_append, ← h.shop]
          simp only [List.map_cons, List.map_nil, List.foldl_cons, List.foldl_nil, Shop.deliver,
            hdec, hshop, Option.getD_some]
        · rw [List.map_append]
          exact h.distinct.append (List.nodup_singleton _) (by
            simpa using h.value_not_mem hclaimed hfresh)

end Sourced

namespace Replicas

lemma Reachable.routed_of_mem (h : Reachable ext routed attended g) (hm : msg ∈ g.log p) :
    routed p msg := by
  induction h with
  | start => cases hm
  | step _ hs ih =>
    cases hs with
    | @published q m hr _ =>
      by_cases heq : p = q
      · subst heq
        rw [Group.publish_log_self] at hm
        rcases List.mem_append.mp hm with hold | hnew
        · exact ih hold
        · rw [List.mem_singleton.mp hnew]
          exact hr
      · rw [Group.publish_log_of_ne heq] at hm
        exact ih hm
    | assigned => exact ih hm
    | fetched => exact ih hm
    | began => exact ih hm
    | wentOn => exact ih hm
    | returned => exact ih hm
    | broken => exact ih hm
    | committed => exact ih hm
    | stopped => exact ih hm

lemma Reachable.sourced (h : Reachable ext routed attended g)
    (hplain : ∀ p msg, routed p msg → msg.Plain ext) :
    ∃ sources, Sourced ext g.log sources g.state.db := by
  induction h with
  | start => exact ⟨[], .empty ext _⟩
  | @step g g' h hs ih =>
    obtain ⟨sources, hsourced⟩ := ih
    have hlog : ∀ p, ∀ m ∈ g.log p, m ∈ g'.log p := fun p m hm => Step.log_mono hs hm
    rcases Step.attempted (Reachable.located h) hs with heq | ⟨p, msg, hmsg, ha⟩
    · rw [heq]
      exact ⟨sources, hsourced.mono hlog⟩
    · have hp : msg.Plain ext := hplain p msg (Reachable.routed_of_mem h hmsg)
      obtain ⟨sources', h'⟩ := hsourced.step (Reachable.consistent h) hmsg hp ha
      exact ⟨sources', h'.mono hlog⟩

/-- However many replicas there are, however their attempts are interleaved, fail and are repeated,
and whatever is handled twice: some messages of the log, no two of them with the same bytes, are
those of the ledger, row by row, and one consumer that handles them from the empty schema, in this
order and nothing going wrong, gets the same tables, up to the surrogate keys and the clock. -/
theorem serial_rebuild (ext : Externals) {attended : Attempt → Call → Database → Prop}
    {g : Replicas} (h : Reachable ext (fun _ msg => msg.Plain ext) attended g) :
    ∃ sources : List (ℕ × Message), (∀ source ∈ sources, source.2 ∈ g.log source.1) ∧
      List.Forall₂ (fun source id => ClaimedUnder ext source.2 id) sources
        (g.state.db.processedEvents.map (·.eventId)) ∧
      (sources.map fun source => source.2.value).Nodup ∧
      ∀ calls : List (CallEnv × Message), calls.map Prod.snd = sources.map Prod.snd →
        (∀ call ∈ calls, call.1.Undisturbed) →
          (handleAll ext calls .start).db.shop = g.state.db.shop := by
  obtain ⟨sources, hsourced⟩ := h.sourced fun _ _ hplain => hplain
  refine ⟨sources, hsourced.logged, hsourced.claimed, hsourced.distinct, ?_⟩
  intro calls hcalls hu
  have hsmooth : Smooth ext calls := by
    intro call hcall
    have hmem : call.2 ∈ sources.map Prod.snd := hcalls ▸ List.mem_map_of_mem hcall
    obtain ⟨source, hsource, heq⟩ := List.mem_map.mp hmem
    have hplain := Reachable.routed_of_mem h (hsourced.logged source hsource)
    rw [heq] at hplain
    exact ⟨hu call hcall, hplain⟩
  rw [handleAll_shop (.empty _) hsmooth, hcalls]
  exact hsourced.shop.symm

/-- Two rows of the ledger stand for three messages and four calls. -/
theorem serial_rebuild_sample :
    ∃ (g : Replicas) (sources : List (ℕ × Message)), sources.length = 2 ∧
      (∀ source ∈ sources, source.2 ∈ g.log source.1) ∧
      (sources.map fun source => source.2.value).Nodup ∧
      (handleAll paymentExternals (sources.map fun source => (.healthy, source.2)) .start).db.shop =
        g.state.db.shop := by
  have hplain : ∀ call ∈ sentCalls paymentCalls, ∀ _ : ℕ, call.2.Plain paymentExternals :=
    fun call hcall _ => (smooth_payment call hcall).2
  obtain ⟨g, hg, -, -, -, hstate⟩ := @exists_two_replicas (fun _ _ _ => True)
    (fun _ msg => msg.Plain paymentExternals) (fun _ _ => trivial) hplain
  obtain ⟨sources, hlogged, hclaimed, hdistinct, hrebuild⟩ := serial_rebuild paymentExternals hg
  refine ⟨g, sources, ?_, hlogged, hdistinct, hrebuild _ (by simp) ?_⟩
  · have htaken : g.state.db = takenCalls.foldl (fun db call =>
        (runAttempts .plain call.1.attempts call.2.2.1 call.2.2.2 db).2) .empty := by
      rw [hstate]
      refine handleAll_db takenCalls (fun call hcall => decodeEvent_payment call ?_) .start
      exact (List.mem_append.mp hcall).elim List.mem_of_mem_take id
    have hledger : (takenCalls.foldl (fun db call => (runAttempts .plain call.1.attempts
        call.2.2.1 call.2.2.2 db).2) .empty).processedEvents.length = 2 := by decide
    rw [hclaimed.length_eq, List.length_map, htaken, hledger]
  · intro call hcall
    obtain ⟨source, -, rfl⟩ := List.mem_map.mp hcall
    exact CallEnv.undisturbed_healthy

end Replicas

end EventPipeline

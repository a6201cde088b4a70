import EventPipeline.Library.Reader
import EventPipeline.Outcomes
import EventPipeline.Redelivery

/-!
# The loop of the ingestion consumer

`main` reads `webhook-events` in batches, calls `handle_message` on every message, and commits
`messages[-1].offset + 1` whatever the calls came to. A message below the committed offset is in
the ledger or was refused, if no call gave it up for the errors of its environment alone
(`committed_settled`).
-/

namespace EventPipeline

open Transaction Reader

/-- What the loop leaves behind, and the messages that committed, in the order of their
commits. -/
structure Progress where
  world : World
  effects : List (ℕ × Message)

/-- The consumer of one process after the other. -/
abbrev Loop := Reader Message Progress

def Progress.start : Progress :=
  ⟨.start, []⟩

/-- A call of `handle_message` on a message of partition `p`. -/
def Progress.handle (s : Progress) (ext : Externals) (env : CallEnv) (p : ℕ) (msg : Message) :
    Progress :=
  let w := (handleMessage ext env msg s.world).2
  { world := w
    effects := if w.db = s.world.db then s.effects else s.effects ++ [(p, msg)] }

@[simp] lemma Progress.handle_world (s : Progress) (ext : Externals) (env : CallEnv) (p : ℕ)
    (msg : Message) : (s.handle ext env p msg).world = (handleMessage ext env msg s.world).2 := rfl

lemma Progress.handle_effects (s : Progress) (ext : Externals) (env : CallEnv) (p : ℕ)
    (msg : Message) : (s.handle ext env p msg).effects =
      if (handleMessage ext env msg s.world).2.db = s.world.db then s.effects
      else s.effects ++ [(p, msg)] := rfl

/-- The call returns. -/
def Returns (ext : Externals) (attended : CallEnv → Message → Database → Prop) (l : Loop)
    (p : ℕ) (msg : Message) (s : Progress) : Prop :=
  ∃ env, attended env msg l.state.world.db ∧ (handleMessage ext env msg l.state.world).1 = .ok () ∧
    s = l.state.handle ext env p msg

/-- The call raises, or the process dies in it. What it has done to the tables by then is what
some environment makes a whole call do. -/
def Breaks (ext : Externals) (l : Loop) (p : ℕ) (msg : Message) (s : Progress) : Prop :=
  ∃ env, s = l.state.handle ext env p msg

/-- The states of the loop, whatever is published where `routed` allows it, where a call is made
if `repeatable` holds, and returns if it was `attended`. -/
def Loop.Reachable (ext : Externals) (routed : ℕ → Message → Prop)
    (attended : CallEnv → Message → Database → Prop) (repeatable : Loop → ℕ → Message → Prop) :
    Loop → Prop :=
  Reader.Reachable Message.offset routed
    (fun l p msg s => repeatable l p msg ∧ Returns ext attended l p msg s)
    (fun l p msg s => repeatable l p msg ∧ Breaks ext l p msg s) .start

variable {ext : Externals} {sql : SqlServer} {db db' : Database} {event eventId : Json}
  {msg : Message} {env : CallEnv} {w : World}

/-! ### Giving a message up -/

/-- The transaction of the event fails although the environment raises no error. -/
def Refused (sql : SqlServer) (event eventId : Json) (db : Database) : Prop :=
  ∃ (tick : ℕ → Tick) (x : Exn),
    (eventTxn event eventId).run sql.engine (fun i => .ok (tick i)) 0 db = .error x

/-- The connection of an attempt opens, its statements are executed, and its COMMIT is
performed. -/
structure Attempt.Completes (env : Attempt) : Prop where
  begin_eq : env.begin = none
  executed : ∀ n, ∃ t, env.statement n = .ok t
  performed : ∀ e, env.commit ≠ .refused e

/-- The event of the message is in the ledger or refused, or one of the attempts made at it
completes. -/
def Attended (ext : Externals) (env : CallEnv) (msg : Message) (db : Database) : Prop :=
  ∀ event eventId, decodeEvent ext msg.value = .ok (event, eventId) →
    InLedger ext.sql eventId db ∨ Refused ext.sql event eventId db ∨
      ∃ i ≤ 2, ∃ db', Reaches Exn.isOperational
        (fun i => runInTxn ext.sql (env.attempts i) event eventId) 0 db i db' ∧
        (env.attempts i).Completes

/-- An attempt that completes commits the event or shows that it is refused. -/
lemma Attempt.Completes.runInTxn {env : Attempt} (hc : env.Completes)
    (hid : event.getItem "event_id" = .ok eventId) :
    InLedger sql eventId (runInTxn sql env event eventId db).2 ∨
      Refused sql event eventId db := by
  obtain ⟨tick, htick⟩ : ∃ tick : ℕ → Tick, env.statement = fun n => .ok (tick n) := by
    choose tick htick using hc.executed
    exact ⟨tick, funext htick⟩
  cases hrun : (eventTxn event eventId).run sql.engine env.statement 0 db with
  | error x =>
    rw [htick] at hrun
    exact .inr ⟨tick, x, hrun⟩
  | ok r =>
    obtain ⟨outbox, n, db'⟩ := r
    left
    have hledger : InLedger sql eventId db' := inLedger_of_runs hid (.of_run hrun)
    simp only [EventPipeline.runInTxn, hc.begin_eq, hrun]
    cases hcommit : env.commit with
    | acknowledged => exact hledger
    | refused e => exact absurd hcommit (hc.performed e)
    | lost e => exact hledger

/-- The attempts before one that is made left the state as it was, or committed. -/
lemma unchanged_of_reaches {attempts : ℕ → Attempt} {i : ℕ}
    (h : Reaches Exn.isOperational (fun i => runInTxn sql (attempts i) event eventId) 0 db i db')
    (hid : event.getItem "event_id" = .ok eventId) : db' = db ∨ InLedger sql eventId db' := by
  refine h.preserves (I := fun db' => db' = db ∨ InLedger sql eventId db') ?_ (.inl rfl)
  rintro j d (rfl | hledger)
  · refine (runInTxn_db sql (attempts j) event eventId d).imp id ?_
    rintro ⟨outbox, hrun⟩
    exact inLedger_of_runs hid hrun
  · exact .inr (hledger.runInTxn hid _)

/-- After an attended call the event is in the ledger, or it was refused. -/
lemma Attended.settles (h : Attended ext env msg w.db)
    (hdec : decodeEvent ext msg.value = .ok (event, eventId)) :
    InLedger ext.sql eventId (handleMessage ext env msg w).2.db ∨
      Refused ext.sql event eventId w.db := by
  have hid := decodeEvent_eventId hdec
  have hkept : ∀ i db, InLedger ext.sql eventId db →
      InLedger ext.sql eventId (runInTxn ext.sql (env.attempts i) event eventId db).2 :=
    fun i db hledger => hledger.runInTxn hid _
  rw [handleMessage_db hdec, runAttempts]
  rcases h event eventId hdec with hledger | hrefused | ⟨i, hi, db', hreach, hcompletes⟩
  · exact .inl (retry_preserves hkept 2 0 w.db hledger)
  · exact .inr hrefused
  · rw [hreach.retry_eq (by omega)]
    rcases unchanged_of_reaches hreach hid with rfl | hledger
    · exact hcompletes.runInTxn hid |>.imp (retry_preserves_first hkept _) id
    · exact .inl (retry_preserves hkept _ _ _ hledger)

/-! ### Runs of the loop -/

section Runs

variable {routed : ℕ → Message → Prop} {attended : CallEnv → Message → Database → Prop}
  {repeatable : Loop → ℕ → Message → Prop} {l l' : Loop}

/-- One step of the loop. -/
abbrev Loop.Step (ext : Externals) (routed : ℕ → Message → Prop)
    (attended : CallEnv → Message → Database → Prop) (repeatable : Loop → ℕ → Message → Prop) :
    Loop → Loop → Prop :=
  Reader.Step Message.offset routed
    (fun l p msg s => repeatable l p msg ∧ Returns ext attended l p msg s)
    (fun l p msg s => repeatable l p msg ∧ Breaks ext l p msg s)

/-- A step leaves the state alone, or is a call on the next message. -/
lemma Loop.Step.state_cases (h : Loop.Step ext routed attended repeatable l l') :
    l'.state = l.state ∨ ∃ p msg messages todo rest env,
      l.batches = ⟨p, messages, msg :: todo⟩ :: rest ∧ repeatable l p msg ∧
        l'.state = l.state.handle ext env p msg := by
  cases h with
  | @returned p msg messages todo rest _ hb hr =>
    obtain ⟨hrepeatable, env, -, -, rfl⟩ := hr
    exact .inr ⟨p, msg, messages, todo, rest, env, hb, hrepeatable, rfl⟩
  | @broken p msg messages todo rest _ hb hr =>
    obtain ⟨hrepeatable, env, rfl⟩ := hr
    exact .inr ⟨p, msg, messages, todo, rest, env, hb, hrepeatable, rfl⟩
  | published => exact .inl rfl
  | fetched => exact .inl rfl
  | committed => exact .inl rfl
  | stopped => exact .inl rfl

/-- A step leaves the tables in a later state. -/
lemma Loop.Step.later (h : Loop.Step ext routed attended repeatable l l')
    (hc : Consistent ext.sql l.state.world.db) :
    Consistent ext.sql l'.state.world.db ∧ Later ext.sql l.state.world.db l'.state.world.db := by
  rcases h.state_cases with heq | ⟨p, msg, _, _, _, env, -, -, heq⟩
  · rw [heq]
    exact ⟨hc, .refl _ _⟩
  · rw [heq]
    exact Later.handleMessage hc env msg

lemma Loop.Step.met (h : Loop.Step ext routed attended repeatable l l') {c : ℕ × Message × Progress}
    (hc : c ∈ l.met) : c ∈ l'.met := by
  cases h with
  | returned => exact List.mem_append_left _ hc
  | broken => exact List.mem_append_left _ hc
  | published => exact hc
  | fetched => exact hc
  | committed => exact hc
  | stopped => exact hc

lemma Loop.Reachable.consistent (h : Loop.Reachable ext routed attended repeatable l) :
    Consistent ext.sql l.state.world.db := by
  induction h with
  | start => exact .empty _
  | step _ hs ih => exact (Loop.Step.later hs ih).1

end Runs

/-! ### Below the committed offset -/

/-- The message has no event, or its event is in the ledger, or it was refused in a state it met. -/
def Settled (ext : Externals) (l : Loop) (p : ℕ) (msg : Message) : Prop :=
  (∃ e, decodeEvent ext msg.value = .error e) ∨
    ∃ event eventId, decodeEvent ext msg.value = .ok (event, eventId) ∧
      (InLedger ext.sql eventId l.state.world.db ∨
        ∃ s, (p, msg, s) ∈ l.met ∧ Refused ext.sql event eventId s.world.db)

section Behind

variable {routed : ℕ → Message → Prop} {attended : CallEnv → Message → Database → Prop}
  {repeatable : Loop → ℕ → Message → Prop} {l l' : Loop} {p : ℕ}

lemma Settled.step (h : Settled ext l p msg) (hc : Consistent ext.sql l.state.world.db)
    (hs : Loop.Step ext routed attended repeatable l l') : Settled ext l' p msg := by
  refine h.imp id ?_
  rintro ⟨event, eventId, hdec, hsettled⟩
  refine ⟨event, eventId, hdec, hsettled.imp ?_ ?_⟩
  · exact fun hledger => hledger.later (Loop.Step.later hs hc).2
  · rintro ⟨s, hmet, hrefused⟩
    exact ⟨s, Loop.Step.met hs hmet, hrefused⟩

/-- What is behind the loop is settled, where the calls that returned were attended. -/
lemma Loop.Reachable.settled (h : Loop.Reachable ext routed attended repeatable l)
    {Q : Message → Prop} (ha : ∀ env msg db, Q msg → attended env msg db → Attended ext env msg db)
    (hbehind : Behind Message.offset l p msg) (hq : Q msg) : Settled ext l p msg := by
  refine Reader.Reachable.behind (P := fun l p msg => Q msg → Settled ext l p msg) ?_ ?_ h
    hbehind hq
  · rintro l p msg s batches hl ⟨-, env, hattended, -, rfl⟩ hq
    cases hdec : decodeEvent ext msg.value with
    | error e => exact .inl ⟨e, hdec⟩
    | ok decoded =>
      obtain ⟨event, eventId⟩ := decoded
      refine .inr ⟨event, eventId, hdec, ?_⟩
      refine ((ha env msg _ hq hattended).settles hdec).imp id fun hrefused => ⟨l.state, ?_, hrefused⟩
      exact List.mem_append_right _ (List.mem_singleton_self _)
  · exact fun l l' p msg hl hs hsettled hq => (hsettled hq).step (Loop.Reachable.consistent hl) hs

end Behind

/-- Every message below a committed offset is settled, whatever the batches, the crashes and the
errors of the database, if every call that returned was attended. -/
theorem committed_settled (ext : Externals) {l : Loop}
    (h : Loop.Reachable ext (fun _ _ => True) (Attended ext) (fun _ _ _ => True) l) {p : ℕ}
    {msg : Message} (hmsg : msg ∈ l.log p) (hoffset : msg.offset < l.committed p) :
    Settled ext l p msg :=
  h.settled (Q := fun _ => True) (fun _ _ _ _ ha => ha) (.inl ⟨hmsg, hoffset⟩) trivial

/-! ### One message -/

lemma handleMessage_typed {eventType : Json}
    (hdec : decodeEvent ext msg.value = .ok (event, eventId))
    (htype : event.getItem "event_type" = .ok eventType) (env : CallEnv) (w : World) :
    (handleMessage ext env msg w).1 = .ok () := by
  simp only [handleMessage, hdec]
  exact (conclude_returns _ _ _ _ _ _).mpr (.inl fun huntyped => huntyped _ htype)

/-- All of a partition in one batch. -/
lemma fetched_all {l : Loop} {p : ℕ} (hne : l.log p ≠ []) (hposition : l.position p = 0) :
    Fetched Message.offset l [⟨p, l.log p, l.log p⟩] := by
  refine ⟨List.pairwise_singleton _ _, ?_, ?_, ?_⟩
  · simpa using hne
  · simp
  · simp [pending, hposition]

/-- A message alone in its partition, handled in one call, and its offset committed. -/
lemma reachable_one {attended : CallEnv → Message → Database → Prop} (hoffset : msg.offset = 0)
    (ha : attended env msg .empty) (hreturns : (handleMessage ext env msg .start).1 = .ok ()) :
    ∃ l : Loop, Loop.Reachable ext (fun _ _ => True) attended (fun _ _ _ => True) l ∧
      l.log 0 = [msg] ∧ l.committed 0 = 1 ∧ l.state = Progress.start.handle ext env 0 msg ∧
      l.met = [(0, msg, .start)] := by
  obtain ⟨l₁, hl₁⟩ : ∃ l : Loop, l = (Reader.start .start).publish 0 msg := ⟨_, rfl⟩
  have hlog : l₁.log 0 = [msg] := by rw [hl₁]; rfl
  have hr₁ : Loop.Reachable ext (fun _ _ => True) attended (fun _ _ _ => True) l₁ := by
    rw [hl₁]
    exact .step .start (.published trivial (by simp [Reader.start]))
  have hfetched := @fetched_all l₁ 0 (by simp [hlog]) (by rw [hl₁]; rfl)
  rw [hlog] at hfetched
  have hreturned : Returns ext attended (l₁.fetch Message.offset [⟨0, [msg], [msg]⟩]) 0 msg
      (Progress.start.handle ext env 0 msg) := by
    rw [hl₁]
    exact ⟨env, ha, hreturns, rfl⟩
  refine ⟨_, .step (.step (.step hr₁ (.fetched (by rw [hl₁]; rfl) hfetched))
    (.returned rfl ⟨trivial, hreturned⟩)) (.committed rfl rfl), hlog, ?_, rfl, ?_⟩
  · simp [Reader.commit, Reader.call, Reader.fetch, hoffset]
  · rw [hl₁]
    rfl

lemma Attempt.completes_healthy : Attempt.healthy.Completes :=
  ⟨rfl, fun n => ⟨⟨n, 0⟩, rfl⟩, fun e => by simp [Attempt.healthy]⟩

lemma attended_healthy (ext : Externals) (msg : Message) (db : Database) :
    Attended ext .healthy msg db := fun _ _ _ =>
  .inr (.inr ⟨0, by decide, db, .here _ _, Attempt.completes_healthy⟩)

/-- The sample order, handled while nothing goes wrong. -/
theorem committed_settled_sample :
    ∃ l : Loop, sampleMessage ∈ l.log 0 ∧ sampleMessage.offset < l.committed 0 ∧
      Settled sampleExternals l 0 sampleMessage := by
  obtain ⟨l, hl, hlog, hcommitted, -, -⟩ := @reachable_one sampleExternals sampleMessage .healthy
    (Attended sampleExternals) rfl (attended_healthy _ _ _)
    (handleMessage_typed decodeEvent_sample rfl _ _)
  have hmem : sampleMessage ∈ l.log 0 := by simp [hlog]
  have hlt : sampleMessage.offset < l.committed 0 := by
    rw [hcommitted]
    exact Nat.zero_lt_one
  exact ⟨l, hmem, hlt, committed_settled sampleExternals hl hmem hlt⟩

/-- The sample order is accepted by the empty database. -/
lemma sample_not_refused : ¬ Refused sampleExternals.sql sampleOrder (.str "e1") .empty := by
  rintro ⟨tick, x, hrun⟩
  have hsome : (Shop.event .plain sampleOrder (.str "e1") Database.empty.shop).isSome = true := by
    decide
  obtain ⟨s, hs⟩ := Option.isSome_iff_exists.mp hsome
  have hagree := @agree_eventTxn sampleExternals.sql .empty tick 0 (.empty _) sampleOrder
    (.str "e1") plainEvent_sample
  obtain ⟨r, hr, -⟩ := hagree.of_some hs
  rw [hrun] at hr
  cases hr

/-- While no connection can be opened, the sample order is given up, and its offset committed:
it is neither in the ledger nor refused. -/
theorem outage_skips :
    ∃ l : Loop, Loop.Reachable sampleExternals (fun _ _ => True) (fun _ _ _ => True)
        (fun _ _ _ => True) l ∧
      sampleMessage ∈ l.log 0 ∧ sampleMessage.offset < l.committed 0 ∧
      ¬ Settled sampleExternals l 0 sampleMessage := by
  obtain ⟨l, hl, hlog, hcommitted, hstate, hmet⟩ := @reachable_one sampleExternals sampleMessage
    .refused (fun _ _ _ => True) rfl trivial (handleMessage_typed decodeEvent_sample rfl _ _)
  refine ⟨l, hl, by simp [hlog], by rw [hcommitted]; exact Nat.zero_lt_one, ?_⟩
  have hempty : (runAttempts .plain CallEnv.refused.attempts sampleOrder (.str "e1") .empty).2 =
      .empty := by decide
  have hdb : l.state.world.db = .empty := by
    rw [hstate, Progress.handle_world, handleMessage_db decodeEvent_sample]
    exact hempty
  rintro (⟨e, hdec⟩ | ⟨event, eventId, hdec, hledger | ⟨s, hs, hrefused⟩⟩)
  · rw [decodeEvent_sample] at hdec
    cases hdec
  · rw [hdb] at hledger
    obtain ⟨row, hrow, -⟩ := hledger
    cases hrow
  · rw [decodeEvent_sample] at hdec
    cases hdec
    rw [hmet] at hs
    obtain rfl : s = .start := by simpa using hs
    exact sample_not_refused hrefused

end EventPipeline

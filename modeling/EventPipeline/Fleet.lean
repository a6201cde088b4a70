import EventPipeline.Effects
import Mathlib.Logic.Relation

/-!
# Any number of consumers

Transactions are atomic, so a run of several consumers is an interleaving of the attempts of
their calls of `handle_message`: a call is received, each of its attempts runs on the state
the other calls have left, and the last one concludes it. `handleMessage_reaches` shows that a
call that is not interrupted does what `handleMessage` does.

What every committed transaction preserves holds in every reachable state
(`Fleet.Reachable.db_invariant`).
-/

namespace EventPipeline

open Transaction

/-- A call of `handle_message` past its decoding, with the attempts that failed so far. -/
structure Call where
  event : Json
  eventId : Json
  eventId_eq : event.getItem "event_id" = .ok eventId
  failed : ℕ

/-- The same call after an attempt to be repeated. -/
def Call.again (call : Call) : Call :=
  { call with failed := call.failed + 1 }

lemma decodeEvent_eventId {ext : Externals} {value : ByteArray} {event eventId : Json}
    (h : decodeEvent ext value = .ok (event, eventId)) :
    event.getItem "event_id" = .ok eventId := by
  simp only [decodeEvent, bind_eq_ok, Except.ok.injEq, Prod.mk.injEq] at h
  obtain ⟨_, -, _, hid, rfl, rfl⟩ := h
  exact hid

structure Fleet where
  world : World
  calls : List Call

namespace Fleet

/-- One step of some consumer. An attempt is made where `allowed` holds of the state it meets
and of the call. -/
inductive Step (ext : Externals) (allowed : Database → Call → Prop) : Fleet → Fleet → Prop
  | malformed {w : World} {calls : List Call} {msg : Message} {e : PyError} (env : CallEnv)
      (h : decodeEvent ext msg.value = .error e) :
      Step ext allowed ⟨w, calls⟩ ⟨w.malformed ext env msg e, calls⟩
  | received {w : World} {calls : List Call} {msg : Message} {event eventId : Json}
      (h : decodeEvent ext msg.value = .ok (event, eventId)) :
      Step ext allowed ⟨w, calls⟩ ⟨w, calls ++ [⟨event, eventId, decodeEvent_eventId h, 0⟩]⟩
  | retried {w : World} {before after : List Call} {call : Call} {x : Exn} {db : Database}
      (env : Attempt) (ha : allowed w.db call)
      (h : runInTxn ext.sql env call.event call.eventId w.db = (.error x, db))
      (hx : x.isOperational = true) (hn : call.failed < 2) :
      Step ext allowed ⟨w, before ++ call :: after⟩
        ⟨{ w with db }, before ++ call.again :: after⟩
  | ended {w : World} {before after : List Call} {call : Call}
      {result : Except Exn (Option Outbox)} {db : Database} (env : CallEnv)
      (ha : allowed w.db call)
      (h : runInTxn ext.sql (env.attempts call.failed) call.event call.eventId w.db =
        (result, db))
      (hlast : ∀ x, result = .error x → x.isOperational = true → 2 ≤ call.failed) :
      Step ext allowed ⟨w, before ++ call :: after⟩
        ⟨(conclude ext env call.event call.eventId result { w with db }).2, before ++ after⟩

/-- The states of any number of consumers that start on the empty schema. -/
inductive Reachable (ext : Externals) (allowed : Database → Call → Prop) : Fleet → Prop
  | start : Reachable ext allowed ⟨.start, []⟩
  | step {f f' : Fleet} (h : Reachable ext allowed f) (hs : Step ext allowed f f') :
      Reachable ext allowed f'

end Fleet

/-! ### Failing statements -/

section Raises

open Prog

lemma raises_eval {α : Type} (r : Except PyError α) : (eval r).Raises := by
  cases r <;> trivial

lemma raises_first {α : Type} (column : String) (rows : List α) : (first column rows).Raises := by
  cases rows <;> trivial

lemma raises_claimEvent (eventId eventType : Json) : (claimEvent eventId eventType).Raises := by
  refine ⟨fun e => ?_, fun r => ?_⟩
  · by_cases he : e.cls = .integrity
    · exact ⟨.duplicateEvent eventId, if_pos he⟩
    · exact ⟨.sql e, if_neg he⟩
  · cases r with
    | ok _ => trivial
    | error e =>
      simp only
      split_ifs <;> trivial

lemma raises_upsertCurrentAddress (clientId : ℕ) (address : Json) :
    (upsertCurrentAddress clientId address).Raises := by
  refine .bind (raises_eval _) fun ext => .bind (.statement _ _) fun rows => ?_
  simp only
  split
  · exact .statement _ _
  · split_ifs
    · trivial
    · exact .bind (.statement _ _) fun _ => .statement _ _

lemma raises_insertOrderItems (orderId : ℕ) (items : Json) :
    (insertOrderItems orderId items).Raises := by
  unfold insertOrderItems
  split_ifs
  · exact .bind (raises_eval _) fun rows => .statement _ _
  · trivial

lemma raises_fetchOrderSnapshot (orderId : ℕ) : (fetchOrderSnapshot orderId).Raises := by
  refine .bind (.statement _ _) fun rows => .bind (.statement _ _) fun items => ?_
  cases rows <;> trivial

lemma raises_orderCreated (eventId data : Json) : (orderCreated eventId data).Raises :=
  .bind (raises_eval _) fun _ =>
  .bind (.bind (raises_eval _) fun _ => .bind (.statement _ _) fun _ => raises_first _ _) fun _ =>
  .bind (raises_eval _) fun _ =>
  .bind (raises_upsertCurrentAddress _ _) fun _ =>
  .bind (.bind (raises_eval _) fun _ => .statement _ _) fun _ =>
  .bind (raises_eval _) fun _ =>
  .bind (raises_insertOrderItems _ _) fun _ =>
  .bind (.statement _ _) fun _ => trivial

lemma raises_orderStatusChanged (eventId data : Json) :
    (orderStatusChanged eventId data).Raises := by
  refine .bind (raises_eval _) fun _ => .bind (raises_eval _) fun newStatus =>
    .bind (.bind (.statement _ _) fun _ => trivial) fun updated => ?_
  cases updated with
  | none => trivial
  | some order =>
    refine .bind (.statement _ _) fun _ => ?_
    split_ifs
    · exact .bind (raises_fetchOrderSnapshot _) fun _ => trivial
    · trivial

/-- A payment or an invoice of the order named. -/
lemma raises_resolved (ext : Json) {f : ℕ → Prog Unit} (hf : ∀ orderId, (f orderId).Raises) :
    (resolveOrderId ext >>= fun
      | none => pure none
      | some orderId => f orderId >>= fun _ => pure (none : Option Outbox)).Raises := by
  refine .bind (.bind (.statement _ _) fun _ => trivial) fun order => ?_
  cases order with
  | none => trivial
  | some orderId => exact .bind (hf orderId) fun _ => trivial

lemma raises_applyEvent (eventId eventType data : Json) :
    (applyEvent eventId eventType data).Raises := by
  unfold applyEvent
  split_ifs
  · exact raises_orderCreated _ _
  · exact raises_orderStatusChanged _ _
  · exact .bind (raises_eval _) fun _ => raises_resolved _ fun _ =>
      .bind (raises_eval _) fun _ => .statement _ _
  · exact .bind (raises_eval _) fun _ => raises_resolved _ fun _ =>
      .bind (raises_eval _) fun _ => .statement _ _
  · trivial

/-- The transaction of an event does not survive the failure of a statement. -/
lemma raises_eventTxn (event eventId : Json) : (eventTxn event eventId).Raises :=
  .bind (.bind (raises_eval _) fun _ => .bind (raises_eval _) fun _ =>
    .bind (raises_eval _) fun _ => .bind (raises_claimEvent _ _) fun _ =>
    raises_applyEvent _ _ _) fun _ => .bind (.statement _ _) fun _ => trivial

end Raises

/-! ### Attempts -/

variable {sql : SqlServer} {db db' : Database} {outbox : Option Outbox}

/-- An attempt leaves the state alone or ends in the state its transaction ran into. -/
lemma runInTxn_run (sql : SqlServer) (env : Attempt) (event eventId : Json) (db : Database) :
    (runInTxn sql env event eventId db).2 = db ∨
      ∃ outbox n, (eventTxn event eventId).run sql.engine env.statement 0 db =
        .ok (outbox, n, (runInTxn sql env event eventId db).2) := by
  unfold runInTxn
  split
  · exact .inl rfl
  · split
    · exact .inl rfl
    · rename_i outbox n db' heq
      split
      · exact .inr ⟨outbox, n, heq⟩
      · exact .inl rfl
      · exact .inr ⟨outbox, n, heq⟩

/-- An attempt leaves the state alone or commits the transaction of the event. -/
lemma runInTxn_db (sql : SqlServer) (env : Attempt) (event eventId : Json) (db : Database) :
    (runInTxn sql env event eventId db).2 = db ∨
      ∃ outbox, Runs sql.engine (eventTxn event eventId) db outbox
        (runInTxn sql env event eventId db).2 :=
  (runInTxn_run sql env event eventId db).imp id fun ⟨outbox, _, hrun⟩ => ⟨outbox, .of_run hrun⟩

/-- What the committed transaction of an event preserves, an attempt preserves. -/
lemma runInTxn_preserves {I : Database → Prop} {event eventId : Json}
    (h : ∀ outbox db', Runs sql.engine (eventTxn event eventId) db outbox db' → I db')
    (env : Attempt) (hdb : I db) : I (runInTxn sql env event eventId db).2 := by
  rcases runInTxn_db sql env event eventId db with heq | ⟨outbox, hrun⟩
  · rw [heq]
    exact hdb
  · exact h _ _ hrun

/-- An attempt that returns committed the transaction. -/
lemma runInTxn_ok {env : Attempt} {event eventId : Json}
    (h : runInTxn sql env event eventId db = (.ok outbox, db')) :
    Runs sql.engine (eventTxn event eventId) db outbox db' := by
  unfold runInTxn at h
  split at h
  · cases h
  · split at h
    · cases h
    · rename_i heq
      split at h
      · cases h
        exact .of_run heq
      · cases h
      · cases h

lemma exists_runs {env : Attempt} {event eventId : Json}
    (h : (runInTxn sql env event eventId db).1.isOk = true) :
    ∃ outbox, Runs sql.engine (eventTxn event eventId) db outbox
      (runInTxn sql env event eventId db).2 := by
  rcases heq : runInTxn sql env event eventId db with ⟨result, db'⟩
  rw [heq] at h
  cases result with
  | error x => cases h
  | ok outbox => exact ⟨outbox, runInTxn_ok heq⟩

/-- A call that returns committed in one of its attempts. -/
lemma runAttempts_ok {I : Database → Prop} {attempts : ℕ → Attempt} {event eventId : Json}
    (hI : I db) (hstep : ∀ db outbox db', I db →
      Runs sql.engine (eventTxn event eventId) db outbox db' → I db')
    (h : runAttempts sql attempts event eventId db = (.ok outbox, db')) :
    ∃ db₀, I db₀ ∧ Runs sql.engine (eventTxn event eventId) db₀ outbox db' := by
  obtain ⟨j, db₀, -, hreach, heq, -⟩ := retry_reaches Exn.isOperational
    (fun i => runInTxn sql (attempts i) event eventId) 2 0 db
  have hI₀ := hreach.preserves (fun i db hI => runInTxn_preserves
    (fun outbox db' => hstep db outbox db' hI) (attempts i) hI) hI
  exact ⟨db₀, hI₀, runInTxn_ok (heq.symm.trans h)⟩

/-- After the attempts, `handle_message` leaves the tables alone. -/
@[simp] lemma conclude_db (ext : Externals) (env : CallEnv) (event eventId : Json)
    (result : Except Exn (Option Outbox)) (w : World) :
    (conclude ext env event eventId result w).2.db = w.db := by
  rcases conclude_cases ext env event eventId w result with ⟨_, h⟩ | ⟨_, _, h⟩ | ⟨_, h⟩ | ⟨o, -, h⟩
  · rw [h, World.countEvent_db]
  · rw [h, World.countEvent_db]
    rfl
  · rw [h]
    rfl
  · refine h ▸ Eq.trans ?_ (w.countEvent_db event .success)
    rcases World.publish_cases ext env eventId (w.countEvent event .success).2 o.order with
      ⟨_, -, hp⟩ | ⟨_, -, -, hp⟩ | ⟨_, _, -, -, hp⟩ <;> rw [hp] <;> rfl

/-- `handle_message` publishes what the last attempt returned, or nothing. -/
lemma conclude_sent (ext : Externals) (env : CallEnv) (event eventId : Json)
    (result : Except Exn (Option Outbox)) (w : World) :
    (conclude ext env event eventId result w).2.sent = w.sent ∨
      ∃ ob value accepted, result = .ok (some ob) ∧ ext.dumps ob.order = .ok value ∧
        (conclude ext env event eventId result w).2.sent =
          w.sent ++ [⟨toString ob.order.order.orderId, value, accepted⟩] := by
  rcases conclude_cases ext env event eventId w result with ⟨_, h⟩ | ⟨_, _, h⟩ | ⟨_, h⟩ |
    ⟨o, hresult, h⟩
  · exact .inl (h ▸ w.countEvent_sent event _)
  · exact .inl (h ▸ World.countEvent_sent event _ _)
  · exact .inl (congrArg (·.sent) h)
  · rw [h, ← w.countEvent_sent event .success]
    rcases World.publish_cases ext env eventId (w.countEvent event .success).2 o.order with
      ⟨_, -, hp⟩ | ⟨value, hvalue, -, hp⟩ | ⟨value, _, hvalue, -, hp⟩
    · exact .inl (congrArg (·.sent) hp)
    · exact .inr ⟨o, value, _, hresult, hvalue, congrArg (·.sent) hp⟩
    · exact .inr ⟨o, value, _, hresult, hvalue, congrArg (·.sent) hp⟩

lemma handleMessage_db {ext : Externals} {msg : Message} {event eventId : Json}
    (h : decodeEvent ext msg.value = .ok (event, eventId)) (env : CallEnv) (w : World) :
    (handleMessage ext env msg w).2.db =
      (runAttempts ext.sql env.attempts event eventId w.db).2 := by
  simp only [handleMessage, h, conclude_db]

/-- What every committed transaction of an event preserves, `handle_message` preserves. -/
lemma handleMessage_preserves {ext : Externals} {I : Database → Prop} {msg : Message}
    (h : ∀ event eventId db outbox db', decodeEvent ext msg.value = .ok (event, eventId) → I db →
      Runs ext.sql.engine (eventTxn event eventId) db outbox db' → I db')
    (env : CallEnv) {w : World} (hdb : I w.db) : I (handleMessage ext env msg w).2.db := by
  cases heq : decodeEvent ext msg.value with
  | error e =>
    simp only [handleMessage, heq]
    exact hdb
  | ok decoded =>
    rw [handleMessage_db heq]
    exact retry_preserves (fun i db hdb => runInTxn_preserves
      (fun outbox db' hrun => h _ _ db outbox db' heq hdb hrun) _ hdb) _ _ _ hdb

namespace Fleet

/-- The tables after a step: as they were, or as the transaction of a call left them. -/
lemma Step.db_cases {ext : Externals} {allowed : Database → Call → Prop} {f f' : Fleet}
    (hs : Step ext allowed f f') :
    f'.world.db = f.world.db ∨ ∃ call ∈ f.calls, allowed f.world.db call ∧ ∃ outbox,
      Runs ext.sql.engine (eventTxn call.event call.eventId) f.world.db outbox f'.world.db := by
  cases hs with
  | malformed env h => exact .inl rfl
  | received h => exact .inl rfl
  | @retried w before after call x db env ha h hx hn =>
    have hdb := runInTxn_db ext.sql env call.event call.eventId w.db
    rw [h] at hdb
    exact hdb.imp id fun hrun => ⟨call, by simp, ha, hrun⟩
  | @ended w before after call result db env ha h hlast =>
    have hdb := runInTxn_db ext.sql (env.attempts call.failed) call.event call.eventId w.db
    rw [h] at hdb
    simp only [conclude_db]
    exact hdb.imp id fun hrun => ⟨call, by simp, ha, hrun⟩

/-- What every committed transaction preserves, a step preserves. -/
lemma Step.db_preserves {ext : Externals} {allowed : Database → Call → Prop}
    {I : Database → Prop}
    (hstep : ∀ (call : Call) db outbox db', allowed db call → I db →
      Runs ext.sql.engine (eventTxn call.event call.eventId) db outbox db' → I db')
    {f f' : Fleet} (hs : Step ext allowed f f') (hf : I f.world.db) : I f'.world.db := by
  rcases hs.db_cases with heq | ⟨call, -, ha, outbox, hrun⟩
  · rw [heq]
    exact hf
  · exact hstep _ _ _ _ ha hf hrun

/-- What was published after a step: what was before, or also what a committed transaction
returned. -/
lemma Step.sent_cases {ext : Externals} {allowed : Database → Call → Prop} {f f' : Fleet}
    (hs : Step ext allowed f f') :
    f'.world.sent = f.world.sent ∨ ∃ call ∈ f.calls, allowed f.world.db call ∧
      ∃ ob value accepted, Runs ext.sql.engine (eventTxn call.event call.eventId) f.world.db
        (some ob) f'.world.db ∧ ext.dumps ob.order = .ok value ∧
        f'.world.sent = f.world.sent ++ [⟨toString ob.order.order.orderId, value, accepted⟩] := by
  cases hs with
  | malformed env h => exact .inl rfl
  | received h => exact .inl rfl
  | retried env ha h hx hn => exact .inl rfl
  | @ended w before after call result db env ha h hlast =>
    rcases conclude_sent ext env call.event call.eventId result { w with db } with hsent |
      ⟨ob, value, accepted, rfl, hvalue, hsent⟩
    · exact .inl hsent
    · refine .inr ⟨call, by simp, ha, ob, value, accepted, ?_, hvalue, hsent⟩
      rw [conclude_db]
      exact runInTxn_ok h

/-- What every committed transaction preserves holds from then on. -/
theorem db_preserved {ext : Externals} {allowed : Database → Call → Prop} {I : Database → Prop}
    (hstep : ∀ (call : Call) db outbox db', allowed db call → I db →
      Runs ext.sql.engine (eventTxn call.event call.eventId) db outbox db' → I db')
    {f f' : Fleet} (hs : Relation.ReflTransGen (Step ext allowed) f f') (hf : I f.world.db) :
    I f'.world.db := by
  induction hs with
  | refl => exact hf
  | tail _ hs ih => exact hs.db_preserves hstep ih

/-- What every committed transaction preserves holds in every reachable state. -/
theorem Reachable.db_invariant {ext : Externals} {allowed : Database → Call → Prop}
    {I : Database → Prop} (hempty : I .empty)
    (hstep : ∀ (call : Call) db outbox db', allowed db call → I db →
      Runs ext.sql.engine (eventTxn call.event call.eventId) db outbox db' → I db')
    {f : Fleet} (h : Reachable ext allowed f) : I f.world.db := by
  induction h with
  | start => exact hempty
  | step _ hs ih => exact hs.db_preserves hstep ih

/-! ### Calls that are not interrupted -/

section Uninterrupted

variable {ext : Externals} {allowed : Database → Call → Prop} {env : CallEnv}
  {event eventId : Json} {hid : event.getItem "event_id" = .ok eventId}

lemma reaches_of_ended (ha : ∀ db i, allowed db ⟨event, eventId, hid, i⟩) (calls : List Call)
    {i : ℕ} {w : World} {result : Except Exn (Option Outbox)} {db : Database}
    (h : runInTxn ext.sql (env.attempts i) event eventId w.db = (result, db))
    (hlast : ∀ x, result = .error x → x.isOperational = true → 2 ≤ i) :
    Relation.ReflTransGen (Step ext allowed)
      ⟨w, calls ++ [⟨event, eventId, hid, i⟩]⟩
      ⟨(conclude ext env event eventId result { w with db }).2, calls⟩ := by
  have hstep := @Step.ended ext allowed w calls [] ⟨event, eventId, hid, i⟩ _ _ env
    (ha _ _) h hlast
  rw [List.append_nil] at hstep
  exact .single hstep

lemma reaches_of_retry (ha : ∀ db i, allowed db ⟨event, eventId, hid, i⟩) (calls : List Call)
    {more i : ℕ} (hi : i + more = 2) {w : World} {result : Except Exn (Option Outbox)}
    {db : Database}
    (h : retry Exn.isOperational
      (fun i => runInTxn ext.sql (env.attempts i) event eventId) more i w.db = (result, db)) :
    Relation.ReflTransGen (Step ext allowed)
      ⟨w, calls ++ [⟨event, eventId, hid, i⟩]⟩
      ⟨(conclude ext env event eventId result { w with db }).2, calls⟩ := by
  induction more generalizing i w with
  | zero => exact reaches_of_ended ha calls h fun _ _ _ => by omega
  | succ more ih =>
    simp only [retry] at h
    split at h
    · rename_i x db₁ heq
      split_ifs at h with hx
      · have hlt : i < 2 := by omega
        have hstep := @Step.retried ext allowed w calls [] ⟨event, eventId, hid, i⟩ _ _
          (env.attempts i) (ha _ _) heq hx hlt
        exact .head hstep (ih (i := i + 1) (w := { w with db := db₁ }) (by omega) h)
      · cases h
        exact reaches_of_ended ha calls heq fun y hy hop => by cases hy; exact absurd hop hx
    · rename_i a db₁ heq
      cases h
      exact reaches_of_ended ha calls heq fun y hy => by cases hy

end Uninterrupted

/-- A call no other call interrupts does what `handleMessage` does. -/
theorem handleMessage_reaches {ext : Externals} {allowed : Database → Call → Prop}
    {msg : Message} (ha : ∀ db (call : Call),
      decodeEvent ext msg.value = .ok (call.event, call.eventId) → allowed db call)
    (env : CallEnv) (w : World) (calls : List Call) :
    Relation.ReflTransGen (Step ext allowed) ⟨w, calls⟩
      ⟨(handleMessage ext env msg w).2, calls⟩ := by
  unfold handleMessage
  split
  · rename_i e heq
    exact .single (.malformed env heq)
  · rename_i event eventId heq
    exact .head (.received heq) (reaches_of_retry
      (fun db i => ha db ⟨event, eventId, decodeEvent_eventId heq, i⟩ heq) calls
      (show 0 + 2 = 2 from rfl) rfl)

lemma Reachable.trans {ext : Externals} {allowed : Database → Call → Prop} {f f' : Fleet}
    (h : Reachable ext allowed f) (hs : Relation.ReflTransGen (Step ext allowed) f f') :
    Reachable ext allowed f' := by
  induction hs with
  | refl => exact h
  | tail _ hstep ih => exact ih.step hstep

/-- Calls that keep to a stronger condition in the states they meet. -/
lemma Reachable.mono {ext : Externals} {allowed allowed' : Database → Call → Prop}
    (hmono : ∀ f call, Reachable ext allowed' f → allowed f.world.db call →
      allowed' f.world.db call) {f : Fleet} (h : Reachable ext allowed f) :
    Reachable ext allowed' f := by
  induction h with
  | start => exact .start
  | step _ hs ih =>
    refine ih.step ?_
    cases hs with
    | malformed env h => exact .malformed env h
    | received h => exact .received h
    | retried env ha h hx hn => exact .retried env (hmono _ _ ih ha) h hx hn
    | ended env ha h hlast => exact .ended env (hmono _ _ ih ha) h hlast

end Fleet

/-! ### One consumer -/

/-- The calls of one consumer, one after the other. -/
def handleAll (ext : Externals) (calls : List (CallEnv × Message)) (w : World) : World :=
  calls.foldl (fun w call => (handleMessage ext call.1 call.2 w).2) w

@[simp] lemma handleAll_nil (ext : Externals) (w : World) : handleAll ext [] w = w := rfl

-- The proof is in brackets, so that `simp` does not have the kernel evaluate the first call.
@[simp] lemma handleAll_cons (ext : Externals) (call : CallEnv × Message)
    (calls : List (CallEnv × Message)) (w : World) :
    handleAll ext (call :: calls) w =
      handleAll ext calls (handleMessage ext call.1 call.2 w).2 := (rfl)

lemma handleAll_append (ext : Externals) (calls calls' : List (CallEnv × Message)) (w : World) :
    handleAll ext (calls ++ calls') w = handleAll ext calls' (handleAll ext calls w) :=
  List.foldl_append

theorem handleAll_reaches_of {ext : Externals} {allowed : Database → Call → Prop}
    (calls : List (CallEnv × Message)) (ha : ∀ call ∈ calls, ∀ db (c : Call),
      decodeEvent ext call.2.value = .ok (c.event, c.eventId) → allowed db c) (w : World) :
    Relation.ReflTransGen (Fleet.Step ext allowed) ⟨w, []⟩ ⟨handleAll ext calls w, []⟩ := by
  induction calls generalizing w with
  | nil => exact .refl
  | cons call calls ih =>
    obtain ⟨hcall, hcalls⟩ := List.forall_mem_cons.mp ha
    exact (Fleet.handleMessage_reaches hcall call.1 w []).trans (ih hcalls _)

theorem handleAll_reaches {ext : Externals} {allowed : Database → Call → Prop}
    (ha : ∀ db call, allowed db call) (calls : List (CallEnv × Message)) (w : World) :
    Relation.ReflTransGen (Fleet.Step ext allowed) ⟨w, []⟩ ⟨handleAll ext calls w, []⟩ :=
  handleAll_reaches_of calls (fun _ _ db c _ => ha db c) w

/-- The tables after calls whose messages decode. -/
lemma handleAll_db {ext : Externals} (calls : List (CallEnv × Message × Json × Json))
    (h : ∀ call ∈ calls, decodeEvent ext call.2.1.value = .ok call.2.2) (w : World) :
    (handleAll ext (calls.map fun call => (call.1, call.2.1)) w).db =
      calls.foldl (fun db call =>
        (runAttempts ext.sql call.1.attempts call.2.2.1 call.2.2.2 db).2) w.db := by
  induction calls generalizing w with
  | nil => rfl
  | cons call calls ih =>
    obtain ⟨hcall, hcalls⟩ := List.forall_mem_cons.mp h
    rw [List.map_cons, handleAll_cons, List.foldl_cons, ← handleMessage_db hcall call.1 w]
    exact ih hcalls _

/-- The tables after some events, each with its id, handled one after the other while nothing goes
wrong. -/
def Database.after (events : List (Json × Json)) : Database :=
  events.foldl (fun db event =>
    (runAttempts .plain CallEnv.healthy.attempts event.1 event.2 db).2) .empty

/-- A state that a consumer leaves after some events. -/
lemma exists_reachable {allowed : Database → Call → Prop} (events : List (Json × Json))
    (ha : ∀ event ∈ events, ∀ db (call : Call), call.event = event.1 → allowed db call)
    (h : (events.map fun event => event.1.render).Nodup)
    (hid : ∀ event ∈ events, event.1.getItem "event_id" = .ok event.2) :
    ∃ w, Fleet.Reachable (.rendered (events.map Prod.fst)) allowed ⟨w, []⟩ ∧
      w.db = Database.after events := by
  obtain ⟨calls, hcalls⟩ : ∃ calls : List (CallEnv × Message × Json × Json),
      calls = events.map fun event => (.healthy, ⟨0, event.1.render.toUTF8⟩, event) := ⟨_, rfl⟩
  have hdecoded : ∀ call ∈ calls, decodeEvent (.rendered (events.map Prod.fst)) call.2.1.value =
      .ok call.2.2 := by
    intro call hcall
    rw [hcalls] at hcall
    obtain ⟨event, hevent, rfl⟩ := List.mem_map.mp hcall
    refine decodeEvent_rendered ?_ (List.mem_map_of_mem hevent) (hid event hevent)
    rwa [List.map_map]
  have hallowed : ∀ call ∈ calls.map fun call => (call.1, call.2.1), ∀ db (c : Call),
      decodeEvent (.rendered (events.map Prod.fst)) call.2.value = .ok (c.event, c.eventId) →
        allowed db c := by
    intro call hcall db c hdec
    obtain ⟨call, hmem, rfl⟩ := List.mem_map.mp hcall
    rw [hdecoded call hmem] at hdec
    rw [hcalls] at hmem
    obtain ⟨event, hevent, rfl⟩ := List.mem_map.mp hmem
    exact ha event hevent db c (congrArg Prod.fst (Except.ok.inj hdec)).symm
  refine ⟨_, .trans .start (handleAll_reaches_of
    (calls.map fun call => (call.1, call.2.1)) hallowed .start), ?_⟩
  rw [handleAll_db calls hdecoded, hcalls, List.foldl_map]
  rfl

end EventPipeline

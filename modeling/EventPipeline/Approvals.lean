import EventPipeline.Terminal

/-!
# Committed approvals

The outbox event of a transaction exists in the return value of the attempt that commits it.
An approval whose COMMIT is performed but not acknowledged is retried, found in the ledger
and taken for a replay, so that nobody announces it (`approval_announced_iff`).
-/

namespace EventPipeline

open Transaction

variable {sql : SqlServer} {event eventId data name newStatus : Json}

/-- The event asks for a change of the status of `name`. -/
structure StatusChange (event data name newStatus : Json) : Prop where
  type_eq : event.getItem "event_type" = .ok (.str "ORDER_STATUS_CHANGED")
  data_eq : event.getItem "data" = .ok data
  name_eq : data.getItem "external_order_id" = .ok name
  newStatus_eq : data.getItem "new_status" = .ok newStatus

/-- The event, met in the state `db`, sets `o` to APPROVED by the server's own comparison. -/
structure Approval (sql : SqlServer) (event data name newStatus : Json) (db : Database)
    (o : Order) : Prop extends StatusChange event data name newStatus where
  named : o ∈ db.ordersNamed sql name
  approved : ∃ status : Varchar 20, sql.TextOf newStatus status ∧
    sql.same status.text "APPROVED" = true

/-- The `i`-th attempt at the event is made in the state `db`, and its COMMIT is performed. -/
structure CommitsAt (sql : SqlServer) (attempts : ℕ → Attempt) (event eventId : Json)
    (start : Database) (i : ℕ) (db db' : Database) : Prop where
  le : i ≤ 2
  reached : Reaches Exn.isOperational (fun i => runInTxn sql (attempts i) event eventId) 0 start
    i db
  begin_eq : (attempts i).begin = none
  run_eq : ∃ outbox n,
    (eventTxn event eventId).run sql.engine (attempts i).statement 0 db = .ok (outbox, n, db')
  performed : ∀ e, (attempts i).commit ≠ .refused e

/-- What `fetch_order_snapshot` reads of an order. -/
def SnapshotOf (db : Database) (orderId : ℕ) (snapshot : Snapshot) : Prop :=
  (SqlServer.selectSnapshot db orderId).head? = some snapshot.order ∧
    snapshot.items = SqlServer.selectItems db orderId

/-- Between `w` and `w'` the snapshot of an order in `db` was handed to `send_and_wait`, or
its failed publication was recorded. -/
inductive Announced (ext : Externals) (eventId : Json) (orderId : ℕ) (db : Database)
    (w w' : World) : Prop
  | sent {snapshot : Snapshot} {value : ByteArray} {accepted : Bool} {new : List Send}
      (hs : SnapshotOf db orderId snapshot) (hv : ext.dumps snapshot = .ok value)
      (h : w'.sent = w.sent ++ new) (hmem : ⟨toString orderId, value, accepted⟩ ∈ new)
  | recorded {text : String} {new : List (Report × Json)}
      (h : w'.reports = w.reports ++ new)
      (hmem : (.publishFailed orderId text, eventId) ∈ new)

/-! ### A lost acknowledgement -/

namespace CommitsAt

variable {attempts : ℕ → Attempt} {start db db' : Database} {i : ℕ}

lemma runs (h : CommitsAt sql attempts event eventId start i db db') :
    ∃ outbox, Runs sql.engine (eventTxn event eventId) db outbox db' := by
  obtain ⟨outbox, n, hrun⟩ := h.run_eq
  exact ⟨outbox, .of_run hrun⟩

/-- An acknowledged COMMIT ends the call with what the transaction returned. -/
lemma acknowledged (h : CommitsAt sql attempts event eventId start i db db')
    (hack : (attempts i).commit = .acknowledged) :
    ∃ outbox, Runs sql.engine (eventTxn event eventId) db outbox db' ∧
      runAttempts sql attempts event eventId start = (.ok outbox, db') := by
  obtain ⟨outbox, n, hrun⟩ := h.run_eq
  have hattempt : EventPipeline.runInTxn sql (attempts i) event eventId db = (.ok outbox, db') := by
    simp only [EventPipeline.runInTxn, h.begin_eq, hrun, hack]
  refine ⟨outbox, .of_run hrun, ?_⟩
  have hle := h.le
  rw [runAttempts, h.reached.retry_eq (by omega), retry_eq_attempt, hattempt]
  intro x hx
  rw [hattempt] at hx
  cases hx

/-- After a COMMIT performed without an acknowledgement, the call ends with an error. -/
lemma lost (h : CommitsAt sql attempts event eventId start i db db')
    (hid : event.getItem "event_id" = .ok eventId)
    (hlost : (attempts i).commit ≠ .acknowledged) :
    ∃ x, (runAttempts sql attempts event eventId start).1 = .error x := by
  obtain ⟨outbox, n, hrun⟩ := h.run_eq
  obtain ⟨e, hattempt⟩ : ∃ e,
      EventPipeline.runInTxn sql (attempts i) event eventId db = (.error (.sql e), db') := by
    simp only [EventPipeline.runInTxn, h.begin_eq, hrun]
    cases hcommit : (attempts i).commit with
    | acknowledged => exact absurd hcommit hlost
    | refused e => exact absurd hcommit (h.performed e)
    | lost e => exact ⟨e, rfl⟩
  have hledger : InLedger sql eventId db' := inLedger_of_runs hid (.of_run hrun)
  have hle := h.le
  rw [runAttempts, h.reached.retry_eq (by omega)]
  exact retry_error (I := InLedger sql eventId)
    (fun j _ hs => InLedger.runInTxn hs hid (attempts j))
    (fun j _ hs => InLedger.runInTxn_error hs hid (attempts j)) hattempt hledger _

end CommitsAt

/-! ### What a call announces -/

/-- The clauses of the errors send nothing and record no publication. -/
lemma conclude_error (ext : Externals) (env : CallEnv) (event eventId : Json) (x : Exn)
    (w : World) :
    (conclude ext env event eventId (.error x) w).2.sent = w.sent ∧
      ∃ new, (conclude ext env event eventId (.error x) w).2.reports = w.reports ++ new ∧
        ∀ r ∈ new, ∀ orderId text, r.1 ≠ .publishFailed orderId text := by
  cases x with
  | duplicateEvent id => exact ⟨World.countEvent_sent _ _ _, [], by simp [conclude], by simp⟩
  | sql e =>
    simp only [conclude]
    split_ifs
    · exact ⟨World.countEvent_sent _ _ _, [(.dbUnavailable e.text, eventId)], World.countEvent_reports _ _ _,
        by simp⟩
    · exact ⟨World.countEvent_sent _ _ _, [(.dbError e.text, eventId)], World.countEvent_reports _ _ _,
        by simp⟩
  | python e => exact ⟨rfl, [(.unexpected e.text, eventId)], rfl, by simp⟩

/-- The publication of an order sends its snapshot or records the failure, and nothing about
another order. -/
lemma publish_new (w : World) (ext : Externals) (env : CallEnv) (eventId : Json)
    (order : Snapshot) :
    ∃ sends reports, (w.publish ext env eventId order).sent = w.sent ++ sends ∧
      (w.publish ext env eventId order).reports = w.reports ++ reports ∧
      (∀ s ∈ sends, s.key = toString order.order.orderId ∧ ext.dumps order = .ok s.value) ∧
      (∀ r ∈ reports, ∃ text, r = (.publishFailed order.order.orderId text, eventId)) ∧
      (sends = [] → reports ≠ []) := by
  rcases World.publish_cases ext env eventId w order with
    ⟨e, -, h⟩ | ⟨value, hvalue, -, h⟩ | ⟨value, e, hvalue, -, h⟩
  · exact ⟨[], [(.publishFailed order.order.orderId e.text, eventId)],
      (congrArg (·.sent) h).trans (List.append_nil _).symm, congrArg (·.reports) h, by simp,
      by simp, by simp⟩
  · exact ⟨[⟨toString order.order.orderId, value, true⟩], [], congrArg (·.sent) h,
      (congrArg (·.reports) h).trans (List.append_nil _).symm, by simpa using hvalue, by simp,
      by simp⟩
  · exact ⟨[⟨toString order.order.orderId, value, false⟩],
      [(.publishFailed order.order.orderId e.text, eventId)], congrArg (·.sent) h,
      congrArg (·.reports) h, by simpa using hvalue, by simp, by simp⟩

lemma not_announced_of_same {ext : Externals} {orderId : ℕ} {db : Database} {w w' : World}
    {reports : List (Report × Json)} (hsent : w'.sent = w.sent)
    (hreports : w'.reports = w.reports ++ reports)
    (hnone : ∀ r ∈ reports, ∀ id text, r.1 ≠ .publishFailed id text) :
    ¬ Announced ext eventId orderId db w w' := by
  rintro (⟨-, -, h, hmem⟩ | ⟨h, hmem⟩)
  · rw [hsent] at h
    rw [List.self_eq_append_right.mp h] at hmem
    cases hmem
  · rw [hreports] at h
    rw [← List.append_cancel_left h] at hmem
    exact hnone _ hmem _ _ rfl

/-- A call that ends with an error announces nothing. -/
lemma not_announced_of_error {ext : Externals} {env : CallEnv} {msg : Message} {w : World}
    {x : Exn} {orderId : ℕ} {db : Database}
    (hdec : decodeEvent ext msg.value = .ok (event, eventId))
    (hx : (runAttempts ext.sql env.attempts event eventId w.db).1 = .error x) :
    ¬ Announced ext eventId orderId db w (handleMessage ext env msg w).2 := by
  simp only [handleMessage, hdec, hx]
  obtain ⟨hsent, new, hreports, hnone⟩ := conclude_error ext env event eventId x
    { w with db := (runAttempts ext.sql env.attempts event eventId w.db).2 }
  exact not_announced_of_same hsent hreports hnone

/-- The outbox of a committed change of the status of `name`. -/
lemma StatusChange.outbox (h : StatusChange event data name newStatus) {db db' : Database}
    {outbox : Option Outbox} {o : Order} (ho : o ∈ db.ordersNamed sql name)
    (hrun : Runs sql.engine (eventTxn event eventId) db outbox db') :
    ∃ first, (db.ordersNamed sql name).head? = some first ∧
      if newStatus.isText "APPROVED"
        then ∃ snapshot, outbox = some ⟨"ORDER_APPROVED", snapshot⟩ ∧
          SnapshotOf db' first.orderId snapshot
        else outbox = none := by
  obtain ⟨id, eventType, data', row, db₁, now, hc, rfl⟩ := committed_of_runs hrun
  obtain rfl : Json.str "ORDER_STATUS_CHANGED" = eventType :=
    Except.ok.inj (h.type_eq.symm.trans hc.eventType_eq)
  obtain rfl : data = data' := Except.ok.inj (h.data_eq.symm.trans hc.data_eq)
  cases hc.processed with
  | created type_eq => simp at type_eq
  | statusChanged _ hext hnew named hupdate hhistory houtbox =>
    obtain rfl := Except.ok.inj (h.name_eq.symm.trans hext)
    obtain rfl := Except.ok.inj (h.newStatus_eq.symm.trans hnew)
    exact ⟨_, named, houtbox⟩
  | paid type_eq => simp at type_eq
  | invoiced type_eq => simp at type_eq
  | unknownOrder hext named =>
    obtain rfl := Except.ok.inj (h.name_eq.symm.trans hext)
    change db.ordersNamed sql name = [] at named
    rw [named] at ho
    cases ho
  | unknownType _ not_changed => exact absurd rfl not_changed

/-! ### The announcement -/

/-- A publication announces the order of its snapshot and no other. -/
lemma publish_announced_iff {ext : Externals} {env : CallEnv} {w w' : World} {db : Database}
    {orderId orderId' : ℕ} {snapshot : Snapshot} (hs : SnapshotOf db orderId snapshot)
    (hsent : w'.sent = w.sent) (hreports : w'.reports = w.reports) :
    Announced ext eventId orderId' db w (w'.publish ext env eventId snapshot) ↔
      orderId = orderId' := by
  have hid := selectSnapshot_orderId hs.1
  obtain ⟨sends, reports, hsent', hreports', hsends, hfailed, hsome⟩ :=
    publish_new w' ext env eventId snapshot
  rw [hid] at hsends hfailed
  rw [hsent] at hsent'
  rw [hreports] at hreports'
  constructor
  · rintro (⟨-, -, h, hmem⟩ | ⟨h, hmem⟩)
    · rw [hsent'] at h
      rw [← List.append_cancel_left h] at hmem
      exact toString_inj (hsends _ hmem).1.symm
    · rw [hreports'] at h
      rw [← List.append_cancel_left h] at hmem
      obtain ⟨text, htext⟩ := hfailed _ hmem
      simp only [Prod.mk.injEq, Report.publishFailed.injEq] at htext
      exact htext.1.1.symm
  · rintro rfl
    cases hnew : sends with
    | cons s rest =>
      obtain ⟨hkey, hvalue⟩ := hsends s (by simp [hnew])
      have hmem : ⟨toString orderId, s.value, s.accepted⟩ ∈ sends := by
        rw [hnew, ← hkey]
        exact List.mem_cons_self
      exact .sent hs hvalue hsent' hmem
    | nil =>
      obtain ⟨r, rest, hr⟩ := List.exists_cons_of_ne_nil (hsome hnew)
      obtain ⟨text, rfl⟩ := hfailed r (by simp [hr])
      have hmem : (.publishFailed orderId text, eventId) ∈ reports := by simp [hr]
      exact .recorded hreports' hmem

/-- A committed approval of `o` is announced by the call that committed it exactly when the
COMMIT was acknowledged, the status was spelled `APPROVED`, and `o` is the order the server
names first. -/
theorem approval_announced_iff (ext : Externals) (env : CallEnv) (msg : Message) (w : World)
    {event eventId data name newStatus : Json} {i : ℕ} {db db' : Database} {o : Order}
    (hdec : decodeEvent ext msg.value = .ok (event, eventId))
    (hcommit : CommitsAt ext.sql env.attempts event eventId w.db i db db')
    (happroval : Approval ext.sql event data name newStatus db o) :
    Announced ext eventId o.orderId db' w (handleMessage ext env msg w).2 ↔
      (env.attempts i).commit = .acknowledged ∧ newStatus = .str "APPROVED" ∧
        (db.ordersNamed ext.sql name).head?.map (·.orderId) = some o.orderId := by
  by_cases hack : (env.attempts i).commit = .acknowledged
  · obtain ⟨outbox, hrun, hattempts⟩ := hcommit.acknowledged hack
    obtain ⟨first, hfirst, houtbox⟩ := happroval.outbox happroval.named hrun
    simp only [handleMessage, hdec, hattempts, conclude, World.countEvent, happroval.type_eq,
      hack, hfirst, Option.map_some, Option.some.injEq, true_and]
    split_ifs at houtbox with hspelled
    · obtain ⟨snapshot, rfl, hsnapshot⟩ := houtbox
      simp only [if_true, Json.isText_iff.mp hspelled, true_and]
      exact publish_announced_iff hsnapshot rfl rfl
    · subst houtbox
      have hsame := List.append_nil w.reports
      refine iff_of_false (not_announced_of_same rfl hsame.symm (by simp)) ?_
      rintro ⟨rfl, -⟩
      exact hspelled (by simp)
  · obtain ⟨x, hx⟩ := hcommit.lost (decodeEvent_eventId hdec) hack
    exact iff_of_false (not_announced_of_error hdec hx) fun h => hack h.1

def approvedText : String :=
  statusChangedText "e2" "\"o1\"" "APPROVED"

def approvedEvent : Json :=
  statusChangedEvent "e2" (.str "o1") "APPROVED"

def approvedExternals : Externals :=
  .reading [(sampleText, sampleOrder), (approvedText, approvedEvent)]

def approvedMessage : Message :=
  ⟨1, approvedText.toUTF8⟩

lemma decodeEvent_approved :
    decodeEvent approvedExternals approvedMessage.value = .ok (approvedEvent, .str "e2") :=
  decodeEvent_reading ((lookup_tail (by decide)).trans lookup_head) rfl

/-- The first COMMIT is performed while the connection is dropped. -/
def CallEnv.dropped : CallEnv :=
  { CallEnv.healthy with
    attempts i := { Attempt.healthy with
      commit := if i = 0 then .lost ⟨.operational, "Communication link failure"⟩
        else .acknowledged } }

/-- The state in which the sample order has been created. -/
lemma sample_db {w : World}
    (hw : w = (handleMessage approvedExternals .healthy sampleMessage .start).2) :
    w.db = (runAttempts .plain CallEnv.healthy.attempts sampleOrder (.str "e1") .empty).2 := by
  rw [hw]
  exact handleMessage_db (decodeEvent_reading lookup_head rfl) .healthy .start

/-- The approval of the sample order commits in a first attempt that reaches its COMMIT. -/
lemma approved_commits {w : World}
    (hw : w = (handleMessage approvedExternals .healthy sampleMessage .start).2)
    (attempts : ℕ → Attempt) (hbegin : (attempts 0).begin = none)
    (hstatement : (attempts 0).statement = Attempt.healthy.statement)
    (hperformed : ∀ e, (attempts 0).commit ≠ .refused e) :
    ∃ o db', CommitsAt .plain attempts approvedEvent (.str "e2") w.db 0 w.db db' ∧
      (w.db.ordersNamed .plain (.str "o1")).head? = some o ∧
      ∃ o' ∈ db'.orders, o'.orderId = o.orderId ∧ o'.status.text = "APPROVED" := by
  have hdb := sample_db hw
  obtain ⟨o, ho⟩ : ∃ o, (w.db.ordersNamed .plain (.str "o1")).head? = some o := by
    rw [← Option.isSome_iff_exists, hdb]
    decide
  have hresult : (match (eventTxn approvedEvent (.str "e2")).run SqlServer.plain.engine
      Attempt.healthy.statement 0 w.db with
      | .ok (_, _, db') => db'.orders.any fun o' => o'.status.text = "APPROVED" &&
          (w.db.ordersNamed .plain (.str "o1")).head?.any fun o => o.orderId = o'.orderId
      | .error _ => false) = true := by
    rw [hdb]
    decide
  cases hrun : (eventTxn approvedEvent (.str "e2")).run SqlServer.plain.engine
      Attempt.healthy.statement 0 w.db with
  | error x =>
    rw [hrun] at hresult
    cases hresult
  | ok result =>
    obtain ⟨outbox, n, db'⟩ := result
    rw [hrun] at hresult
    refine ⟨o, db', ⟨by decide, .here _ _, hbegin, ⟨outbox, n, hstatement ▸ hrun⟩, hperformed⟩,
      ho, ?_⟩
    simp only [List.any_eq_true, ho, Option.any_some, Bool.and_eq_true, decide_eq_true_eq]
      at hresult
    obtain ⟨o', ho', hstatus, hid⟩ := hresult
    exact ⟨o', ho', hid.symm, hstatus⟩

lemma approved_approval {w : World} {o : Order}
    (ho : (w.db.ordersNamed .plain (.str "o1")).head? = some o) :
    Approval .plain approvedEvent (.obj [("external_order_id", .str "o1"),
      ("new_status", .str "APPROVED")]) (.str "o1") (.str "APPROVED") w.db o where
  type_eq := rfl
  data_eq := rfl
  name_eq := rfl
  newStatus_eq := rfl
  named := List.mem_of_head? ho
  approved := ⟨⟨"APPROVED", by decide⟩, SqlServer.textOf_str _ |>.mpr rfl, by simp⟩

/-- The approval of the sample order, acknowledged. -/
theorem approval_announced :
    ∃ (w : World) (o : Order) (db' : Database),
      w = (handleMessage approvedExternals .healthy sampleMessage .start).2 ∧
      (w.db.ordersNamed .plain (.str "o1")).head? = some o ∧
      Announced approvedExternals (.str "e2") o.orderId db' w
        (handleMessage approvedExternals .healthy approvedMessage w).2 := by
  obtain ⟨w, hw⟩ : ∃ w, w = (handleMessage approvedExternals .healthy sampleMessage .start).2 :=
    ⟨_, rfl⟩
  obtain ⟨o, db', hcommit, ho, -⟩ := approved_commits hw CallEnv.healthy.attempts rfl rfl
    (by simp [CallEnv.healthy, Attempt.healthy])
  have hfirst : (w.db.ordersNamed .plain (.str "o1")).head?.map (·.orderId) = some o.orderId := by
    rw [ho, Option.map_some]
  exact ⟨w, o, db', hw, ho, (approval_announced_iff approvedExternals .healthy approvedMessage w
    decodeEvent_approved hcommit (approved_approval ho)).mpr ⟨rfl, rfl, hfirst⟩⟩

/-- The same approval, its first COMMIT performed while the connection is dropped: the order
is approved, and the call neither sends it nor records that it did not. -/
theorem approval_lost :
    ∃ (w : World) (o : Order) (db' : Database),
      w = (handleMessage approvedExternals .healthy sampleMessage .start).2 ∧
      CommitsAt .plain CallEnv.dropped.attempts approvedEvent (.str "e2") w.db 0 w.db db' ∧
      Approval .plain approvedEvent (.obj [("external_order_id", .str "o1"),
        ("new_status", .str "APPROVED")]) (.str "o1") (.str "APPROVED") w.db o ∧
      (∃ o' ∈ db'.orders, o'.orderId = o.orderId ∧ o'.status.text = "APPROVED") ∧
      ¬ Announced approvedExternals (.str "e2") o.orderId db' w
        (handleMessage approvedExternals .dropped approvedMessage w).2 := by
  obtain ⟨w, hw⟩ : ∃ w, w = (handleMessage approvedExternals .healthy sampleMessage .start).2 :=
    ⟨_, rfl⟩
  obtain ⟨o, db', hcommit, ho, hstatus⟩ := approved_commits hw CallEnv.dropped.attempts rfl rfl
    (by simp [CallEnv.dropped])
  obtain ⟨x, hx⟩ := hcommit.lost rfl (by simp [CallEnv.dropped])
  exact ⟨w, o, db', hw, hcommit, approved_approval ho, hstatus,
    not_announced_of_error decodeEvent_approved hx⟩

end EventPipeline

import EventPipeline.PipelineLog
import EventPipeline.Replays

/-!
# The trace of a message

What a message with a textual id leaves behind: its id in the ledger, or one row of `pipeline_log`.
The column `event_id` of the log is as wide as that of the ledger, so that an id which does not fit
is refused by both, and the message is given up without a trace. The text of the error is cut to 500
characters, and its column has 500 bytes (`traced_iff`).
-/

namespace EventPipeline

open Transaction

variable {ext : Externals} {sql : SqlServer} {db db' : Database} {event eventType : Json}
  {outbox : Option Outbox} {msg : Message} {env : CallEnv} {w : World} {s : String}

/-- The id is in `processed_webhook_events`, as the server compares it. -/
def Recorded (sql : SqlServer) (s : String) (db : Database) : Prop :=
  ∃ e ∈ db.processedEvents, sql.same s e.eventId.text = true

/-- What a VARCHAR(n) column stores of the text is found under it. -/
def FoundIn (sql : SqlServer) (n : ℕ) (s : String) (v : Varchar n) : Prop :=
  sql.stored n (.text s) = some v ∧ sql.same s v.text = true

/-- One row was added to `pipeline_log`, with the id and the text of the one report that was made. -/
def LoggedOnce (sql : SqlServer) (s : String) (w w' : World) : Prop :=
  ∃ (report : Report) (row : PipelineLog), w'.reports = w.reports ++ [(report, .str s)] ∧
    w'.pipelineLog = w.pipelineLog ++ [row] ∧ (∃ id, row.eventId = some id ∧ FoundIn sql 100 s id) ∧
      sql.stored 500 (.text (report.message.take 500).toString) = some row.message

/-- The column of the log takes what is cut of the report. -/
def Report.Fits (sql : SqlServer) (report : Report) : Prop :=
  ∃ v : Varchar 500, sql.stored 500 (.text (report.message.take 500).toString) = some v

/-- What is reported of an error of the attempts. -/
def Exn.report : Exn → Option Report
  | .duplicateEvent _ => none
  | .sql e => some (if e.cls = .operational then .dbUnavailable e.text else .dbError e.text)
  | .python e => some (.unexpected e.text)

/-- The attempts change nothing, and the last of them ends with an error that is reported. -/
def GivenUp (ext : Externals) (env : CallEnv) (event : Json) (s : String) (w : World)
    (report : Report) : Prop :=
  ∃ x, runAttempts ext.sql env.attempts event (.str s) w.db = (.error x, w.db) ∧
    x.report = some report

/-- The event committed, and the publication of its order failed. -/
def Unpublished (ext : Externals) (env : CallEnv) (event : Json) (s : String) (w : World)
    (report : Report) : Prop :=
  ∃ outbox e, (runAttempts ext.sql env.attempts event (.str s) w.db).1 = .ok (some outbox) ∧
    outbox.eventType = "ORDER_APPROVED" ∧
      (ext.dumps outbox.order = .error e ∨
        (∃ value, ext.dumps outbox.order = .ok value) ∧ env.send = some e) ∧
          report = .publishFailed outbox.order.order.orderId e.text

/-- An integrity error of the claim comes from a constraint, and not from the connection. -/
def CallEnv.Genuine (env : CallEnv) : Prop :=
  ∀ i e, (env.attempts i).statement 0 = .error e → e.cls ≠ .integrity

/-! ### The log -/

/-- A call uses the log at most once. -/
lemma conclude_log (ext : Externals) (env : CallEnv) (event eventId : Json)
    (result : Except Exn (Option Outbox)) (w : World) :
    (conclude ext env event eventId result w).2.pipelineLog = w.pipelineLog ∨
      ∃ message, (conclude ext env event eventId result w).2.pipelineLog =
        logPipelineEvent ext.sql env.log "ingestion-consumer" "ERROR" message eventId
          w.pipelineLog := by
  rcases conclude_cases ext env event eventId w result with ⟨_, h⟩ | ⟨_, _, h⟩ | ⟨_, h⟩ | ⟨o, -, h⟩
  · exact .inl (h ▸ w.countEvent_pipelineLog event _)
  · exact .inr ⟨_, h ▸ World.countEvent_pipelineLog event _ _⟩
  · exact .inr ⟨_, congrArg (·.pipelineLog) h⟩
  · rw [h, ← w.countEvent_pipelineLog event .success]
    rcases World.publish_cases ext env eventId (w.countEvent event .success).2 o.order with
      ⟨_, -, hp⟩ | ⟨_, -, -, hp⟩ | ⟨_, _, -, -, hp⟩
    · exact .inr ⟨_, congrArg (·.pipelineLog) hp⟩
    · exact .inl (congrArg (·.pipelineLog) hp)
    · exact .inr ⟨_, congrArg (·.pipelineLog) hp⟩

/-- What a call does to the log is an activity on its table, or nothing. -/
theorem handleMessage_activity (ext : Externals) (env : CallEnv) (msg : Message) {w : World}
    {t : LogTable} (h : t.rows = w.pipelineLog) :
    (handleMessage ext env msg w).2.pipelineLog = t.rows ∨
      ∃ message eventId, (handleMessage ext env msg w).2.pipelineLog = (t.act ext.sql
        (.logged env.log "ingestion-consumer" "ERROR" message eventId)).rows := by
  simp only [LogTable.act, h]
  unfold handleMessage
  split
  · exact .inr ⟨_, _, rfl⟩
  · rename_i event eventId _
    rcases conclude_log ext env event eventId
      (runAttempts ext.sql env.attempts event eventId w.db).1
      { w with db := (runAttempts ext.sql env.attempts event eventId w.db).2 } with
      heq | ⟨message, heq⟩
    · exact .inl heq
    · exact .inr ⟨message, eventId, heq⟩

/-- One report was made, and tried to be logged. -/
structure Reported (ext : Externals) (env : CallEnv) (s : String) (report : Report) (w w' : World) :
    Prop where
  reports : w'.reports = w.reports ++ [(report, .str s)]
  pipelineLog : w'.pipelineLog = logPipelineEvent ext.sql env.log "ingestion-consumer" "ERROR"
    report.message (.str s) w.pipelineLog

/-- A report leaves its row if and only if the columns take the id and the text. -/
lemma Reported.loggedOnce_iff {report : Report} {w' : World} (h : Reported ext env s report w w')
    (hreachable : env.log.reachable = true) :
    LoggedOnce ext.sql s w w' ↔ (∃ id, FoundIn ext.sql 100 s id) ∧ report.Fits ext.sql := by
  constructor
  · rintro ⟨report', row, hreports, -, ⟨id, -, hid⟩, hmessage⟩
    rw [h.reports] at hreports
    cases List.append_cancel_left hreports
    exact ⟨⟨id, hid⟩, row.message, hmessage⟩
  · rintro ⟨⟨id, hid⟩, text, htext⟩
    have hservice : ext.sql.Keeps 50 "ingestion-consumer" :=
      SqlServer.keeps_of_ascii (by decide) (by decide)
    have hlevel : ext.sql.Keeps 10 "ERROR" := SqlServer.keeps_of_ascii (by decide) (by decide)
    exact ⟨report, _, h.reports, h.pipelineLog.trans (logPipelineEvent_eq hreachable hservice hlevel
      rfl htext (SqlServer.varchar_str hid.1) _), ⟨id, rfl, hid⟩, htext⟩

/-- Where an error is reported, it is reported once. -/
lemma conclude_reported {x : Exn} {report : Report} (hreport : x.report = some report) (w : World) :
    Reported ext env s report w (conclude ext env event (.str s) (.error x) w).2 := by
  cases x with
  | duplicateEvent id => cases hreport
  | sql e =>
    obtain rfl := Option.some.inj hreport
    simp only [conclude]
    split_ifs
    · exact ⟨World.countEvent_reports _ _ _, World.countEvent_pipelineLog _ _ _⟩
    · exact ⟨World.countEvent_reports _ _ _, World.countEvent_pipelineLog _ _ _⟩
  | python e =>
    obtain rfl := Option.some.inj hreport
    exact ⟨rfl, rfl⟩

/-- A publication that fails is reported once. -/
lemma conclude_unpublished (htype : event.getItem "event_type" = .ok eventType) {o : Outbox}
    {e : PyError} (ho : o.eventType = "ORDER_APPROVED")
    (hfails : ext.dumps o.order = .error e ∨
      (∃ value, ext.dumps o.order = .ok value) ∧ env.send = some e) (w : World) :
    Reported ext env s (.publishFailed o.order.order.orderId e.text) w
      (conclude ext env event (.str s) (.ok (some o)) w).2 := by
  simp only [conclude, World.countEvent, htype, ho, if_true, World.publish]
  rcases hfails with hdumps | ⟨⟨value, hdumps⟩, hsend⟩
  · rw [hdumps]
    exact ⟨rfl, rfl⟩
  · rw [hdumps, hsend]
    exact ⟨rfl, rfl⟩

/-! ### The ledger -/

/-- An id that is in the ledger as the column stores it is in the ledger, if it is found there. -/
lemma recorded_of_inLedger {id : Varchar 100} (hid : FoundIn sql 100 s id)
    (h : InLedger sql (.str s) db) : Recorded sql s db := by
  obtain ⟨e, he, htext⟩ := h
  obtain rfl := Option.some.inj (hid.1.symm.trans (sql.textOf_str.mp htext))
  exact ⟨e, he, hid.2⟩

/-- Nothing is removed from the ledger. -/
lemma Recorded.of_runs {eventId : Json} (h : Recorded sql s db)
    (hrun : Runs sql.engine (eventTxn event eventId) db outbox db') : Recorded sql s db' := by
  obtain ⟨id, type, data, row, db₁, now, hc, rfl⟩ := committed_of_runs hrun
  obtain ⟨e, he, hsame⟩ := h
  have hmem : e ∈ db₁.processedEvents := by simp [hc.processed.processedEvents_eq, he]
  obtain ⟨e', he', heq⟩ : ∃ e' ∈ (db₁.marked sql eventId now).processedEvents,
      e'.eventId = e.eventId := exists_mem_marked hmem
  exact ⟨e', he', heq ▸ hsame⟩

/-- A committed event is recorded only under an id that was, or that is found where it is stored. -/
lemma recorded_before (hid : event.getItem "event_id" = .ok (.str s))
    (hrun : Runs sql.engine (eventTxn event (.str s)) db outbox db') (h : Recorded sql s db') :
    Recorded sql s db ∨ ∃ id, FoundIn sql 100 s id := by
  obtain ⟨id, type, data, row, db₁, now, hc, rfl⟩ := committed_of_runs hrun
  obtain rfl : Json.str s = id := Except.ok.inj (hid.symm.trans hc.eventId_eq)
  obtain ⟨e', he', hsame⟩ := h
  obtain ⟨e, he, heq⟩ : ∃ e ∈ db₁.processedEvents, e'.eventId = e.eventId := mem_marked he'
  rw [heq] at hsame
  rw [hc.processed.processedEvents_eq, List.mem_append, List.mem_singleton] at he
  rcases he with he | rfl
  · exact .inl ⟨e, he, hsame⟩
  · exact .inr ⟨e.eventId, sql.textOf_str.mp hc.claimed.eventId, hsame⟩

/-- A duplicate is one of a row in the ledger, if the id is found there. -/
lemma recorded_of_duplicate {attempt : Attempt} {id : Json} {type : String} {v : Varchar 100}
    (hfound : FoundIn sql 100 s v) (hid : event.getItem "event_id" = .ok (.str s))
    (htype : event.getItem "event_type" = .ok (.str type))
    (hgenuine : ∀ e, attempt.statement 0 = .error e → e.cls ≠ .integrity)
    (h : (runInTxn sql attempt event (.str s) db).1 = .error (.duplicateEvent id)) :
    Recorded sql s db := by
  unfold runInTxn at h
  split at h
  · cases h
  · cases hrun : (eventTxn event (.str s)).run sql.engine attempt.statement 0 db with
    | ok result =>
      rw [hrun] at h
      dsimp only at h
      split at h <;> cases h
    | error x =>
      rw [hrun] at h
      obtain rfl : x = .duplicateEvent id := Except.error.inj h
      cases hdata : event.getItem "data" with
      | error e =>
        obtain ⟨e', he'⟩ := python_of_run hid (.inr ⟨e, hdata⟩) hrun
        cases he'
      | ok data =>
        cases ht : attempt.statement 0 with
        | ok t =>
          have hreplayed := (replay_of_run hid htype hdata ht hrun).mp ⟨id, rfl⟩
          obtain ⟨-, -, hnull | hnull | ⟨id', hid', e, he, hsame⟩⟩ := replayed_iff.mp hreplayed
          · cases hnull
          · cases hnull
          · obtain rfl := Option.some.inj (hfound.1.symm.trans (sql.textOf_str.mp hid'))
            exact ⟨e, he, sql.same_congr hfound.2 _ ▸ hsame⟩
        | error e =>
          rw [eventTxn_eq hid htype hdata] at hrun
          simp only [claimEvent, Program.call_bind, Program.run, Engine.answer, ht,
            if_neg (hgenuine e ht)] at hrun
          cases hrun

/-- Attempts that change the state commit the event. -/
lemma runAttempts_db (sql : SqlServer) (attempts : ℕ → Attempt)
    (hid : event.getItem "event_id" = .ok (.str s)) (db : Database) :
    (runAttempts sql attempts event (.str s) db).2 = db ∨
      InLedger sql (.str s) (runAttempts sql attempts event (.str s) db).2 :=
  retry_preserves (I := fun db' => db' = db ∨ InLedger sql (.str s) db') (fun _ db' h =>
    (runInTxn_db sql _ event _ db').elim (fun heq => heq.symm ▸ h)
      fun ⟨_, hrun⟩ => .inr (inLedger_of_runs hid hrun)) _ _ _ (.inl rfl)

/-- How the attempts end for an id that is found where it is stored. -/
lemma runAttempts_cases (sql : SqlServer) {attempts : ℕ → Attempt} {type : String} {id : Varchar 100}
    (hfound : FoundIn sql 100 s id) (hid : event.getItem "event_id" = .ok (.str s))
    (htype : event.getItem "event_type" = .ok (.str type))
    (hgenuine : ∀ i e, (attempts i).statement 0 = .error e → e.cls ≠ .integrity) (db : Database) :
    Recorded sql s (runAttempts sql attempts event (.str s) db).2 ∨
      ∃ x report, runAttempts sql attempts event (.str s) db = (.error x, db) ∧
        x.report = some report := by
  rcases runAttempts_db sql attempts hid db with hdb | hledger
  · obtain ⟨j, db₀, -, -, heq, -⟩ := retry_reaches Exn.isOperational
      (fun i => runInTxn sql (attempts i) event (.str s)) 2 0 db
    rw [runAttempts, heq] at hdb ⊢
    rcases hend : runInTxn sql (attempts j) event (.str s) db₀ with ⟨result, db'⟩
    rw [hend] at hdb
    obtain rfl : db' = db := hdb
    cases result with
    | ok outbox => exact .inl (recorded_of_inLedger hfound (inLedger_of_runs hid (runInTxn_ok hend)))
    | error x =>
      cases x with
      | duplicateEvent id =>
        have hrecorded : Recorded sql s db₀ :=
          recorded_of_duplicate hfound hid htype (hgenuine j) (congrArg Prod.fst hend)
        have hdb' : (runInTxn sql (attempts j) event (.str s) db₀).2 = db' :=
          congrArg Prod.snd hend
        exact .inl (hdb' ▸ runInTxn_preserves (fun _ _ hrun => hrecorded.of_runs hrun) _ hrecorded)
      | sql e => exact .inr ⟨.sql e, _, rfl, rfl⟩
      | python e => exact .inr ⟨.python e, _, rfl, rfl⟩
  · exact .inl (recorded_of_inLedger hfound hledger)

/-! ### One message -/

/-- The world the attempts leave to the clauses of `handle_message`. -/
abbrev World.attempted (w : World) (ext : Externals) (env : CallEnv) (event eventId : Json) : World :=
  { w with db := (runAttempts ext.sql env.attempts event eventId w.db).2 }

lemma handleMessage_eq {eventId : Json} (hdec : decodeEvent ext msg.value = .ok (event, eventId))
    (env : CallEnv) (w : World) :
    handleMessage ext env msg w = conclude ext env event eventId
      (runAttempts ext.sql env.attempts event eventId w.db).1 (w.attempted ext env event eventId) := by
  simp only [handleMessage, hdec]

lemma GivenUp.reported {report : Report} (hdec : decodeEvent ext msg.value = .ok (event, .str s))
    (h : GivenUp ext env event s w report) :
    Reported ext env s report w (handleMessage ext env msg w).2 := by
  obtain ⟨x, hattempts, hreport⟩ := h
  rw [handleMessage_eq hdec, hattempts]
  have h : Reported ext env s report (w.attempted ext env event (.str s))
      (conclude ext env event (.str s) (.error x) (w.attempted ext env event (.str s))).2 :=
    conclude_reported hreport _
  exact ⟨h.reports, h.pipelineLog⟩

lemma Unpublished.reported {report : Report}
    (hdec : decodeEvent ext msg.value = .ok (event, .str s))
    (htype : event.getItem "event_type" = .ok eventType)
    (h : Unpublished ext env event s w report) :
    Reported ext env s report w (handleMessage ext env msg w).2 := by
  obtain ⟨o, e, hok, ho, hfails, rfl⟩ := h
  rw [handleMessage_eq hdec, hok]
  have h := conclude_unpublished (s := s) htype ho hfails (w.attempted ext env event (.str s))
  exact ⟨h.reports, h.pipelineLog⟩

lemma recorded_or_logged_iff {type : String}
    (hdec : decodeEvent ext msg.value = .ok (event, .str s))
    (htype : event.getItem "event_type" = .ok (.str type)) (hreachable : env.log.reachable = true)
    (hgenuine : env.Genuine) :
    (Recorded ext.sql s (handleMessage ext env msg w).2.db ∨
        LoggedOnce ext.sql s w (handleMessage ext env msg w).2) ↔
      Recorded ext.sql s w.db ∨ (∃ id, FoundIn ext.sql 100 s id) ∧
        ∀ report, GivenUp ext env event s w report → report.Fits ext.sql := by
  have hid : event.getItem "event_id" = .ok (.str s) := decodeEvent_eventId hdec
  rw [handleMessage_db hdec env w]
  constructor
  · rintro (hrecorded | hlogged)
    · have hcommitted : Recorded ext.sql s w.db ∨ ∃ id, FoundIn ext.sql 100 s id :=
        retry_preserves (I := fun db => Recorded ext.sql s db →
            Recorded ext.sql s w.db ∨ ∃ id, FoundIn ext.sql 100 s id)
          (fun _ _ h => runInTxn_preserves (fun _ _ hrun hafter =>
            (recorded_before hid hrun hafter).elim h .inr) _ h) _ _ _ .inl hrecorded
      by_cases hbefore : Recorded ext.sql s w.db
      · exact .inl hbefore
      · refine .inr ⟨hcommitted.resolve_left hbefore, fun report ⟨x, hattempts, _⟩ => ?_⟩
        rw [hattempts] at hrecorded
        exact absurd hrecorded hbefore
    · obtain ⟨report, row, -, -, ⟨id, -, hfound⟩, -⟩ := id hlogged
      exact .inr ⟨⟨id, hfound⟩, fun report h =>
        (((h.reported hdec).loggedOnce_iff hreachable).mp hlogged).2⟩
  · rintro (hrecorded | ⟨⟨id, hfound⟩, hfits⟩)
    · exact .inl (retry_preserves (fun _ _ h => runInTxn_preserves
        (fun _ _ hrun => h.of_runs hrun) _ h) _ _ _ hrecorded)
    · refine (runAttempts_cases ext.sql hfound hid htype hgenuine w.db).imp_right ?_
      rintro ⟨x, report, hattempts, hreport⟩
      have hgiven : GivenUp ext env event s w report := ⟨x, hattempts, hreport⟩
      exact ((hgiven.reported hdec).loggedOnce_iff hreachable).mpr ⟨⟨id, hfound⟩, hfits report hgiven⟩

/-- A message with a textual id leaves a trace, and so does a publication that fails, if and only if
the id is in the ledger already or is found where its columns store it, and what is cut of the report
that is made fits its own. -/
theorem traced_iff {type : String} (hdec : decodeEvent ext msg.value = .ok (event, .str s))
    (htype : event.getItem "event_type" = .ok (.str type)) (hreachable : env.log.reachable = true)
    (hgenuine : env.Genuine) :
    ((Recorded ext.sql s (handleMessage ext env msg w).2.db ∨
          LoggedOnce ext.sql s w (handleMessage ext env msg w).2) ∧
        ((∃ report, Unpublished ext env event s w report) →
          LoggedOnce ext.sql s w (handleMessage ext env msg w).2)) ↔
      (Recorded ext.sql s w.db ∨ (∃ id, FoundIn ext.sql 100 s id) ∧
          ∀ report, GivenUp ext env event s w report → report.Fits ext.sql) ∧
        ∀ report, Unpublished ext env event s w report →
          (∃ id, FoundIn ext.sql 100 s id) ∧ report.Fits ext.sql := by
  refine and_congr (recorded_or_logged_iff hdec htype hreachable hgenuine) ?_
  rw [forall_exists_index]
  exact forall_congr' fun report => imp_congr_right fun h =>
    (h.reported hdec htype).loggedOnce_iff hreachable

lemma CallEnv.genuine_healthy : CallEnv.healthy.Genuine := by
  intro i e he
  cases he

/-- An `ORDER_CREATED` event without its data. -/
def emptyCreation : Json :=
  .obj [("event_id", .str "e1"), ("event_type", .str "ORDER_CREATED"), ("data", .obj [])]

lemma runAttempts_emptyCreation :
    runAttempts .plain CallEnv.healthy.attempts emptyCreation (.str "e1") .empty =
      (.error (.python ⟨"'client'"⟩), .empty) := rfl

/-- It is given up, and leaves its row in the log. -/
theorem traced_sample : LoggedOnce .plain "e1" .start (handleMessage (.rendered [emptyCreation])
    .healthy ⟨0, emptyCreation.render.toUTF8⟩ .start).2 := by
  have hdec : decodeEvent (.rendered [emptyCreation]) emptyCreation.render.toUTF8 =
      .ok (emptyCreation, .str "e1") :=
    decodeEvent_rendered (by simp) (List.mem_singleton_self _) rfl
  have hfits : ∀ report, GivenUp (.rendered [emptyCreation]) .healthy emptyCreation "e1" .start
      report → report.Fits .plain := by
    rintro report ⟨x, hattempts, hreport⟩
    obtain rfl : .python ⟨"'client'"⟩ = x := Except.error.inj
      (congrArg Prod.fst (runAttempts_emptyCreation.symm.trans hattempts))
    cases hreport
    exact ⟨_, SqlServer.stored_of_ascii (by decide) (by decide)⟩
  have hunpublished : ∀ report, ¬ Unpublished (.rendered [emptyCreation]) .healthy emptyCreation
      "e1" .start report := by
    rintro report ⟨o, e, hok, -⟩
    cases (congrArg Prod.fst runAttempts_emptyCreation).symm.trans hok
  refine ((traced_iff hdec rfl rfl CallEnv.genuine_healthy).mpr
    ⟨.inr ⟨⟨⟨"e1", by decide⟩, ?_⟩, hfits⟩,
      fun report h => absurd h (hunpublished report)⟩).1.resolve_left ?_
  · exact ⟨SqlServer.stored_of_ascii (by decide) (by decide), SqlServer.same_refl _ _⟩
  · rw [handleMessage_db hdec,
      show (runAttempts (Externals.rendered [emptyCreation]).sql CallEnv.healthy.attempts
        emptyCreation (.str "e1") World.start.db).2 = .empty from
          congrArg Prod.snd runAttempts_emptyCreation]
    rintro ⟨e, he, -⟩
    cases he

/-! ### An id that is too long -/

def repeated (n : ℕ) : String := .ofList (List.replicate n 'x')

lemma length_repeated (n : ℕ) : (repeated n).length = n := by
  rw [repeated, String.length_ofList, List.length_replicate]

lemma isAscii_repeated (n : ℕ) : isAscii (repeated n) = true := by
  rw [isAscii, repeated, String.toList_ofList, List.all_eq_true]
  intro c hc
  rw [List.eq_of_mem_replicate hc]
  decide

/-- The columns of the ledger and of the log do not take it. -/
lemma not_foundIn_repeated {n : ℕ} (hn : 100 < n) (id : Varchar 100) :
    ¬ FoundIn sql 100 (repeated n) id := by
  rintro ⟨hstored, -⟩
  have hblank : ' ' ∉ (repeated n).toList := by
    rw [repeated, String.toList_ofList]
    exact fun hmem => absurd (List.eq_of_mem_replicate hmem) (by decide)
  have hle := id.fits
  rw [SqlServer.text_of_ascii_stored hstored (isAscii_repeated n) hblank, length_repeated] at hle
  omega

def longId : String := repeated 101

def longEvent : Json :=
  .obj [("event_id", .str longId), ("event_type", .str "ORDER_CREATED"), ("data", .obj [])]

def longMessage : Message :=
  ⟨0, longEvent.render.toUTF8⟩

/-- The event is given up, and neither the ledger nor the log knows of it. -/
theorem long_id_untraced :
    decodeEvent (.rendered [longEvent]) longMessage.value = .ok (longEvent, .str longId) ∧
      ¬ (Recorded .plain longId
            (handleMessage (.rendered [longEvent]) .healthy longMessage .start).2.db ∨
          LoggedOnce .plain longId .start
            (handleMessage (.rendered [longEvent]) .healthy longMessage .start).2) := by
  have hid : longEvent.getItem "event_id" = .ok (.str longId) := rfl
  have htype : longEvent.getItem "event_type" = .ok (.str "ORDER_CREATED") := rfl
  have hdec : decodeEvent (.rendered [longEvent]) longMessage.value = .ok (longEvent, .str longId) :=
    decodeEvent_rendered (by simp) (List.mem_singleton_self _) hid
  refine ⟨hdec, fun htraced => ?_⟩
  rcases (recorded_or_logged_iff hdec htype rfl CallEnv.genuine_healthy).mp htraced with
    ⟨e, he, -⟩ | ⟨⟨id, hid⟩, -⟩
  · cases he
  · exact not_foundIn_repeated (by decide) id hid

end EventPipeline

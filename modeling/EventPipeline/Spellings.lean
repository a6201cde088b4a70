import EventPipeline.Approvals

/-!
# Spellings of a status

`process_event` compares the new status with `APPROVED` as Python compares strings, the server under
its collation, which ignores case and trailing blanks by default. A status that the column stores as
one the server takes for `APPROVED` has no outbox event unless it is spelled the way the code spells
it (`approved_outbox_iff`).
-/

namespace EventPipeline

open Transaction

variable {sql : SqlServer} {db db' : Database} {event eventId data name : Json}
  {outbox : Option Outbox} {status : String}

/-- The orders an UPDATE names have the status it sets. -/
lemma status_of_setStatus {status : Varchar 20} {closing : Bool} {now : ℕ} {o : Order}
    (h : o ∈ (db.setStatus sql name status closing now).ordersNamed sql name) :
    o.status = status := by
  obtain ⟨hmem, hnamed⟩ := List.mem_filter.mp h
  obtain ⟨a, ha, ⟨-, rfl⟩ | ⟨hnot, rfl⟩⟩ := mem_updateByIds.mp hmem
  · rfl
  · exact absurd (List.mem_map_of_mem (List.mem_filter.mpr ⟨ha, hnamed⟩)) hnot

lemma named_of_setStatus {status : Varchar 20} {closing : Bool} {now : ℕ} {o : Order}
    (h : o ∈ db.ordersNamed sql name) :
    o.setStatus status closing now ∈
      (db.setStatus sql name status closing now).ordersNamed sql name := by
  obtain ⟨hmem, hnamed⟩ := List.mem_filter.mp h
  exact List.mem_filter.mpr
    ⟨mem_updateByIds.mpr ⟨o, hmem, .inl ⟨List.mem_map_of_mem h, rfl⟩⟩, hnamed⟩

/-- A committed status change is dropped, or it sets the status of the orders it names and returns
an outbox event for the spelling of the code. -/
lemma StatusChange.committed (h : StatusChange event data name (.str status))
    (hrun : Runs sql.engine (eventTxn event eventId) db outbox db') :
    (db.ordersNamed sql name = [] ∧ outbox = none ∧ db'.orders = db.orders) ∨
      ∃ first ∈ db.ordersNamed sql name, ∃ (stored : Varchar 20) (closing : Bool) (now : ℕ),
        sql.stored 20 (.text status) = some stored ∧
        db'.orders = (db.setStatus sql name stored closing now).orders ∧
        ((∃ snapshot, outbox = some ⟨"ORDER_APPROVED", snapshot⟩) ↔ status = "APPROVED") := by
  obtain ⟨id, eventType, data', row, db₁, now, hc, rfl⟩ := committed_of_runs hrun
  obtain rfl : Json.str "ORDER_STATUS_CHANGED" = eventType :=
    Except.ok.inj (h.type_eq.symm.trans hc.eventType_eq)
  obtain rfl : data = data' := Except.ok.inj (h.data_eq.symm.trans hc.data_eq)
  cases hc.processed with
  | created type_eq => simp at type_eq
  | @statusChanged _ _ first stored closing now' _ _ _ hext hnew named hupdate _ houtbox =>
    obtain rfl := Except.ok.inj (h.name_eq.symm.trans hext)
    obtain rfl := Except.ok.inj (h.newStatus_eq.symm.trans hnew)
    refine .inr ⟨first, List.mem_of_mem_head? named, stored, closing, now',
      sql.textOf_str.mp hupdate.status_eq, rfl, ?_⟩
    by_cases hspelled : status = "APPROVED"
    · subst hspelled
      rw [if_pos (by simp)] at houtbox
      obtain ⟨snapshot, rfl, -⟩ := houtbox
      simp
    · rw [if_neg (by simpa using hspelled)] at houtbox
      simp [houtbox, hspelled]
  | paid type_eq => simp at type_eq
  | invoiced type_eq => simp at type_eq
  | unknownOrder hext named =>
    obtain rfl := Except.ok.inj (h.name_eq.symm.trans hext)
    exact .inl ⟨named, rfl, rfl⟩
  | unknownType _ not_changed => exact absurd rfl not_changed

/-- `process_event` returns the outbox event exactly when the server takes the stored status for
`APPROVED`, if and only if the status is spelled `APPROVED` or what the column stores of it is no
spelling of that for the server, or nothing is stored because no order is named. -/
theorem approved_outbox_iff (h : StatusChange event data name (.str status))
    (hrun : Runs sql.engine (eventTxn event eventId) db outbox db') :
    ((∃ snapshot, outbox = some ⟨"ORDER_APPROVED", snapshot⟩) ↔
        ∃ o ∈ db'.ordersNamed sql name, sql.same o.status.text "APPROVED" = true) ↔
      db.ordersNamed sql name = [] ∨ status = "APPROVED" ∨
        ∀ v : Varchar 20, sql.stored 20 (.text status) = some v →
          sql.same v.text "APPROVED" = false := by
  rcases h.committed hrun with ⟨hnone, rfl, horders⟩ |
    ⟨first, hfirst, stored, closing, now, htext, horders, houtbox⟩
  · have hnone' : db'.ordersNamed sql name = [] := by
      rw [Database.ordersNamed, horders]
      exact hnone
    simp [hnone, hnone']
  · have hnamed : db'.ordersNamed sql name =
        (db.setStatus sql name stored closing now).ordersNamed sql name := by
      rw [Database.ordersNamed, horders]
      rfl
    have hstored : (∃ o ∈ db'.ordersNamed sql name, sql.same o.status.text "APPROVED" = true) ↔
        sql.same stored.text "APPROVED" = true := by
      rw [hnamed]
      constructor
      · rintro ⟨o, ho, hsame⟩
        rwa [status_of_setStatus ho] at hsame
      · exact fun hsame => ⟨_, named_of_setStatus hfirst, hsame⟩
    have hsome : db.ordersNamed sql name ≠ [] := List.ne_nil_of_mem hfirst
    rw [houtbox, hstored]
    by_cases hspelled : status = "APPROVED"
    · subst hspelled
      rw [SqlServer.preserves_of_ascii (by decide) (by decide) stored htext]
      simp
    · simp [hspelled, hsome, htext]

/-- The approval of the sample order, spelled as the code spells it. -/
theorem approved_outbox_sample :
    ∃ (w : World) (outbox : Option Outbox) (db' : Database),
      w = (handleMessage approvedExternals .healthy sampleMessage .start).2 ∧
      Runs SqlServer.plain.engine (eventTxn approvedEvent (.str "e2")) w.db outbox db' ∧
      ((∃ snapshot, outbox = some ⟨"ORDER_APPROVED", snapshot⟩) ↔
        ∃ o ∈ db'.ordersNamed .plain (.str "o1"),
          SqlServer.plain.same o.status.text "APPROVED" = true) := by
  obtain ⟨w, hw⟩ : ∃ w, w = (handleMessage approvedExternals .healthy sampleMessage .start).2 :=
    ⟨_, rfl⟩
  obtain ⟨o, db', hcommit, ho, -⟩ := approved_commits hw CallEnv.healthy.attempts rfl rfl
    (by simp [CallEnv.healthy, Attempt.healthy])
  obtain ⟨outbox, hrun⟩ := hcommit.runs
  exact ⟨w, outbox, db', hw, hrun,
    (approved_outbox_iff (approved_approval ho).toStatusChange hrun).mpr (.inr (.inl rfl))⟩

/-! ### The default collation -/

/-- The plain server under a collation that ignores case and trailing blanks. -/
def SqlServer.caseless : SqlServer :=
  { SqlServer.plain with
    key := fun s => .ofList ((s.toList.reverse.dropWhile (· = ' ')).reverse.map Char.toUpper) }

def lowerCaseEvent : Json :=
  statusChangedEvent "e2" (.str "o1") "approved"

/-- The tables after the sample order was created. -/
def createdOrder : Database :=
  (runAttempts .caseless CallEnv.healthy.attempts sampleOrder (.str "e1") .empty).2

/-- An order becomes `approved`, which the server takes for `APPROVED`, without an outbox event. -/
theorem approval_unnoticed :
    ∃ db', Runs SqlServer.caseless.engine (eventTxn lowerCaseEvent (.str "e2")) createdOrder none db' ∧
      ∃ o ∈ db'.ordersNamed .caseless (.str "o1"),
        SqlServer.caseless.same o.status.text "APPROVED" = true := by
  have hresult : (match (eventTxn lowerCaseEvent (.str "e2")).run SqlServer.caseless.engine
      Attempt.healthy.statement 0 createdOrder with
      | .ok (outbox, _, db') => outbox.isNone && (db'.ordersNamed .caseless (.str "o1")).any
          fun o => SqlServer.caseless.same o.status.text "APPROVED"
      | .error _ => false) = true := by decide
  cases hrun : (eventTxn lowerCaseEvent (.str "e2")).run SqlServer.caseless.engine
      Attempt.healthy.statement 0 createdOrder with
  | error x =>
    rw [hrun] at hresult
    cases hresult
  | ok result =>
    obtain ⟨outbox, n, db'⟩ := result
    rw [hrun] at hresult
    simp only [Bool.and_eq_true, Option.isNone_iff_eq_none, List.any_eq_true] at hresult
    obtain ⟨rfl, hstored⟩ := hresult
    exact ⟨db', .of_run hrun, hstored⟩

end EventPipeline

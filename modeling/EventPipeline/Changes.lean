import EventPipeline.AuditTrail
import EventPipeline.Growth
import EventPipeline.Interleaving

/-!
# Changes of one order

Consumers that process `ORDER_STATUS_CHANGED` events of one order at the same time. The UPDATE of
`orders` locks the row, and no statement before it looks at what others may commit, but for the
ledger. So the changes might as well have been processed one after the other: none is lost, an order
that has become terminal stays as it is, and the history goes on unbroken (`changes_in_turn`).
-/

namespace EventPipeline

open Transaction Prog

/-- An `ORDER_STATUS_CHANGED` event whose parts are there. -/
structure ChangeEvent where
  event : Json
  eventId : Json
  data : Json
  externalOrderId : String
  newStatus : Json
  eventId_eq : event.getItem "event_id" = .ok eventId
  eventType_eq : event.getItem "event_type" = .ok (.str "ORDER_STATUS_CHANGED")
  data_eq : event.getItem "data" = .ok data
  externalOrderId_eq : data.getItem "external_order_id" = .ok (.str externalOrderId)
  newStatus_eq : data.getItem "new_status" = .ok newStatus

namespace ChangeEvent

variable (e : ChangeEvent)

def txn : Prog (Option Outbox) :=
  eventTxn e.event e.eventId

/-- The history and the snapshot, once the UPDATE has returned `rows`. -/
def record (rows : List (ℕ × Varchar 20)) : Prog (Option Outbox) := do
  match rows.head? with
  | none => return none
  | some (orderId, previousStatus) =>
    recordStatusHistory orderId (some previousStatus) e.newStatus e.eventId
    if e.newStatus.isText "APPROVED" then
      let snapshot ← fetchOrderSnapshot orderId
      return some ⟨"ORDER_APPROVED", snapshot⟩
    else
      return none

def afterUpdate (rows : List (ℕ × Varchar 20)) : Prog (Option Outbox) := do
  let outbox ← e.record rows
  markEventProcessed e.eventId
  return outbox

/-- The transaction from the UPDATE on. -/
def afterClaim : Prog (Option Outbox) := do
  let rows ← execute (.updateOrder e.newStatus (.str e.externalOrderId))
  e.afterUpdate rows

lemma txn_eq :
    e.txn = claimEvent e.eventId (.str "ORDER_STATUS_CHANGED") >>= fun _ => e.afterClaim := by
  have htype : (Json.str "ORDER_STATUS_CHANGED").isText "ORDER_CREATED" ≠ true := by decide
  simp only [txn, eventTxn, processEvent, applyEvent, orderStatusChanged, updateOrderStatus, item,
    eval, e.eventId_eq, e.eventType_eq, e.data_eq, e.externalOrderId_eq, e.newStatus_eq, if_neg htype,
    Json.isText_iff, if_true, Program.bind_assoc, Program.ret_bind, Program.pure_eq]
  rfl

/-- An event with these parts. -/
def changed (eventId order newStatus : String) : ChangeEvent where
  event := statusChangedEvent eventId (.str order) newStatus
  eventId := .str eventId
  data := .obj [("external_order_id", .str order), ("new_status", .str newStatus)]
  externalOrderId := order
  newStatus := .str newStatus
  eventId_eq := rfl
  eventType_eq := rfl
  data_eq := rfl
  externalOrderId_eq := rfl
  newStatus_eq := rfl

end ChangeEvent

variable {sql : SqlServer} {db db' : Database} {t : Tick} {e : ChangeEvent}
  {disturbed : SqlError → Prop} {q rest : Prog (Option Outbox)} {ws : List Write}
  {eventId eventType : Json} {ext : String}

/-! ### Claims -/

/-- Before its claim, refused by it, or after it. -/
lemma follows_claimEvent
    (h : Follows sql.engine disturbed (claimEvent eventId eventType >>= fun _ => rest) db q ws) :
    (q = (claimEvent eventId eventType >>= fun _ => rest) ∧ ws = []) ∨
    (∃ err, ((∃ t, sql.engine.exec t (.insertEvent eventId eventType) db = .error err) ∨
      disturbed err) ∧ q = .fail (claimError eventId err) ∧ ws = []) ∨
    ∃ t row ws', sql.engine.exec t (.insertEvent eventId eventType) db =
        .ok ((), [.insertEvent row]) ∧ sql.TextOf eventId row.eventId ∧
      ws = .insertEvent row :: ws' ∧
      Follows sql.engine disturbed rest (db.apply (.insertEvent row)) q ws' := by
  cases h with
  | here => exact .inl ⟨rfl, rfl⟩
  | executed he hk =>
    obtain ⟨row, hclaimed, rfl⟩ := exec_insertEvent_cases he
    exact .inr (.inr ⟨_, row, _, he, hclaimed.eventId, rfl, hk⟩)
  | @raised _ _ _ err _ _ he hk =>
    have hfail : Follows sql.engine disturbed
        (.fail (claimError eventId err) : Prog (Option Outbox)) db q ws := by
      unfold claimError
      simp only at hk
      split_ifs at hk ⊢ <;> exact hk
    obtain ⟨rfl, rfl⟩ := follows_fail.mp hfail
    exact .inr (.inl ⟨err, he, rfl, rfl⟩)

lemma follows_of_refused {err : SqlError}
    (he : (∃ t, sql.engine.exec t (.insertEvent eventId eventType) db = .error err) ∨
      disturbed err) :
    Follows sql.engine disturbed (claimEvent eventId eventType >>= fun _ => rest) db
      (.fail (claimError eventId err)) [] := by
  refine .raised he ?_
  unfold claimError
  simp only
  split_ifs <;> exact .here _ _

/-! ### The UPDATE -/

lemma selectRows_ordersNamed (sql : SqlServer) (ext : String) (db : Database) :
    selectRows (sql.matchesOrder (.str ext)) db.orders = .ok (db.ordersNamed sql (.str ext)) :=
  selectRows_eq_ok.mpr ⟨fun o _ => ⟨_, sql.compare_str _ ext o.externalOrderId.text⟩, rfl⟩

/-- An UPDATE that is refused is refused later as well. -/
lemma updateOrder_error {newStatus : Json} {fault : Fault}
    (hnamed : db.ordersNamed sql (.str ext) ≠ []) (hnamed' : db'.ordersNamed sql (.str ext) ≠ [])
    (hterminal : (db.ordersNamed sql (.str ext)).any sql.isTerminal = true →
      (db'.ordersNamed sql (.str ext)).any sql.isTerminal = true)
    (he : sql.updateOrder t db newStatus (.str ext) = .error fault) :
    sql.updateOrder t db' newStatus (.str ext) = .error fault := by
  have hempty : ∀ {rows : List Order}, rows ≠ [] → rows.isEmpty = false := by
    intro rows hne
    cases rows with
    | nil => exact absurd rfl hne
    | cons o rest => rfl
  simp only [SqlServer.updateOrder, selectRows_ordersNamed, bind_eq_error, Except.ok.injEq,
    reduceCtorEq, false_or, exists_eq_left', hempty hnamed, hempty hnamed', Bool.false_eq_true,
    if_false] at he ⊢
  refine he.imp id ?_
  rintro ⟨closing, hclosing, he⟩
  refine ⟨closing, hclosing, he.imp id ?_⟩
  rintro ⟨status, hstatus, he⟩
  refine ⟨status, hstatus, ?_⟩
  split_ifs at he with hany
  rw [if_pos (hterminal hany), he]

lemma exec_updateOrder_error {newStatus : Json} {err : SqlError}
    (hnamed : db.ordersNamed sql (.str ext) ≠ []) (hnamed' : db'.ordersNamed sql (.str ext) ≠ [])
    (hterminal : (db.ordersNamed sql (.str ext)).any sql.isTerminal = true →
      (db'.ordersNamed sql (.str ext)).any sql.isTerminal = true)
    (he : sql.engine.exec t (.updateOrder newStatus (.str ext)) db = .error err) :
    sql.engine.exec t (.updateOrder newStatus (.str ext)) db' = .error err := by
  simp only [SqlServer.engine, SqlServer.execute] at he ⊢
  split_ifs at he ⊢ with hbind
  · simp only [SqlServer.perform] at he ⊢
    cases hupdate : sql.updateOrder t db newStatus (.str ext) with
    | ok r =>
      rw [hupdate] at he
      cases he
    | error fault =>
      rw [hupdate] at he
      rw [updateOrder_error hnamed hnamed' hterminal hupdate]
      exact he
  · exact he

/-- The UPDATE locks the rows it finds. -/
lemma locks_updateOrder {newStatus : Json} {rows : List (ℕ × Varchar 20)} {orderId : ℕ}
    (hnamed : orderId ∈ (db.ordersNamed sql (.str ext)).map (·.orderId))
    (he : sql.engine.exec t (.updateOrder newStatus (.str ext)) db = .ok (rows, ws)) :
    Lock.order orderId ∈ sql.shared.held ws := by
  obtain ⟨-, hperform⟩ := exec_eq_ok.mp he
  simp only [SqlServer.perform, SqlServer.updateOrder, selectRows_ordersNamed, bind_eq_ok,
    Except.ok.injEq, exists_eq_left'] at hperform
  obtain ⟨o, ho, rfl⟩ := List.mem_map.mp hnamed
  split_ifs at hperform with hempty hterminal
  · rw [List.isEmpty_iff.mp hempty] at ho
    cases ho
  · simp only [bind_eq_ok] at hperform
    obtain ⟨closing, -, status, -, hperform⟩ := hperform
    cases hperform
  · simp only [bind_eq_ok] at hperform
    obtain ⟨closing, -, status, -, hperform⟩ := hperform
    cases hperform
    exact List.mem_flatMap.mpr ⟨_, List.mem_map_of_mem ho, List.mem_singleton_self _⟩

/-! ### Changes by others -/

/-- The keys of the orders, which no update changes. -/
def Database.orderKeys (db : Database) : List (ℕ × Varchar 64) :=
  db.orders.map fun o => (o.orderId, o.externalOrderId)

lemma ordersNamed_congr (h : db'.orderKeys = db.orderKeys) (ext : Json) :
    (db'.ordersNamed sql ext).map (·.orderId) = (db.ordersNamed sql ext).map (·.orderId) := by
  have hkeys : ∀ db : Database, (db.ordersNamed sql ext).map (·.orderId) =
      (db.orderKeys.filter fun k =>
        holds (sql.compare "external_order_id" ext k.2.text)).map Prod.fst := by
    intro db
    rw [Database.orderKeys, List.filter_map, List.map_map]
    rfl
  rw [hkeys, hkeys, h]

/-- What the commit of another change is for a session: an event more in the ledger, the same orders,
and none of them reopened. -/
structure OtherChange (sql : SqlServer) (key : Varchar 100) (db db' : Database) : Prop where
  event : OtherEvent db key db'
  keys : db'.orderKeys = db.orderKeys
  terminal : ∀ ext, (db.ordersNamed sql ext).any sql.isTerminal = true →
    (db'.ordersNamed sql ext).any sql.isTerminal = true

/-- A transaction that does not hold the row of the order has come as far after another change. -/
lemma ChangeEvent.follows_of_other {key : Varchar 100} {orderId : ℕ}
    (hother : OtherChange sql key db db')
    (hnamed : orderId ∈ (db.ordersNamed sql (.str e.externalOrderId)).map (·.orderId))
    (hevent : Lock.event (sql.key key.text) ∉ sql.shared.held ws)
    (horder : Lock.order orderId ∉ sql.shared.held ws)
    (h : Follows sql.engine disturbed e.txn db q ws) :
    Follows sql.engine disturbed e.txn db' q ws := by
  rw [e.txn_eq] at h ⊢
  rcases follows_claimEvent h with ⟨rfl, rfl⟩ | ⟨err, he, rfl, rfl⟩ | ⟨t, row, ws', he, -, rfl, hafter⟩
  · exact .here _ _
  · exact follows_of_refused
      (he.imp_left fun ⟨t, he⟩ => ⟨t, hother.event.exec_insertEvent_error he⟩)
  · refine .executed (hother.event.exec_insertEvent_ok (same_eq_false_of_lock hevent) he) ?_
    rcases follows_statement hafter with ⟨rfl, rfl⟩ | ⟨t, rows, ws₁, ws₂, hupdate, -, rfl⟩ |
      ⟨err, hupdate, rfl, rfl⟩
    · exact .here _ _
    · -- the UPDATE has locked the row
      have hnamed : orderId ∈ ((db.apply (.insertEvent row)).ordersNamed sql
        (.str e.externalOrderId)).map (·.orderId) := hnamed
      have hlock := locks_updateOrder hnamed hupdate
      rw [Store.held_cons, Store.held_append] at horder
      exact absurd (List.mem_append_right _ (List.mem_append_left _ hlock)) horder
    · have hne : ∀ {rows : List Order}, orderId ∈ rows.map (·.orderId) → rows ≠ [] := by
        rintro rows hmem rfl
        cases hmem
      have hfound : (db.apply (.insertEvent row)).ordersNamed sql (.str e.externalOrderId) ≠ [] :=
        hne hnamed
      have hfound' : (db'.apply (.insertEvent row)).ordersNamed sql (.str e.externalOrderId) ≠ [] :=
        hne ((ordersNamed_congr hother.keys (.str e.externalOrderId)).symm ▸ hnamed)
      refine .raised (hupdate.imp_left fun ⟨t, hupdate⟩ => ⟨t, ?_⟩) (.here _ _)
      exact exec_updateOrder_error hfound hfound' (hother.terminal _) hupdate

/-! ### Commits -/

namespace ChangeEvent

/-- A transaction that returns has executed its UPDATE. -/
lemma updated_of_follows {a : Option Outbox} {orderId : ℕ}
    (hnamed : orderId ∈ (db.ordersNamed sql (.str e.externalOrderId)).map (·.orderId))
    (h : Follows sql.engine disturbed e.txn db (.ret a) ws) :
    ∃ row : ProcessedEvent, sql.TextOf e.eventId row.eventId ∧
      Lock.event (sql.key row.eventId.text) ∈ sql.shared.held ws ∧
        Lock.order orderId ∈ sql.shared.held ws := by
  rw [e.txn_eq] at h
  rcases follows_claimEvent h with ⟨hq, -⟩ | ⟨err, -, hq, -⟩ | ⟨t, row, ws', -, hrow, rfl, hafter⟩
  · cases hq
  · cases hq
  · rcases follows_statement hafter with ⟨hq, -⟩ | ⟨t, rows, ws₁, ws₂, hupdate, -, rfl⟩ |
      ⟨err, -, hq, -⟩
    · cases hq
    · have hnamed : orderId ∈ ((db.apply (.insertEvent row)).ordersNamed sql
        (.str e.externalOrderId)).map (·.orderId) := hnamed
      have hlock := locks_updateOrder hnamed hupdate
      refine ⟨row, hrow, List.mem_cons_self, ?_⟩
      rw [Store.held_cons, Store.held_append]
      exact List.mem_append_right _ (List.mem_append_left _ hlock)
    · cases hq

lemma orderKeys_setStatus {newStatus : Json} {status : Varchar 20} {closing : Bool} {now : ℕ} :
    (db.setStatus sql newStatus status closing now).orderKeys = db.orderKeys :=
  map_updateByIds (f := fun o : Order => o.setStatus status closing now)
    (g := fun o : Order => (o.orderId, o.externalOrderId)) (fun _ => rfl) _ db.orders

lemma orderKeys_processed {data : Json} {outbox : Option Outbox}
    (h : Processed sql eventId (.str "ORDER_STATUS_CHANGED") data db outbox db') :
    db'.orderKeys = db.orderKeys := by
  cases h with
  | created h => simp at h
  | statusChanged => exact orderKeys_setStatus
  | paid h => simp at h
  | invoiced h => simp at h
  | unknownOrder => rfl
  | unknownType => rfl

/-- What a committed change is for the others. -/
lemma otherChange_of_follows {a : Option Outbox} {orderId : ℕ} (hc : Consistent sql db)
    (hnamed : orderId ∈ (db.ordersNamed sql (.str e.externalOrderId)).map (·.orderId))
    (h : Follows sql.engine disturbed e.txn db (.ret a) ws) :
    ∃ key, OtherChange sql key db (sql.engine.applyAll db ws) ∧
      Lock.event (sql.key key.text) ∈ sql.shared.held ws ∧
        Lock.order orderId ∈ sql.shared.held ws := by
  obtain ⟨row, hrow, hevent, horder⟩ := updated_of_follows hnamed h
  refine ⟨row.eventId, ?_, hevent, horder⟩
  have hlater := Later.of_runs hc h.runs
  obtain ⟨id, eventType, data, row', db₁, now, hcommitted, hdb⟩ := committed_of_runs h.runs
  obtain rfl := Except.ok.inj (e.eventId_eq.symm.trans hcommitted.eventId_eq)
  obtain rfl := Except.ok.inj (e.eventType_eq.symm.trans hcommitted.eventType_eq)
  refine ⟨?_, ?_, fun ext hany => ?_⟩
  · rw [hdb, OtherEvent, Database.marked, hcommitted.processed.processedEvents_eq, List.map_map,
      sql.textOf_unique hrow hcommitted.claimed.eventId]
    rw [← List.map_singleton (f := fun e : ProcessedEvent => e.eventId), ← List.map_append]
    refine List.map_congr_left fun e _ => ?_
    simp only [Function.comp_apply]
    split_ifs <;> rfl
  · have hkeys := orderKeys_processed hcommitted.processed
    rw [hdb]
    exact hkeys
  · obtain ⟨o, ho, hterminal⟩ := List.any_eq_true.mp hany
    obtain ⟨hmem, hmatch⟩ := List.mem_filter.mp ho
    obtain ⟨o', hmem', hext, hstays⟩ := hlater.orders.exists_of_mem hmem
    refine List.any_eq_true.mpr ⟨o', List.mem_filter.mpr ⟨hmem', ?_⟩, hstays hterminal⟩
    rw [SqlServer.matchesOrder, hext]
    exact hmatch

end ChangeEvent

/-! ### Runs -/

/-- The events of the log, processed one after the other, each in one transaction of its own. The
environment raises no errors but those that are `disturbed`. -/
inductive EventsInTurn {ι : Type} (sql : SqlServer) (events : ι → Json × Json)
    (disturbed : SqlError → Prop) (db : Database) :
    List (ι × Except Exn (Option Outbox)) → Database → Prop
  | nil : EventsInTurn sql events disturbed db [] db
  | next {log : List (ι × Except Exn (Option Outbox))} {db₁ db₂ : Database} {i : ι}
      {attempt : Attempt} {result : Except Exn (Option Outbox)}
      (h : EventsInTurn sql events disturbed db log db₁) (hbegin : attempt.begin = none)
      (hstatement : ∀ n e, attempt.statement n = .error e → disturbed e)
      (hcommit : attempt.commit = .acknowledged)
      (hrun : runInTxn sql attempt (events i).1 (events i).2 db₁ = (result, db₂)) :
      EventsInTurn sql events disturbed db (log ++ [(i, result)]) db₂

section Runs

variable {ι : Type} {changes : ι → ChangeEvent} {orderId : ℕ}

/-- Consumers that process one change each, in at most three attempts. -/
def changers (changes : ι → ChangeEvent) (disturbed : SqlError → Prop) :
    Clients Stmt Stmt.Result SqlError Exn (Option Outbox) ι where
  program i := eventTxn (changes i).event (changes i).eventId
  disturbed := disturbed
  again := Exn.isOperational
  more := 2

lemma eventsInTurn_of_serial {log : List (ι × Except Exn (Option Outbox))}
    (h : Serial sql.engine (changers changes disturbed) db log db') :
    EventsInTurn sql (fun i => ((changes i).event, (changes i).eventId)) disturbed db log db' := by
  induction h with
  | nil => exact .nil
  | @committed _ s' i a ws _ hp ih =>
    obtain ⟨m, -, env, henv, hrun⟩ := hp.run 0
    have hattempt : runInTxn sql ⟨none, env, .acknowledged⟩ (changes i).event (changes i).eventId s' =
        (.ok a, sql.engine.applyAll s' ws) := by
      have hrun' : (eventTxn (changes i).event (changes i).eventId).run sql.engine env 0 s' = _ := hrun
      simp only [runInTxn, hrun', Program.run_ret]
    exact ih.next (by rfl) henv (by rfl) hattempt
  | @failed _ s' i x ws _ hp ih =>
    obtain ⟨m, -, env, henv, hrun⟩ := hp.run 0
    have hattempt : runInTxn sql ⟨none, env, .acknowledged⟩ (changes i).event (changes i).eventId s' =
        (.error x, s') := by
      have hrun' : (eventTxn (changes i).event (changes i).eventId).run sql.engine env 0 s' = _ := hrun
      simp only [runInTxn, hrun', Program.run_fail]
    exact ih.next (by rfl) henv (by rfl) hattempt

/-- Every change is one of the order, and the histories are unbroken. -/
structure Changing (sql : SqlServer) (changes : ι → ChangeEvent) (orderId : ℕ) (db : Database) :
    Prop where
  consistent : Consistent sql db
  trail : TrailInv db
  named : ∀ i, orderId ∈
    (db.ordersNamed sql (.str (changes i).externalOrderId)).map (·.orderId)

lemma Changing.committed {i : ι} {a : Option Outbox} (h : Changing sql changes orderId db)
    (hcommit : Follows sql.engine disturbed (changes i).txn db (.ret a) ws) :
    Changing sql changes orderId (sql.engine.applyAll db ws) := by
  obtain ⟨key, hother, -⟩ := ChangeEvent.otherChange_of_follows h.consistent (h.named i) hcommit
  refine ⟨h.consistent.step hcommit.runs, ?_, fun j => ?_⟩
  · have hone : NamesOneOrder sql db ⟨(changes i).event, (changes i).eventId,
        (changes i).eventId_eq, 0⟩ := by
      intro data ext _ hdata hext
      obtain rfl := Except.ok.inj ((changes i).data_eq.symm.trans hdata)
      obtain rfl := Except.ok.inj ((changes i).externalOrderId_eq.symm.trans hext)
      exact h.consistent.ordersNamed_str _
    exact h.trail.step h.consistent hone hcommit.runs
  · rw [ordersNamed_congr hother.keys]
    exact h.named j

/-- The statements that write what they find at once. -/
def Stmt.AtOnce : Stmt → Prop
  | .mergeClient _ => False
  | _ => True

lemma ChangeEvent.callsOnly_txn (e : ChangeEvent) : e.txn.CallsOnly Stmt.AtOnce := by
  have hcall : ∀ stmt : Stmt, stmt.AtOnce → (execute stmt).CallsOnly Stmt.AtOnce :=
    fun stmt h => .statement h
  rw [e.txn_eq]
  refine .bind ⟨trivial, fun r => ?_⟩ fun _ => .bind (hcall _ trivial) fun rows =>
    .bind ?_ fun outbox => .bind (hcall _ trivial) fun _ => trivial
  · cases r with
    | ok u => trivial
    | error err =>
      simp only
      split_ifs <;> trivial
  · unfold ChangeEvent.record
    split
    · trivial
    · refine .bind (hcall _ trivial) fun _ => ?_
      split_ifs
      · refine .bind (.bind (hcall _ trivial) fun rows => .bind (hcall _ trivial) fun items => ?_)
          fun snapshot => trivial
        cases rows <;> trivial
      · trivial

lemma look_of_atOnce {op : Stmt} {found : List Client} (hop : op.AtOnce)
    (hlook : sql.look op db = .ok found) : sql.look op db' = .ok found := by
  cases op with
  | mergeClient p => cases hop
  | _ => exact hlook

/-- A session that does not hold the row of the order is led nowhere by the commit of another
change. -/
lemma tracks_of_change {key : Varchar 100} {session : Session sql.shared Exn (Option Outbox)}
    (hother : OtherChange sql key db db')
    (hnamed : orderId ∈ (db.ordersNamed sql (.str e.externalOrderId)).map (·.orderId))
    (hevent : Lock.event (sql.key key.text) ∉ sql.shared.held session.own)
    (horder : Lock.order orderId ∉ sql.shared.held session.own)
    (h : session.Tracks disturbed e.txn db) : session.Tracks disturbed e.txn db' := by
  unfold Session.Tracks at h ⊢
  rw [sql.shared_engine] at h ⊢
  cases hstage : session.stage with
  | running q =>
    simp only [hstage] at h ⊢
    exact e.follows_of_other hother hnamed hevent horder h
  | writing op found k =>
    simp only [hstage] at h ⊢
    exact e.follows_of_other hother hnamed hevent horder h
  | ended r =>
    simp only [hstage] at h ⊢
    exact h

variable [DecidableEq ι]

/-- Whatever the consumers do one between the other, each of them goes on as if it had just begun. -/
lemma Changing.inv_of_reachable {c : Consumers sql ι}
    (hdb : Changing sql changes orderId db)
    (h : Cluster.Reachable (changers changes disturbed) (fun _ _ => True) db c) :
    Changing sql changes orderId c.committed ∧
      Cluster.Inv (changers changes disturbed) db c := by
  have hfollows : ∀ {i : ι} {c : Consumers sql ι} {q : Prog (Option Outbox)},
      Cluster.Inv (changers changes disturbed) db c → (c.sessions i).stage = .running q →
      Follows sql.engine disturbed (changes i).txn c.committed q (c.sessions i).own := by
    intro i c q hinv hstage
    rw [← sql.shared_engine]
    exact hinv.tracks_view hstage
  have hinv := Cluster.Reachable.inv
    (J := fun c => Changing sql changes orderId c.committed ∧ ∀ i, c.UpToDate i)
    ⟨hdb, fun i op found k hstage => by cases hstage⟩ ?_ (fun i c hJ _ _ => hJ.2 i) ?_ h
  · exact ⟨hinv.1.1, hinv.2⟩
  · rintro i c c' ⟨hchanging, hcurrent⟩ hinv - hstep
    refine ⟨?_, fun j op found k hstage => ?_⟩
    · rcases hstep.committed_cases with hsame | ⟨a, hstage, hcommit⟩
      · rw [hsame]
        exact hchanging
      · rw [hcommit, Cluster.view, sql.shared_engine]
        exact hchanging.committed (hfollows hinv hstage)
    · by_cases hj : j = i
      · subst hj
        exact ⟨found, hstep.look_eq hstage, sql.shared.alike_refl found⟩
      · rw [hstep.sessions_of_ne hj] at hstage
        obtain ⟨found', hlook, halike⟩ := hcurrent j op found k hstage
        have htracks := hinv.tracks_writing hstage
        exact ⟨found', look_of_atOnce (htracks.callsOnly (changes j).callsOnly_txn).1 hlook, halike⟩
  · rintro i c a ⟨hchanging, -⟩ hinv hstage j hne htracks
    obtain ⟨key, hother, hevent, horder⟩ := ChangeEvent.otherChange_of_follows
      hchanging.consistent (hchanging.named i) (hfollows hinv hstage)
    rw [Cluster.view, sql.shared_engine]
    exact tracks_of_change hother (hchanging.named j) (hinv.apart i j hne.symm _ hevent)
      (hinv.apart i j hne.symm _ horder) htracks

/-- Consumers that process changes of one stored order, each in at most three attempts: whatever
they do between two statements of each other, the tables are those that the changes leave one after
the other, and the histories of the orders are unbroken. -/
theorem changes_in_turn {ext : Externals} {f : Fleet}
    (hf : Fleet.Reachable ext (NamesOneOrder ext.sql) f) {order : Order}
    (horder : ∀ i, order ∈ f.world.db.ordersNamed ext.sql (.str (changes i).externalOrderId))
    {c : Consumers ext.sql ι}
    (h : Cluster.Reachable (changers changes disturbed) (fun _ _ => True) f.world.db c) :
    (∃ log, EventsInTurn ext.sql (fun i => ((changes i).event, (changes i).eventId)) disturbed
        f.world.db log c.committed ∧
      (log.map Prod.fst).Nodup ∧ ∀ i r, (i, r) ∈ log ↔ (c.sessions i).stage = .ended r) ∧
    ∀ o ∈ c.committed.orders, AuditTrail (c.committed.historyOf o.orderId) o.status := by
  have hdb : Changing ext.sql changes order.orderId f.world.db :=
    ⟨hf.consistent, .of_reachable hf, fun i => List.mem_map_of_mem (horder i)⟩
  obtain ⟨hchanging, hinv⟩ := hdb.inv_of_reachable h
  obtain ⟨log, hserial, hnodup, hlog⟩ := hinv.serial
  rw [ext.sql.shared_engine] at hserial
  exact ⟨⟨log, eventsInTurn_of_serial hserial, hnodup, hlog⟩, hchanging.trail⟩

/-! ### An order that is approved and cancelled -/

def rivalChanges : Bool → ChangeEvent
  | false => .changed "e2" "o1" "APPROVED"
  | true => .changed "e3" "o1" "CANCELLED"

/-- Both have claimed their events and are about to update the order when the first one locks it. -/
def changeTurns : List (Bool × Tick) :=
  ([false, false, true, true, false, true] ++ List.replicate 10 false ++ List.replicate 6 true).map
    fun i => (i, ⟨0, 0⟩)

theorem changes_in_turn_rivals :
    ∃ (f : Fleet) (c : Consumers .plain Bool), f.world.db.statusHistory.length = 1 ∧
      c.committed.statusHistory.map (·.newStatus.text) = ["PENDING", "APPROVED", "CANCELLED"] ∧
      (∃ log, EventsInTurn .plain (fun i => ((rivalChanges i).event, (rivalChanges i).eventId))
          (fun _ => False) f.world.db log c.committed ∧
        (log.map Prod.fst).Nodup ∧ ∀ i r, (i, r) ∈ log ↔ (c.sessions i).stage = .ended r) ∧
      ∀ o ∈ c.committed.orders, AuditTrail (c.committed.historyOf o.orderId) o.status := by
  obtain ⟨w, hreach, hdb⟩ := @exists_reachable (NamesOneOrder .plain) [(sampleOrder, .str "e1")]
    (by
      intro event hevent db call hcall data ext htype
      rw [List.mem_singleton] at hevent
      subst hevent
      rw [hcall] at htype
      simp [sampleOrder, orderCreatedEvent, Json.getItem, List.lookup_cons] at htype)
    (by decide) (by simp [sampleOrder, orderCreatedEvent, Json.getItem])
  have hrun : (Cluster.acts (changers rivalChanges fun _ => False) (fun _ _ => True) changeTurns
      (Cluster.start (changers rivalChanges fun _ => False) w.db : Consumers .plain Bool)).map
        (·.committed.statusHistory.map (·.newStatus.text)) =
      some ["PENDING", "APPROVED", "CANCELLED"] := by
    rw [hdb]
    rfl
  obtain ⟨c, hacts, hhistory⟩ := Option.map_eq_some_iff.mp hrun
  obtain ⟨order, hnamed⟩ : ∃ order, w.db.ordersNamed .plain (.str "o1") = [order] := by
    rw [hdb]
    exact ⟨_, rfl⟩
  have horder : ∀ i, order ∈ w.db.ordersNamed .plain (.str (rivalChanges i).externalOrderId) := by
    have hmem : order ∈ w.db.ordersNamed .plain (.str "o1") := by simp [hnamed]
    intro i
    cases i <;> exact hmem
  exact ⟨⟨w, []⟩, c, by rw [hdb]; rfl, hhistory,
    changes_in_turn hreach horder (Cluster.reachable_of_acts .start hacts)⟩

end Runs

end EventPipeline

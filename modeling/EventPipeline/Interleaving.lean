import EventPipeline.Consistency
import EventPipeline.Library.Session
import EventPipeline.Library.Simulation

/-!
# Transactions that overlap

The consumers as sessions of one server under READ COMMITTED SNAPSHOT. A SELECT reads what is
committed and what its own transaction has written. The MERGE into `clients` takes no range lock: it
tests for the client first and inserts or updates afterwards. A row that is written, and the key of a
unique index that is taken, stay locked until the transaction ends.

Orders of a client that is stored meet at its row, so that an open transaction goes on as if it had
just begun, whatever the others commit (`inv_of_reachable`).
-/

namespace EventPipeline

open Transaction Prog

/-- A row, or a key of a unique index. -/
inductive Lock
  | event (key : String)
  | client (clientId : ℕ)
  | clientKey (key : String)
  | address (addressId : ℕ)
  | currentAddress (clientId : ℕ) (key : String)
  | order (orderId : ℕ)
  | orderKey (key : String)
  | item (orderItemId : ℕ)
  | history (historyId : ℕ)
  | payment (paymentId : ℕ)
  | paymentKey (key : String)
  | invoice (invoiceId : ℕ)
  | invoiceKey (key : String)
  deriving DecidableEq

def Write.locks (sql : SqlServer) : Write → List Lock
  | .insertEvent row => [.event (sql.key row.eventId.text)]
  | .markEvent eventId _ => [.event (sql.key eventId.text)]
  | .insertClient row => [.client row.clientId, .clientKey (sql.key row.externalClientId.text)]
  | .updateClient clientId _ _ _ _ => [.client clientId]
  | .insertAddress row =>
    [.address row.addressId, .currentAddress row.clientId (sql.key row.externalAddressId.text)]
  | .expireAddress addressId _ => [.address addressId]
  | .insertOrder row => [.order row.orderId, .orderKey (sql.key row.externalOrderId.text)]
  | .updateOrder orderId _ _ _ => [.order orderId]
  | .insertItem row => [.item row.orderItemId]
  | .insertHistory row => [.history row.historyId]
  | .insertPayment row => [.payment row.paymentId, .paymentKey (sql.key row.externalPaymentId.text)]
  | .updatePayment paymentId _ _ _ _ => [.payment paymentId]
  | .insertInvoice row => [.invoice row.invoiceId, .invoiceKey (sql.key row.externalInvoiceId.text)]
  | .updateInvoice invoiceId _ _ _ => [.invoice invoiceId]

namespace SqlServer

variable (sql : SqlServer)

/-- What a statement finds before it writes: the rows that the MERGE into `clients` matches. -/
def look : Stmt → Database → Except SqlError (List Client)
  | .mergeClient client, db =>
    if (Stmt.mergeClient client).parameters.all Json.bindable then
      (selectRows (sql.matchesClient client.externalClientId) db.clients).mapError sql.raise
    else .error (sql.raise .unbindable)
  | _, _ => .ok []

/-- The rest of a statement, on the state it meets then. -/
def write (t : Tick) : (stmt : Stmt) → List Client → Database →
    Except SqlError (stmt.Result × List Write)
  | .mergeClient client, matched, db => (sql.writeClient t db client matched).mapError sql.raise
  | stmt, _, db => sql.engine.exec t stmt db

/-- Where a row is matched, the MERGE depends on the keys of the matched rows alone. -/
lemma writeClient_eq {t : Tick} {db db' : Database} {client : ClientParams}
    {matched matched' : List Client} (h : matched.map (·.clientId) = matched'.map (·.clientId))
    (hdb : matched ≠ [] ∨ db = db') :
    sql.writeClient t db client matched = sql.writeClient t db' client matched' := by
  have hlength : matched.length = matched'.length := by simpa using congrArg List.length h
  have hempty : matched.isEmpty = matched'.isEmpty := by
    cases matched <;> cases matched' <;> simp at hlength ⊢
  have hupdates : ∀ name email document now,
      matched.map (fun c => Write.updateClient c.clientId name email document now) =
        matched'.map fun c => Write.updateClient c.clientId name email document now := by
    intro name email document now
    simpa only [List.map_map, Function.comp_def] using
      congrArg (List.map fun id => Write.updateClient id name email document now) h
  simp only [writeClient, hempty, h, hupdates]
  rcases hdb with hne | rfl
  · have hmatched : matched'.isEmpty = false := hempty ▸ by simpa using hne
    simp only [hmatched, Bool.false_eq_true, if_false]
  · rfl

/-- The server as several sessions share it. -/
def shared : Store Stmt Stmt.Result Database Write Tick SqlError Lock where
  Found _ := List Client
  look := sql.look
  write := sql.write
  apply := Database.apply
  locks := Write.locks sql
  Alike matched matched' := matched.map (·.clientId) = matched'.map (·.clientId)
  alike_refl _ := rfl
  write_alike {stmt matched matched'} h t db := by
    cases stmt with
    | mergeClient client =>
      simp only [write, sql.writeClient_eq h (.inr rfl)]
    | _ => rfl

lemma shared_engine : sql.shared.engine = sql.engine := by
  have hexec : ∀ t stmt db, sql.shared.engine.exec t stmt db = sql.engine.exec t stmt db := by
    intro t stmt db
    cases stmt with
    | mergeClient client =>
      simp only [Store.engine, shared, look, write, engine, execute]
      split_ifs with hbind
      · simp only [perform, mergeClient]
        cases selectRows (sql.matchesClient client.externalClientId) db.clients <;> rfl
      · rfl
    | _ => rfl
  exact congrArg (Engine.mk · Database.apply) (by funext t stmt db; exact hexec t stmt db)

end SqlServer

/-! ### Orders of a client -/

/-- An `ORDER_CREATED` event whose parts are there. -/
structure OrderEvent where
  event : Json
  eventId : Json
  data : Json
  client : Json
  address : Json
  params : ClientParams
  externalAddressId : String
  eventId_eq : event.getItem "event_id" = .ok eventId
  eventType_eq : event.getItem "event_type" = .ok (.str "ORDER_CREATED")
  data_eq : event.getItem "data" = .ok data
  client_eq : data.getItem "client" = .ok client
  params_eq : clientParams client = .ok params
  address_eq : data.getItem "address" = .ok address
  externalAddressId_eq : address.getItem "external_address_id" = .ok (.str externalAddressId)

namespace OrderEvent

variable (o : OrderEvent)

def txn : Prog (Option Outbox) :=
  eventTxn o.event o.eventId

/-- The transaction from the insertion of the order on. -/
def afterAddress (clientId addressId : ℕ) : Prog (Option Outbox) := do
  let orderId ← insertOrder clientId addressId o.data
  let items ← eval (o.data.get "items" (.arr []))
  insertOrderItems orderId items
  recordStatusHistory orderId none (.str "PENDING") o.eventId
  markEventProcessed o.eventId
  return none

/-- The transaction from the MERGE into `clients` on. -/
def afterClaim : Prog (Option Outbox) := do
  let rows ← execute (.mergeClient o.params)
  let clientId ← first "client_id" rows
  let addressId ← upsertCurrentAddress clientId o.address
  o.afterAddress clientId addressId

lemma txn_eq : o.txn = claimEvent o.eventId (.str "ORDER_CREATED") >>= fun _ => o.afterClaim := by
  simp only [txn, eventTxn, processEvent, applyEvent, orderCreated, upsertClient, afterClaim,
    afterAddress, item, eval, o.eventId_eq, o.eventType_eq, o.data_eq, o.client_eq, o.params_eq,
    o.address_eq, Json.isText_iff, if_true, Program.bind_assoc, Program.ret_bind, Program.pure_eq]

/-- An order without items. -/
def created (eventId order client address street : String) : OrderEvent where
  event := orderCreatedEvent eventId order client address (.str street)
  eventId := .str eventId
  data := .obj [("external_order_id", .str order), ("total_amount", .int 10),
    ("client", .obj [("external_client_id", .str client), ("name", .str "Ana"),
      ("email", .str "a@b"), ("document", .str "1")]),
    ("address", .obj [("external_address_id", .str address), ("street", .str street),
      ("number", .str "1"), ("neighborhood", .str "Centro"), ("city", .str "Recife"),
      ("state", .str "PE"), ("postal_code", .str "50000"), ("country", .str "BR")])]
  client := .obj [("external_client_id", .str client), ("name", .str "Ana"),
    ("email", .str "a@b"), ("document", .str "1")]
  address := .obj [("external_address_id", .str address), ("street", .str street),
    ("number", .str "1"), ("neighborhood", .str "Centro"), ("city", .str "Recife"),
    ("state", .str "PE"), ("postal_code", .str "50000"), ("country", .str "BR")]
  params := ⟨.str client, .str "Ana", .str "a@b", .str "1"⟩
  externalAddressId := address
  eventId_eq := rfl
  eventType_eq := rfl
  data_eq := rfl
  client_eq := rfl
  params_eq := rfl
  address_eq := rfl
  externalAddressId_eq := rfl

end OrderEvent

variable {sql : SqlServer} {db db' : Database} {t : Tick}

/-! ### What other orders do not change -/

/-- The keys of the clients, which no update changes. -/
def Database.roster (db : Database) : List (ℕ × Varchar 64) :=
  db.clients.map fun c => (c.clientId, c.externalClientId)

lemma roster_apply (h : db'.roster = db.roster) (w : Write) :
    (db'.apply w).roster = (db.apply w).roster := by
  cases w with
  | insertClient row =>
    simp only [Database.roster, Database.apply, List.map_append] at h ⊢
    rw [h]
  | updateClient id name email document now =>
    have hkeys : ∀ c : Client, ((c.update name email document now).clientId,
        (c.update name email document now).externalClientId) = (c.clientId, c.externalClientId) :=
      fun _ => rfl
    simp only [Database.roster, Database.apply, updateById_eq] at h ⊢
    rw [map_updateByIds hkeys, map_updateByIds hkeys, h]
  | _ => exact h

lemma roster_applyAll (h : db'.roster = db.roster) (ws : List Write) :
    (sql.engine.applyAll db' ws).roster = (sql.engine.applyAll db ws).roster := by
  induction ws generalizing db db' with
  | nil => exact h
  | cons w ws ih => exact ih (roster_apply h w)

/-- The state after another event, claimed under `id`. -/
def OtherEvent (db : Database) (id : Varchar 100) (db' : Database) : Prop :=
  db'.processedEvents.map (·.eventId) = db.processedEvents.map (·.eventId) ++ [id]

lemma selectRows_roster (sql : SqlServer) (ext : Json) (db : Database) :
    (selectRows (sql.matchesClient ext) db.clients).map (List.map fun c => c.clientId) =
      (selectRows (fun r : ℕ × Varchar 64 => sql.compare "external_client_id" ext r.2.text)
        db.roster).map (List.map Prod.fst) := by
  rw [Database.roster, selectRows_map]
  cases hrows : selectRows (sql.matchesClient ext) db.clients with
  | error e =>
    have hrows' : selectRows (fun c : Client =>
        sql.compare "external_client_id" ext c.externalClientId.text) db.clients = .error e := hrows
    rw [hrows']
    rfl
  | ok rows =>
    have hrows' : selectRows (fun c : Client =>
        sql.compare "external_client_id" ext c.externalClientId.text) db.clients = .ok rows := hrows
    rw [hrows']
    simp only [Except.map, List.map_map, Function.comp_def]

/-- The MERGE into `clients` sees their keys alone, if it matches. -/
lemma mergeClient_congr {p : ClientParams} (h : db'.roster = db.roster)
    (hnamed : db.clientsNamed sql p.externalClientId ≠ []) :
    sql.mergeClient t db' p = sql.mergeClient t db p := by
  have hkeys := (selectRows_roster sql p.externalClientId db').trans
    ((congrArg _ (congrArg _ h)).trans (selectRows_roster sql p.externalClientId db).symm)
  simp only [SqlServer.mergeClient]
  cases hrows : selectRows (sql.matchesClient p.externalClientId) db.clients with
  | error e =>
    cases hrows' : selectRows (sql.matchesClient p.externalClientId) db'.clients with
    | error e' =>
      rw [hrows, hrows'] at hkeys
      cases hkeys
      rfl
    | ok rows' =>
      rw [hrows, hrows'] at hkeys
      cases hkeys
  | ok rows =>
    cases hrows' : selectRows (sql.matchesClient p.externalClientId) db'.clients with
    | error e' =>
      rw [hrows, hrows'] at hkeys
      cases hkeys
    | ok rows' =>
      rw [hrows, hrows'] at hkeys
      have hids := Except.ok.inj hkeys
      obtain rfl : rows = db.clientsNamed sql p.externalClientId := (selectRows_eq_ok.mp hrows).2
      refine sql.writeClient_eq hids (.inl fun hnil => hnamed ?_)
      rw [hnil, List.map_nil] at hids
      exact List.map_eq_nil_iff.mp hids.symm

namespace OtherEvent

variable {key : Varchar 100}

lemma any_eq (h : OtherEvent db key db') (text : String) :
    (db'.processedEvents.any fun e => sql.same text e.eventId.text) =
      ((db.processedEvents.any fun e => sql.same text e.eventId.text) || sql.same text key.text) := by
  have hany := congrArg (List.any · fun key : Varchar 100 => sql.same text key.text) h
  simpa only [List.any_map, List.any_append, List.any_cons, List.any_nil, Bool.or_false,
    Function.comp_def] using hany

/-- An event is claimed as before, if its id is another one. -/
lemma insertEvent_ok (h : OtherEvent db key db') {eventId eventType : Json} {row : ProcessedEvent}
    (hrow : sql.same row.eventId.text key.text = false)
    (he : sql.insertEvent t db eventId eventType = .ok [.insertEvent row]) :
    sql.insertEvent t db' eventId eventType = .ok [.insertEvent row] := by
  simp only [SqlServer.insertEvent, bind_eq_ok] at he ⊢
  obtain ⟨v, hv, w, hw, id', hid', type, htype, he⟩ := he
  refine ⟨v, hv, w, hw, id', hid', type, htype, ?_⟩
  split_ifs at he with hany
  cases he
  rw [h.any_eq, hrow, Bool.or_false, if_neg hany]

/-- A claim that is refused is still refused. -/
lemma insertEvent_error (h : OtherEvent db key db') {eventId eventType : Json} {fault : Fault}
    (he : sql.insertEvent t db eventId eventType = .error fault) :
    sql.insertEvent t db' eventId eventType = .error fault := by
  simp only [SqlServer.insertEvent, bind_eq_error] at he ⊢
  refine he.imp id ?_
  rintro ⟨v, hv, he⟩
  refine ⟨v, hv, he.imp id ?_⟩
  rintro ⟨w, hw, he⟩
  refine ⟨w, hw, he.imp id ?_⟩
  rintro ⟨id', hid', he⟩
  refine ⟨id', hid', he.imp id ?_⟩
  rintro ⟨type, htype, he⟩
  refine ⟨type, htype, ?_⟩
  split_ifs at he with hany
  rw [h.any_eq, hany, Bool.true_or, if_pos rfl, he]

/-- The same on the level of the server. -/
lemma exec_insertEvent_error (h : OtherEvent db key db') {eventId eventType : Json} {e : SqlError}
    (he : sql.engine.exec t (.insertEvent eventId eventType) db = .error e) :
    sql.engine.exec t (.insertEvent eventId eventType) db' = .error e := by
  simp only [SqlServer.engine, SqlServer.execute] at he ⊢
  split_ifs at he ⊢ with hbind
  · simp only [SqlServer.perform, SqlServer.silent] at he ⊢
    cases hinsert : sql.insertEvent t db eventId eventType with
    | ok ws =>
      rw [hinsert] at he
      cases he
    | error fault =>
      rw [hinsert] at he
      rw [h.insertEvent_error hinsert]
      exact he
  · exact he

lemma exec_insertEvent_ok (h : OtherEvent db key db') {eventId eventType : Json}
    {row : ProcessedEvent} (hrow : sql.same row.eventId.text key.text = false)
    (he : sql.engine.exec t (.insertEvent eventId eventType) db = .ok ((), [.insertEvent row])) :
    sql.engine.exec t (.insertEvent eventId eventType) db' = .ok ((), [.insertEvent row]) := by
  obtain ⟨hbind, hperform⟩ := exec_eq_ok.mp he
  refine exec_eq_ok.mpr ⟨hbind, ?_⟩
  simp only [SqlServer.perform, SqlServer.silent, bind_eq_ok, Except.ok.injEq, Prod.mk.injEq,
    true_and] at hperform ⊢
  obtain ⟨ws, hinsert, rfl⟩ := hperform
  exact ⟨_, h.insertEvent_ok hrow hinsert, rfl⟩

end OtherEvent

lemma exec_mergeClient_congr {p : ClientParams} (h : db'.roster = db.roster)
    (hnamed : db.clientsNamed sql p.externalClientId ≠ []) :
    sql.engine.exec t (.mergeClient p) db' = sql.engine.exec t (.mergeClient p) db := by
  simp only [SqlServer.engine, SqlServer.execute, SqlServer.perform, mergeClient_congr h hnamed]

/-! ### How far a transaction is -/

variable {o : OrderEvent} {disturbed : SqlError → Prop} {q : Prog (Option Outbox)} {ws : List Write}

/-- What `claim_event` makes of an error. -/
def claimError (eventId : Json) (e : SqlError) : Exn :=
  if e.cls = .integrity then .duplicateEvent eventId else .sql e

lemma exec_insertEvent_cases {eventId eventType : Json} {u : Unit}
    (he : sql.engine.exec t (.insertEvent eventId eventType) db = .ok (u, ws)) :
    ∃ row, Claimed sql eventId eventType db row ∧ ws = [.insertEvent row] := by
  obtain ⟨-, hperform⟩ := exec_eq_ok.mp he
  simp only [SqlServer.perform, SqlServer.silent, bind_eq_ok, Except.ok.injEq, Prod.mk.injEq,
    true_and] at hperform
  obtain ⟨_, hinsert, rfl⟩ := hperform
  exact insertEvent_eq_ok hinsert

namespace OrderEvent

/-- Before its claim, refused by it, or after it. -/
lemma follows_txn (h : Follows sql.engine disturbed o.txn db q ws) :
    (q = o.txn ∧ ws = []) ∨
    (∃ e, ((∃ t, sql.engine.exec t (.insertEvent o.eventId (.str "ORDER_CREATED")) db = .error e) ∨
      disturbed e) ∧ q = .fail (claimError o.eventId e) ∧ ws = []) ∨
    ∃ t row ws', sql.engine.exec t (.insertEvent o.eventId (.str "ORDER_CREATED")) db =
        .ok ((), [.insertEvent row]) ∧ sql.TextOf o.eventId row.eventId ∧
      ws = .insertEvent row :: ws' ∧
      Follows sql.engine disturbed o.afterClaim (db.apply (.insertEvent row)) q ws' := by
  rw [o.txn_eq] at h ⊢
  cases h with
  | here => exact .inl ⟨rfl, rfl⟩
  | executed he hk =>
    obtain ⟨row, hclaimed, rfl⟩ := exec_insertEvent_cases he
    exact .inr (.inr ⟨_, row, _, he, hclaimed.eventId, rfl, hk⟩)
  | @raised _ _ _ e _ _ he hk =>
    have hfail : Follows sql.engine disturbed
        (.fail (claimError o.eventId e) : Prog (Option Outbox)) db q ws := by
      unfold claimError
      simp only at hk
      split_ifs at hk ⊢ <;> exact hk
    obtain ⟨rfl, rfl⟩ := follows_fail.mp hfail
    exact .inr (.inl ⟨e, he, rfl, rfl⟩)

lemma follows_claimed {row : ProcessedEvent}
    (he : sql.engine.exec t (.insertEvent o.eventId (.str "ORDER_CREATED")) db =
      .ok ((), [.insertEvent row]))
    (h : Follows sql.engine disturbed o.afterClaim (db.apply (.insertEvent row)) q ws) :
    Follows sql.engine disturbed o.txn db q (.insertEvent row :: ws) := by
  rw [o.txn_eq]
  exact .executed he h

lemma follows_refused {e : SqlError}
    (he : (∃ t, sql.engine.exec t (.insertEvent o.eventId (.str "ORDER_CREATED")) db = .error e) ∨
      disturbed e) :
    Follows sql.engine disturbed o.txn db (.fail (claimError o.eventId e)) [] := by
  have hfail : Follows sql.engine disturbed
      (if e.cls = .integrity then .fail (.duplicateEvent o.eventId) else .fail (.sql e) :
        Prog (Option Outbox)) db (.fail (claimError o.eventId e)) [] := by
    unfold claimError
    split_ifs <;> exact .here _ _
  rw [o.txn_eq]
  refine .raised he ?_
  unfold claimError at hfail ⊢
  simp only
  split_ifs at hfail ⊢ <;> exact hfail

/-- A transaction that returns has executed its MERGE. -/
lemma merged_of_follows {a : Option Outbox} (h : Follows sql.engine disturbed o.txn db (.ret a) ws) :
    ∃ row t rows ws₁ ws₂, sql.engine.exec t (.mergeClient o.params) (db.apply (.insertEvent row)) =
      .ok (rows, ws₁) ∧ ws = .insertEvent row :: (ws₁ ++ ws₂) := by
  rcases o.follows_txn h with ⟨hq, -⟩ | ⟨e, -, hq, -⟩ | ⟨t, row, ws', -, -, rfl, hafter⟩
  · rw [o.txn_eq] at hq
    cases hq
  · cases hq
  · rcases follows_statement hafter with ⟨hq, -⟩ | ⟨t, rows, ws₁, ws₂, hmerge, -, rfl⟩ |
      ⟨e, -, hq, -⟩
    · cases hq
    · exact ⟨row, t, rows, ws₁, ws₂, hmerge, rfl⟩
    · cases hq

/-- The MERGE that matches locks the rows it matches. -/
lemma locks_mergeClient {clientId : ℕ} {rows : List ℕ}
    (hnamed : clientId ∈ (db.clientsNamed sql o.params.externalClientId).map (·.clientId))
    (he : sql.engine.exec t (.mergeClient o.params) db = .ok (rows, ws)) :
    Lock.client clientId ∈ sql.shared.held ws := by
  obtain ⟨-, hperform⟩ := exec_eq_ok.mp he
  simp only [SqlServer.perform, SqlServer.mergeClient, SqlServer.writeClient, bind_eq_ok,
    selectRows_eq_ok] at hperform
  obtain ⟨matched, ⟨-, hmatched⟩, name, -, email, -, document, -, hwrite⟩ := hperform
  obtain rfl : matched = db.clientsNamed sql o.params.externalClientId := hmatched
  have hempty : (db.clientsNamed sql o.params.externalClientId).isEmpty = false := by
    cases hrows : db.clientsNamed sql o.params.externalClientId with
    | nil => simp [hrows] at hnamed
    | cons c rest => rfl
  rw [hempty] at hwrite
  cases hwrite
  obtain ⟨c, hc, rfl⟩ := List.mem_map.mp hnamed
  exact List.mem_flatMap.mpr ⟨_, List.mem_map_of_mem hc, List.mem_singleton_self _⟩

end OrderEvent

/-! ### Commits of other orders -/

section OtherOrders

variable {key : Varchar 100} {clientId : ℕ}

lemma same_eq_false_of_lock {row : ProcessedEvent}
    (h : Lock.event (sql.key key.text) ∉ sql.shared.held (.insertEvent row :: ws)) :
    sql.same row.eventId.text key.text = false := by
  by_contra hsame
  have hkey := sql.same_iff.mp (by simpa using hsame)
  exact h (List.mem_cons.mpr (.inl (congrArg Lock.event hkey.symm)))

/-- A transaction that has not come beyond its MERGE into `clients` has come as far after another
event. -/
lemma follows_of_event (hother : OtherEvent db key db')
    (hevent : Lock.event (sql.key key.text) ∉ sql.shared.held ws)
    (hmerged : ∀ row t rows ws₁ ws₂, sql.engine.exec t (.mergeClient o.params)
      (db.apply (.insertEvent row)) = .ok (rows, ws₁) → ws ≠ .insertEvent row :: (ws₁ ++ ws₂))
    (hrefused : ∀ row t e, sql.engine.exec t (.mergeClient o.params)
      (db.apply (.insertEvent row)) = .error e → sql.engine.exec t (.mergeClient o.params)
        (db'.apply (.insertEvent row)) = .error e)
    (h : Follows sql.engine disturbed o.txn db q ws) :
    Follows sql.engine disturbed o.txn db' q ws := by
  rcases o.follows_txn h with ⟨rfl, rfl⟩ | ⟨e, he, rfl, rfl⟩ | ⟨t, row, ws', he, -, rfl, hafter⟩
  · exact .here _ _
  · exact OrderEvent.follows_refused (he.imp_left fun ⟨t, he⟩ => ⟨t, hother.exec_insertEvent_error he⟩)
  · refine OrderEvent.follows_claimed
      (hother.exec_insertEvent_ok (same_eq_false_of_lock hevent) he) ?_
    rcases follows_statement hafter with ⟨rfl, rfl⟩ | ⟨t, rows, ws₁, ws₂, hmerge, -, rfl⟩ |
      ⟨e, hmerge, rfl, rfl⟩
    · exact .here _ _
    · exact absurd rfl (hmerged row t rows ws₁ ws₂ hmerge)
    · exact .raised (hmerge.imp_left fun ⟨t, hmerge⟩ => ⟨t, hrefused row t e hmerge⟩) (.here _ _)

/-- The transaction of a session that does not hold the row of the client has come as far after
another order of that client. -/
lemma follows_of_other (hother : OtherEvent db key db') (hroster : db'.roster = db.roster)
    (hnamed : clientId ∈ (db.clientsNamed sql o.params.externalClientId).map (·.clientId))
    (hevent : Lock.event (sql.key key.text) ∉ sql.shared.held ws)
    (hclient : Lock.client clientId ∉ sql.shared.held ws)
    (h : Follows sql.engine disturbed o.txn db q ws) :
    Follows sql.engine disturbed o.txn db' q ws := by
  have hnamed' : ∀ row, clientId ∈ ((db.apply (.insertEvent row)).clientsNamed sql
      o.params.externalClientId).map (·.clientId) := fun _ => hnamed
  refine follows_of_event hother hevent ?_ (fun row t e hmerge => ?_) h
  · -- the MERGE has locked the row
    rintro row t rows ws₁ ws₂ hmerge rfl
    have hlock := OrderEvent.locks_mergeClient (hnamed' row) hmerge
    rw [Store.held_cons, Store.held_append] at hclient
    exact hclient (List.mem_append_right _ (List.mem_append_left _ hlock))
  · have hrosters : (db'.apply (.insertEvent row)).roster = (db.apply (.insertEvent row)).roster :=
      roster_apply hroster _
    rwa [exec_mergeClient_congr hrosters fun hnil => ?_]
    have hmem := hnamed' row
    rw [hnil] at hmem
    cases hmem

lemma look_mergeClient {p : ClientParams} {found : List Client} (h : db'.roster = db.roster)
    (hlook : sql.look (.mergeClient p) db = .ok found) :
    ∃ found', sql.look (.mergeClient p) db' = .ok found' ∧
      found.map (·.clientId) = found'.map (·.clientId) := by
  have hkeys := (selectRows_roster sql p.externalClientId db').trans
    ((congrArg _ (congrArg _ h)).trans (selectRows_roster sql p.externalClientId db).symm)
  simp only [SqlServer.look] at hlook ⊢
  split_ifs at hlook ⊢ with hbind
  cases hrows : selectRows (sql.matchesClient p.externalClientId) db.clients with
  | error e =>
    rw [hrows] at hlook
    cases hlook
  | ok rows =>
    rw [hrows] at hlook
    cases hlook
    cases hrows' : selectRows (sql.matchesClient p.externalClientId) db'.clients with
    | error e =>
      rw [hrows, hrows'] at hkeys
      cases hkeys
    | ok rows' =>
      rw [hrows, hrows'] at hkeys
      exact ⟨rows', rfl, (Except.ok.inj hkeys).symm⟩

/-- A session that does not hold the row of the client is led nowhere by the commit of another
order of it. -/
lemma tracks_of_other {session : Session sql.shared Exn (Option Outbox)}
    (hother : OtherEvent db key db') (hroster : db'.roster = db.roster)
    (hnamed : clientId ∈ (db.clientsNamed sql o.params.externalClientId).map (·.clientId))
    (hevent : Lock.event (sql.key key.text) ∉ sql.shared.held session.own)
    (hclient : Lock.client clientId ∉ sql.shared.held session.own)
    (h : session.Tracks disturbed o.txn db) : session.Tracks disturbed o.txn db' := by
  unfold Session.Tracks at h ⊢
  rw [sql.shared_engine] at h ⊢
  cases hstage : session.stage with
  | running q =>
    simp only [hstage] at h ⊢
    exact follows_of_other hother hroster hnamed hevent hclient h
  | writing op found k =>
    simp only [hstage] at h ⊢
    exact follows_of_other hother hroster hnamed hevent hclient h
  | ended r =>
    simp only [hstage] at h ⊢
    exact h

/-- What the MERGE has found is like what it would find now. -/
lemma look_of_roster {op : Stmt} {found found' : List Client} (h : db'.roster = db.roster)
    (hlook : sql.look op db = .ok found') (halike : found.map (·.clientId) = found'.map (·.clientId)) :
    ∃ found'', sql.look op db' = .ok found'' ∧
      found.map (·.clientId) = found''.map (·.clientId) := by
  cases op with
  | mergeClient p =>
    obtain ⟨found'', hlook', hids⟩ := look_mergeClient h hlook
    exact ⟨found'', hlook', halike.trans hids⟩
  | _ =>
    cases hlook
    exact ⟨[], rfl, halike⟩

lemma ClientUpserted.roster_eq {p : ClientParams} {id : ℕ} (h : ClientUpserted sql p db id db')
    (hnamed : db.clientsNamed sql p.externalClientId ≠ []) : db'.roster = db.roster := by
  cases h with
  | @updated _ name email document now =>
    exact map_updateByIds (f := Client.update name email document now)
      (g := fun c : Client => (c.clientId, c.externalClientId)) (fun _ => rfl) _ db.clients
  | inserted hnil => exact absurd hnil hnamed

lemma Processed.roster_eq {data : Json} {eventId : Json} {outbox : Option Outbox}
    (h : Processed sql eventId (.str "ORDER_CREATED") data db outbox db')
    (hdata : data = o.data)
    (hnamed : db.clientsNamed sql o.params.externalClientId ≠ []) : db'.roster = db.roster := by
  cases h with
  | created _ hclient _ _ hp hupserted _ haddress _ _ hitems =>
    subst hdata
    obtain rfl := Except.ok.inj (o.client_eq.symm.trans hclient)
    obtain rfl := Except.ok.inj (o.params_eq.symm.trans hp)
    rw [← hupserted.roster_eq hnamed, Database.roster, Database.addHistory,
      created_frame hupserted haddress hitems]
    rfl
  | unknownOrder => rfl
  | unknownType => rfl
  | statusChanged h => simp at h
  | paid h => simp at h
  | invoiced h => simp at h

/-- What a committed order is for the others. -/
lemma otherEvent_of_follows {a : Option Outbox}
    (h : Follows sql.engine disturbed o.txn db (.ret a) ws) :
    ∃ key, OtherEvent db key (sql.engine.applyAll db ws) ∧
      Lock.event (sql.key key.text) ∈ sql.shared.held ws := by
  have hruns := h.runs
  rcases o.follows_txn h with ⟨hq, -⟩ | ⟨e, -, hq, -⟩ | ⟨t, row, ws', he, hrow, rfl, hafter⟩
  · rw [o.txn_eq] at hq
    cases hq
  · cases hq
  · refine ⟨row.eventId, ?_, List.mem_cons_self⟩
    obtain ⟨id, eventType, data, row', db₁, now, hc, hdb⟩ := committed_of_runs hruns
    obtain rfl := Except.ok.inj (o.eventId_eq.symm.trans hc.eventId_eq)
    rw [hdb, OtherEvent, Database.marked, hc.processed.processedEvents_eq, List.map_map,
      sql.textOf_unique hrow hc.claimed.eventId]
    rw [← List.map_singleton (f := fun e : ProcessedEvent => e.eventId), ← List.map_append]
    refine List.map_congr_left fun e _ => ?_
    simp only [Function.comp_apply]
    split_ifs <;> rfl

/-- An order of a stored client adds none, and locks its row. -/
lemma roster_of_follows {a : Option Outbox}
    (hnamed : clientId ∈ (db.clientsNamed sql o.params.externalClientId).map (·.clientId))
    (h : Follows sql.engine disturbed o.txn db (.ret a) ws) :
    (sql.engine.applyAll db ws).roster = db.roster ∧
      Lock.client clientId ∈ sql.shared.held ws := by
  constructor
  · obtain ⟨id, eventType, data, row', db₁, now, hc, hdb⟩ := committed_of_runs h.runs
    obtain rfl := Except.ok.inj (o.eventType_eq.symm.trans hc.eventType_eq)
    obtain rfl := Except.ok.inj (o.data_eq.symm.trans hc.data_eq)
    rw [hdb]
    refine hc.processed.roster_eq rfl fun hnil => ?_
    rw [show db.clientsNamed sql o.params.externalClientId = [] from hnil] at hnamed
    cases hnamed
  · obtain ⟨row, t, rows, ws₁, ws₂, hmerge, rfl⟩ := OrderEvent.merged_of_follows h
    have hlock := OrderEvent.locks_mergeClient hnamed hmerge
    rw [Store.held_cons, Store.held_append]
    exact List.mem_append_right _ (List.mem_append_left _ hlock)

end OtherOrders

/-! ### Runs -/

section Runs

variable {ι : Type} {orders : ι → OrderEvent} {clientId : ℕ} {outbox : Option Outbox}

/-- Consumers that process one order each, in at most three attempts. -/
def consumers (orders : ι → OrderEvent) (disturbed : SqlError → Prop) :
    Clients Stmt Stmt.Result SqlError Exn (Option Outbox) ι where
  program i := eventTxn (orders i).event (orders i).eventId
  disturbed := disturbed
  again := Exn.isOperational
  more := 2

/-- The state of the consumers and of what they have committed. -/
abbrev Consumers (sql : SqlServer) (ι : Type) : Type :=
  Cluster sql.shared Exn (Option Outbox) ι

/-- Every order is one of the client, who is stored. -/
structure Steady (sql : SqlServer) (orders : ι → OrderEvent) (clientId : ℕ) (db : Database) :
    Prop where
  consistent : Consistent sql db
  named : ∀ i, clientId ∈
    (db.clientsNamed sql (orders i).params.externalClientId).map (·.clientId)

lemma clientsNamed_congr (h : db'.roster = db.roster) (ext : Json) :
    (db'.clientsNamed sql ext).map (·.clientId) = (db.clientsNamed sql ext).map (·.clientId) := by
  have hroster : ∀ db : Database, (db.clientsNamed sql ext).map (·.clientId) =
      (db.roster.filter fun r =>
        holds (sql.compare "external_client_id" ext r.2.text)).map Prod.fst := by
    intro db
    rw [Database.roster, List.filter_map, List.map_map]
    rfl
  rw [hroster, hroster, h]

lemma Steady.committed {i : ι} {a : Option Outbox} (h : Steady sql orders clientId db)
    (hcommit : Follows sql.engine disturbed (orders i).txn db (.ret a) ws) :
    Steady sql orders clientId (sql.engine.applyAll db ws) := by
  refine ⟨h.consistent.step hcommit.runs, fun j => ?_⟩
  rw [clientsNamed_congr (roster_of_follows (h.named i) hcommit).1]
  exact h.named j

instance : Nonempty Tick := ⟨⟨0, 0⟩⟩

variable [DecidableEq ι]

/-- Whatever the consumers do one between the other, each of them goes on as if it had just begun. -/
lemma inv_of_reachable {disturbed : SqlError → Prop} {c : Consumers sql ι}
    (hdb : Steady sql orders clientId db)
    (h : Cluster.Reachable (consumers orders disturbed) (fun _ _ => True) db c) :
    Steady sql orders clientId c.committed ∧
      Cluster.Inv (consumers orders disturbed) db c := by
  have hfollows : ∀ {i : ι} {c : Consumers sql ι} {q : Prog (Option Outbox)},
      Cluster.Inv (consumers orders disturbed) db c → (c.sessions i).stage = .running q →
      Follows sql.engine disturbed (orders i).txn c.committed q (c.sessions i).own := by
    intro i c q hinv hstage
    rw [← sql.shared_engine]
    exact hinv.tracks_view hstage
  have hinv := Cluster.Reachable.inv
    (J := fun c => Steady sql orders clientId c.committed ∧ ∀ i, c.UpToDate i)
    ⟨hdb, fun i op found k hstage => by cases hstage⟩ ?_ (fun i c hJ _ _ => hJ.2 i) ?_ h
  · exact ⟨hinv.1.1, hinv.2⟩
  · rintro i c c' ⟨hsteady, hcurrent⟩ hinv - hs
    have hroster : c'.committed.roster = c.committed.roster ∧
        Steady sql orders clientId c'.committed := by
      rcases hs.committed_cases with hsame | ⟨a, hstage, hcommit⟩
      · rw [hsame]
        exact ⟨rfl, hsteady⟩
      · have hcommits := hfollows hinv hstage
        rw [hcommit, Cluster.view, sql.shared_engine]
        exact ⟨(roster_of_follows (hsteady.named i) hcommits).1, hsteady.committed hcommits⟩
    refine ⟨hroster.2, fun j op found k hstage => ?_⟩
    by_cases hj : j = i
    · subst hj
      exact ⟨found, hs.look_eq hstage, sql.shared.alike_refl found⟩
    · rw [hs.sessions_of_ne hj] at hstage
      obtain ⟨found', hlook, halike⟩ := hcurrent j op found k hstage
      refine look_of_roster ?_ hlook halike
      rw [Cluster.view, Cluster.view, hs.sessions_of_ne hj, sql.shared_engine]
      exact roster_applyAll hroster.1 _
  · rintro i c a ⟨hsteady, -⟩ hinv hstage j hne htracks
    obtain ⟨key, hother, hevent⟩ := otherEvent_of_follows (hfollows hinv hstage)
    obtain ⟨hroster, hclient⟩ := roster_of_follows (hsteady.named i) (hfollows hinv hstage)
    rw [Cluster.view, sql.shared_engine]
    exact tracks_of_other hother hroster (hsteady.named j) (hinv.apart i j hne.symm _ hevent)
      (hinv.apart i j hne.symm _ hclient) htracks

end Runs

end EventPipeline

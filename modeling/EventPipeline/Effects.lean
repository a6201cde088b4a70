import EventPipeline.Consumer

/-!
# What a committed transaction did

The successful executions of the functions of `db_ops`, as statements about the rows they
found and the rows they wrote. `committed_of_runs` puts them together: the transaction of an
event claimed a fresh `event_id`, wrote the rows of one of the five branches of
`process_event`, and marked the event as processed.
-/

namespace EventPipeline

open Transaction Prog

variable {sql : SqlServer} {db db' : Database}

@[simp] lemma required_eq_ok {α : Type} {column : String} {o : Option α} {a : α} :
    required column o = .ok a ↔ o = some a := by
  cases o <;> simp [required]

lemma exec_eq_ok {t : Tick} {stmt : Stmt} {r : stmt.Result} {ws : List Write} :
    sql.engine.exec t stmt db = .ok (r, ws) ↔
      stmt.parameters.all Json.bindable = true ∧ sql.perform t db stmt = .ok (r, ws) := by
  simp only [SqlServer.engine, SqlServer.execute]
  by_cases hb : stmt.parameters.all Json.bindable = true
  · cases sql.perform t db stmt <;> simp [hb, Except.mapError]
  · simp [hb, Except.mapError]

lemma runs_execute {stmt : Stmt} {r : stmt.Result} :
    Runs sql.engine (execute stmt) db r db' ↔
      ∃ t ws, stmt.parameters.all Json.bindable = true ∧
        sql.perform t db stmt = .ok (r, ws) ∧ db' = sql.engine.applyAll db ws := by
  simp only [execute, runs_statement]
  refine exists_congr fun t => exists_congr fun ws => ?_
  rw [← and_assoc, exec_eq_ok]

@[simp] lemma runs_eval {α : Type} {r : Except PyError α} {a : α} :
    Runs sql.engine (eval r) db a db' ↔ r = .ok a ∧ db' = db := by
  cases r with
  | ok b => simp [eval, eq_comm]
  | error e => simp [eval]

@[simp] lemma runs_item {value v : Json} {key : String} :
    Runs sql.engine (item value key) db v db' ↔ value.getItem key = .ok v ∧ db' = db := by
  simp [item]

@[simp] lemma runs_first {α : Type} {column : String} {rows : List α} {a : α} :
    Runs sql.engine (first column rows) db a db' ↔ rows.head? = some a ∧ db' = db := by
  cases rows with
  | nil => simp [first]
  | cons b rows => simp [first, eq_comm]

/-- A statement that updates the rows of one table: `get` and `set` are the table. -/
lemma applyAll_updates {α κ : Type} [DecidableEq κ] (sql : SqlServer) (key : α → κ)
    (f : α → α) (w : κ → Write) (get : Database → List α) (set : List α → Database → Database)
    (hkey : ∀ a, key (f a) = key a) (hf : ∀ a, f (f a) = f a)
    (happly : ∀ id db, db.apply (w id) = set (updateById key id f (get db)) db)
    (hget : ∀ rows db, get (set rows db) = rows)
    (hset : ∀ rows rows' db, set rows (set rows' db) = set rows db)
    (hself : ∀ db, set (get db) db = db) (ids : List κ) (db : Database) :
    sql.engine.applyAll db (ids.map w) = set (updateByIds key ids f (get db)) db := by
  induction ids generalizing db with
  | nil => simp [hself]
  | cons id ids ih =>
    have hstep : sql.engine.apply db (w id) = set (updateById key id f (get db)) db :=
      happly id db
    rw [List.map_cons, Engine.applyAll_cons, hstep, ih, hget, hset, updateByIds_cons hkey hf]

lemma applyAll_markEvent (sql : SqlServer) (ids : List (Varchar 100)) (now : ℕ) (db : Database) :
    sql.engine.applyAll db (ids.map (.markEvent · now)) =
      { db with processedEvents := updateByIds (·.eventId) ids (·.mark now) db.processedEvents } :=
  applyAll_updates sql (·.eventId) (·.mark now) (.markEvent · now) (·.processedEvents)
    (fun rows db => { db with processedEvents := rows }) (fun _ => rfl) (fun _ => rfl)
    (fun _ _ => rfl) (fun _ _ => rfl) (fun _ _ _ => rfl) (fun _ => rfl) ids db

lemma applyAll_updateClient (sql : SqlServer) (ids : List ℕ) (name email : Varchar 200)
    (document : Varchar 32) (now : ℕ) (db : Database) :
    sql.engine.applyAll db (ids.map (.updateClient · name email document now)) =
      { db with
        clients := updateByIds (·.clientId) ids (·.update name email document now) db.clients } :=
  applyAll_updates sql (·.clientId) (·.update name email document now)
    (.updateClient · name email document now) (·.clients)
    (fun rows db => { db with clients := rows }) (fun _ => rfl) (fun _ => rfl) (fun _ _ => rfl)
    (fun _ _ => rfl) (fun _ _ _ => rfl) (fun _ => rfl) ids db

lemma applyAll_updateOrder (sql : SqlServer) (ids : List ℕ) (status : Varchar 20)
    (closing : Bool) (now : ℕ) (db : Database) :
    sql.engine.applyAll db (ids.map (.updateOrder · status closing now)) =
      { db with
        orders := updateByIds (·.orderId) ids (·.setStatus status closing now) db.orders } :=
  applyAll_updates sql (·.orderId) (·.setStatus status closing now)
    (.updateOrder · status closing now) (·.orders) (fun rows db => { db with orders := rows })
    (fun _ => rfl) (fun _ => by cases closing <;> rfl) (fun _ _ => rfl) (fun _ _ => rfl)
    (fun _ _ _ => rfl) (fun _ => rfl) ids db

lemma applyAll_updatePayment (sql : SqlServer) (ids : List ℕ) (status : Varchar 20)
    (amount : Int) (paidAt : Option Int) (now : ℕ) (db : Database) :
    sql.engine.applyAll db (ids.map (.updatePayment · status amount paidAt now)) =
      { db with
        payments := updateByIds (·.paymentId) ids (·.update status amount paidAt now)
          db.payments } :=
  applyAll_updates sql (·.paymentId) (·.update status amount paidAt now)
    (.updatePayment · status amount paidAt now) (·.payments)
    (fun rows db => { db with payments := rows }) (fun _ => rfl) (fun _ => rfl)
    (fun _ _ => rfl) (fun _ _ => rfl) (fun _ _ _ => rfl) (fun _ => rfl) ids db

lemma applyAll_updateInvoice (sql : SqlServer) (ids : List ℕ) (status : Varchar 20)
    (amount : Int) (pdfUrl : Option (Varchar 500)) (db : Database) :
    sql.engine.applyAll db (ids.map (.updateInvoice · status amount pdfUrl)) =
      { db with
        invoices := updateByIds (·.invoiceId) ids (·.update status amount pdfUrl)
          db.invoices } :=
  applyAll_updates sql (·.invoiceId) (·.update status amount pdfUrl)
    (.updateInvoice · status amount pdfUrl) (·.invoices)
    (fun rows db => { db with invoices := rows }) (fun _ => rfl) (fun _ => rfl)
    (fun _ _ => rfl) (fun _ _ => rfl) (fun _ _ _ => rfl) (fun _ => rfl) ids db

/-! ### The ledger -/

/-- `row` claims an event whose id no row of the ledger has. -/
structure Claimed (sql : SqlServer) (eventId eventType : Json) (db : Database)
    (row : ProcessedEvent) : Prop where
  eventId : sql.TextOf eventId row.eventId
  eventType : sql.TextOf eventType row.eventType
  processedAt : row.processedAt = none
  fresh : ∀ e ∈ db.processedEvents, sql.same row.eventId.text e.eventId.text = false

lemma insertEvent_eq_ok {t : Tick} {eventId eventType : Json} {ws : List Write}
    (h : sql.insertEvent t db eventId eventType = .ok ws) :
    ∃ row, Claimed sql eventId eventType db row ∧ ws = [.insertEvent row] := by
  simp only [SqlServer.insertEvent, bind_eq_ok, SqlServer.varchar_eq_ok, required_eq_ok] at h
  obtain ⟨v, hv, w, hw, id, rfl, type, rfl, h⟩ := h
  have hid : sql.TextOf eventId id := by simpa using hv
  have htype : sql.TextOf eventType type := by simpa using hw
  split_ifs at h with hany
  cases h
  refine ⟨_, ⟨hid, htype, rfl, fun e he => ?_⟩, rfl⟩
  simpa using fun hsame => hany (List.any_eq_true.mpr ⟨e, he, hsame⟩)

lemma runs_claimEvent {eventId eventType : Json} {u : Unit}
    (h : Runs sql.engine (claimEvent eventId eventType) db u db') :
    ∃ row, Claimed sql eventId eventType db row ∧
      db' = { db with processedEvents := db.processedEvents ++ [row] } := by
  cases h with
  | executed he hk =>
    have hrun : Runs sql.engine (execute (.insertEvent eventId eventType)) db ()
        (sql.engine.applyAll db _) := runs_statement.mpr ⟨_, _, he, rfl⟩
    obtain ⟨t, ws, -, hp, hdb⟩ := runs_execute.mp hrun
    simp only [SqlServer.perform, SqlServer.silent, bind_eq_ok, Except.ok.injEq, Prod.mk.injEq,
      true_and] at hp
    obtain ⟨ws', hins, rfl⟩ := hp
    obtain ⟨row, hrow, rfl⟩ := insertEvent_eq_ok hins
    refine ⟨row, hrow, ?_⟩
    rw [(runs_ret.mp hk).2, hdb]
    rfl
  | raised e hk =>
    simp only at hk
    split_ifs at hk
    · exact absurd hk runs_fail
    · exact absurd hk runs_fail

/-- The rows of the ledger whose id is `eventId`, marked. -/
def Database.marked (db : Database) (sql : SqlServer) (eventId : Json) (now : ℕ) : Database :=
  { db with
    processedEvents := db.processedEvents.map fun e =>
      if holds (sql.matchesEvent eventId e) then e.mark now else e }

lemma applyAll_marked (sql : SqlServer) (eventId : Json) (now : ℕ) (db : Database) :
    sql.engine.applyAll db ((db.processedEvents.filter fun e =>
        holds (sql.matchesEvent eventId e)).map fun e => .markEvent e.eventId now) =
      db.marked sql eventId now := by
  have happly := applyAll_markEvent sql
    ((db.processedEvents.filter fun e => holds (sql.matchesEvent eventId e)).map (·.eventId))
    now db
  rw [List.map_map] at happly
  refine happly.trans ?_
  -- matching depends on the primary key alone
  exact congrArg (fun rows => { db with processedEvents := rows })
    (updateByIds_filter (fun e : ProcessedEvent => e.eventId)
      (fun e => holds (sql.matchesEvent eventId e)) _
      fun a _ b _ hab => by simp only [SqlServer.matchesEvent, hab])

lemma runs_markEventProcessed {eventId : Json} {u : Unit}
    (h : Runs sql.engine (markEventProcessed eventId) db u db') :
    ∃ now, db' = db.marked sql eventId now := by
  obtain ⟨t, ws, -, hp, rfl⟩ := runs_execute.mp h
  simp only [SqlServer.perform, SqlServer.silent, SqlServer.markEvent, bind_eq_ok,
    selectRows_eq_ok, Except.ok.injEq, Prod.mk.injEq, true_and] at hp
  obtain ⟨ws', ⟨rows, ⟨-, rfl⟩, rfl⟩, rfl⟩ := hp
  exact ⟨t.now, applyAll_marked sql eventId t.now db⟩

/-! ### Clients -/

/-- The rows the ON condition of the MERGE matches. -/
def Database.clientsNamed (db : Database) (sql : SqlServer) (ext : Json) : List Client :=
  db.clients.filter fun c => holds (sql.matchesClient ext c)

inductive ClientUpserted (sql : SqlServer) (p : ClientParams) (db : Database) :
    ℕ → Database → Prop
  | updated {c : Client} {name email : Varchar 200} {document : Varchar 32} {now : ℕ}
      (named : (db.clientsNamed sql p.externalClientId).head? = some c)
      (name_eq : sql.TextOf p.name name) (email_eq : sql.TextOf p.email email)
      (document_eq : sql.TextOf p.document document) :
      ClientUpserted sql p db c.clientId
        { db with
          clients := updateByIds (·.clientId)
            ((db.clientsNamed sql p.externalClientId).map (·.clientId))
            (·.update name email document now) db.clients }
  | inserted {row : Client} (named : db.clientsNamed sql p.externalClientId = [])
      (ext : sql.TextOf p.externalClientId row.externalClientId)
      (name_eq : sql.TextOf p.name row.name) (email_eq : sql.TextOf p.email row.email)
      (document_eq : sql.TextOf p.document row.document)
      (fresh : ∀ c ∈ db.clients, sql.same row.externalClientId.text c.externalClientId.text = false)
      (id_le : db.next.client ≤ row.clientId) :
      ClientUpserted sql p db row.clientId
        { db with
          clients := db.clients ++ [row]
          next := { db.next with client := row.clientId + 1 } }

lemma runs_mergeClient {p : ClientParams} {rows : List ℕ} {id : ℕ}
    (h : Runs sql.engine (execute (.mergeClient p)) db rows db') (hid : rows.head? = some id) :
    ClientUpserted sql p db id db' := by
  obtain ⟨t, ws, -, hp, rfl⟩ := runs_execute.mp h
  simp only [SqlServer.perform, SqlServer.mergeClient, SqlServer.writeClient, bind_eq_ok,
    selectRows_eq_ok, SqlServer.text_eq_ok] at hp
  obtain ⟨matched, ⟨-, rfl⟩, name, hname, email, hemail, document, hdocument, hp⟩ := hp
  split_ifs at hp with hmatched
  · simp only [bind_eq_ok, SqlServer.text_eq_ok] at hp
    obtain ⟨ext, hext, hp⟩ := hp
    split_ifs at hp with hany
    cases hp
    cases hid
    refine @ClientUpserted.inserted sql p db ⟨_, ext, name, email, document, t.now, t.now⟩
      (List.isEmpty_iff.mp hmatched) hext hname hemail hdocument (fun c hc => ?_) ?_
    · simpa using fun hsame => hany (List.any_eq_true.mpr ⟨c, hc, hsame⟩)
    · exact Nat.le_add_right _ _
  · cases hp
    rw [List.head?_map, Option.map_eq_some_iff] at hid
    obtain ⟨c, hc, rfl⟩ := hid
    have happly := applyAll_updateClient sql
      ((db.clientsNamed sql p.externalClientId).map (·.clientId)) name email document t.now db
    rw [List.map_map] at happly
    exact happly ▸ .updated hc hname hemail hdocument

lemma runs_upsertClient {client : Json} {id : ℕ}
    (h : Runs sql.engine (upsertClient client) db id db') :
    ∃ p, clientParams client = .ok p ∧ ClientUpserted sql p db id db' := by
  simp only [upsertClient, runs_bind, runs_eval, runs_first] at h
  obtain ⟨p, _, ⟨hp, rfl⟩, rows, _, hrows, hid, rfl⟩ := h
  exact ⟨p, hp, runs_mergeClient hrows hid⟩

/-! ### Addresses -/

/-- The current versions of an address of a client. -/
def Database.currentAddresses (db : Database) (sql : SqlServer) (clientId : ℕ) (ext : Json) :
    List Address :=
  ((db.address.filter fun a => a.clientId = clientId).filter fun a =>
    holds (sql.matchesAddress ext a)).filter (·.isCurrent)

/-- `row` is a new version of an address, and the only current one. -/
structure AddressRow (sql : SqlServer) (clientId : ℕ) (ext : Json)
    (content : AddressField → Json) (db : Database) (row : Address) : Prop where
  clientId_eq : row.clientId = clientId
  ext : sql.TextOf ext row.externalAddressId
  content : ∀ f, sql.contentColumn f (content f) = .ok (row.content f)
  isCurrent : row.isCurrent = true
  validTo : row.validTo = none
  client : ∃ c ∈ db.clients, c.clientId = clientId
  unique : ∀ a ∈ db.address, a.isCurrent = true → a.clientId = clientId →
    sql.same row.externalAddressId.text a.externalAddressId.text = false
  id_le : db.next.address ≤ row.addressId

def Database.addAddress (db : Database) (row : Address) : Database :=
  { db with
    address := db.address ++ [row]
    next := { db.next with address := row.addressId + 1 } }

def Database.expireAddress (db : Database) (addressId now : ℕ) : Database :=
  { db with address := updateById (·.addressId) addressId (·.expire now) db.address }

inductive AddressUpserted (sql : SqlServer) (clientId : ℕ) (ext : Json)
    (content : AddressField → Json) (db : Database) : ℕ → Database → Prop
  | reused {current : Address}
      (selected : (db.currentAddresses sql clientId ext).head? = some current)
      (same : unchanged current content = true) :
      AddressUpserted sql clientId ext content db current.addressId db
  | inserted {row : Address} (selected : db.currentAddresses sql clientId ext = [])
      (hrow : AddressRow sql clientId ext content db row) :
      AddressUpserted sql clientId ext content db row.addressId (db.addAddress row)
  | replaced {current row : Address} {now : ℕ}
      (selected : (db.currentAddresses sql clientId ext).head? = some current)
      (changed : unchanged current content = false)
      (hrow : AddressRow sql clientId ext content (db.expireAddress current.addressId now) row) :
      AddressUpserted sql clientId ext content db row.addressId
        ((db.expireAddress current.addressId now).addAddress row)

lemma contentColumns_eq_ok {content : AddressField → Json} {v : AddressField → Option String} :
    sql.contentColumns content = .ok v ↔ ∀ f, sql.contentColumn f (content f) = .ok (v f) := by
  simp only [SqlServer.contentColumns, bind_eq_ok, Except.ok.injEq]
  constructor
  · rintro ⟨_, h₁, _, h₂, _, h₃, _, h₄, _, h₅, _, h₆, _, h₇, _, h₈, rfl⟩ f
    cases f <;> assumption
  · intro h
    refine ⟨_, h _, _, h _, _, h _, _, h _, _, h _, _, h _, _, h _, _, h _, ?_⟩
    funext f
    cases f <;> rfl

lemma insertAddress_eq_ok {t : Tick} {clientId id : ℕ} {ext : Json} {content : AddressField → Json}
    {ws : List Write} (h : sql.insertAddress t db clientId ext content = .ok (id, ws)) :
    ∃ row, AddressRow sql clientId ext content db row ∧ row.validFrom = t.now ∧
      id = row.addressId ∧ ws = [.insertAddress row] := by
  simp only [SqlServer.insertAddress, bind_eq_ok, SqlServer.text_eq_ok, contentColumns_eq_ok] at h
  obtain ⟨v, hext, w, hcontent, h⟩ := h
  split_ifs at h with hclient hunique
  cases h
  refine ⟨_, ⟨rfl, hext, hcontent, rfl, rfl, by simpa using hclient, fun a ha hcur hid => ?_,
    Nat.le_add_right _ _⟩, rfl, rfl, rfl⟩
  by_contra hsame
  refine hunique (List.any_eq_true.mpr ⟨a, ha, ?_⟩)
  simpa [hcur, hid] using hsame

lemma runs_insertAddress {clientId id : ℕ} {ext : Json} {content : AddressField → Json}
    (h : Runs sql.engine (execute (.insertAddress clientId ext content)) db id db') :
    ∃ row, AddressRow sql clientId ext content db row ∧ id = row.addressId ∧
      db' = db.addAddress row := by
  obtain ⟨t, ws, -, hp, rfl⟩ := runs_execute.mp h
  obtain ⟨row, hrow, -, rfl, rfl⟩ := insertAddress_eq_ok hp
  exact ⟨row, hrow, rfl, rfl⟩

lemma runs_selectAddress {clientId : ℕ} {ext : Json} {rows : List Address}
    (h : Runs sql.engine (execute (.selectAddress clientId ext)) db rows db') :
    rows = db.currentAddresses sql clientId ext ∧ db' = db := by
  obtain ⟨t, ws, -, hp, rfl⟩ := runs_execute.mp h
  simp only [SqlServer.perform, SqlServer.readOnly, SqlServer.selectAddress, bind_eq_ok,
    selectRows_eq_ok, Except.ok.injEq, Prod.mk.injEq] at hp
  obtain ⟨_, ⟨_, ⟨-, rfl⟩, rfl⟩, rfl, rfl⟩ := hp
  exact ⟨rfl, rfl⟩

lemma runs_expireAddress {addressId : ℕ} {u : Unit}
    (h : Runs sql.engine (execute (.expireAddress addressId)) db u db') :
    ∃ now, db' = db.expireAddress addressId now := by
  obtain ⟨t, ws, -, hp, rfl⟩ := runs_execute.mp h
  simp only [SqlServer.perform, Except.ok.injEq, Prod.mk.injEq, true_and] at hp
  subst hp
  exact ⟨t.now, rfl⟩

lemma runs_upsertCurrentAddress {clientId id : ℕ} {address : Json}
    (h : Runs sql.engine (upsertCurrentAddress clientId address) db id db') :
    ∃ ext, address.getItem "external_address_id" = .ok ext ∧
      AddressUpserted sql clientId ext (addressContent address) db id db' := by
  simp only [upsertCurrentAddress, runs_bind, runs_item] at h
  obtain ⟨ext, _, ⟨hext, rfl⟩, rows, _, hrows, h⟩ := h
  obtain ⟨rfl, rfl⟩ := runs_selectAddress hrows
  refine ⟨ext, hext, ?_⟩
  split at h
  · rename_i hnone
    obtain ⟨row, hrow, rfl, rfl⟩ := runs_insertAddress h
    exact .inserted (List.head?_eq_none_iff.mp hnone) hrow
  · rename_i current hcurrent
    split_ifs at h with hsame
    · simp only [Program.pure_eq, runs_ret] at h
      obtain ⟨rfl, rfl⟩ := h
      exact .reused hcurrent hsame
    · simp only [runs_bind] at h
      obtain ⟨u, _, hexpire, h⟩ := h
      obtain ⟨now, rfl⟩ := runs_expireAddress hexpire
      obtain ⟨row, hrow, rfl, rfl⟩ := runs_insertAddress h
      exact .replaced hcurrent (by simpa using hsame) hrow

/-! ### Orders -/

/-- The orders a parameter names. -/
def Database.ordersNamed (db : Database) (sql : SqlServer) (ext : Json) : List Order :=
  db.orders.filter fun o => holds (sql.matchesOrder ext o)

/-- `row` is a new order, under an id no other order has. -/
structure OrderRow (sql : SqlServer) (clientId addressId : ℕ) (p : OrderParams) (db : Database)
    (row : Order) : Prop where
  ext : sql.TextOf p.externalOrderId row.externalOrderId
  clientId_eq : row.clientId = clientId
  addressId_eq : row.addressId = addressId
  status : row.status = SqlServer.pending
  closedAt : row.closedAt = none
  client : ∃ c ∈ db.clients, c.clientId = clientId
  address : ∃ a ∈ db.address, a.addressId = addressId
  fresh : ∀ o ∈ db.orders, sql.same row.externalOrderId.text o.externalOrderId.text = false
  id_le : db.next.order ≤ row.orderId

def Database.addOrder (db : Database) (row : Order) : Database :=
  { db with
    orders := db.orders ++ [row]
    next := { db.next with order := row.orderId + 1 } }

lemma runs_insertOrder {clientId addressId id : ℕ} {order : Json}
    (h : Runs sql.engine (insertOrder clientId addressId order) db id db') :
    ∃ p row, orderParams order = .ok p ∧ OrderRow sql clientId addressId p db row ∧
      id = row.orderId ∧ db' = db.addOrder row := by
  simp only [insertOrder, runs_bind, runs_eval] at h
  obtain ⟨p, _, ⟨hparams, rfl⟩, h⟩ := h
  obtain ⟨t, ws, -, hp, rfl⟩ := runs_execute.mp h
  simp only [SqlServer.perform, SqlServer.insertOrder, bind_eq_ok, SqlServer.text_eq_ok] at hp
  obtain ⟨ext, hext, total, -, currency, -, date, -, hp⟩ := hp
  split_ifs at hp with hclient haddress hany
  cases hp
  refine ⟨p, _, hparams, ⟨hext, rfl, rfl, rfl, rfl, by simpa using hclient,
    by simpa using haddress, fun o ho => ?_, Nat.le_add_right _ _⟩, rfl, rfl⟩
  simpa using fun hsame => hany (List.any_eq_true.mpr ⟨o, ho, hsame⟩)

/-- The items of an order, stored with whatever identities the server gave them. -/
inductive ItemsInserted (sql : SqlServer) (orderId : ℕ) (items : Json) (db : Database) :
    Database → Prop
  | empty (h : items.truthy = false) : ItemsInserted sql orderId items db db
  | rows {mappings : List Item} {rows : List OrderItem} {n : ℕ} (h : items.truthy = true)
      (parsed : itemMappings items = .ok mappings)
      (hrows : List.Forall₂
        (fun item row => sql.itemRow db orderId item = .ok { row with orderItemId := 0 })
        mappings rows) :
      ItemsInserted sql orderId items db
        { db with
          orderItems := db.orderItems ++ rows
          next := { db.next with item := n } }

lemma applyAll_insertItem (sql : SqlServer) (rows : List OrderItem) (db : Database) :
    ∃ n, sql.engine.applyAll db (rows.map .insertItem) =
      { db with
        orderItems := db.orderItems ++ rows
        next := { db.next with item := n } } := by
  induction rows generalizing db with
  | nil => exact ⟨db.next.item, by simp⟩
  | cons row rows ih =>
    obtain ⟨n, hn⟩ := ih (db.apply (.insertItem row))
    refine ⟨n, hn.trans ?_⟩
    simp [Database.apply]

lemma itemRow_orderItemId {orderId : ℕ} {item : Item} {row : OrderItem}
    (h : sql.itemRow db orderId item = .ok row) : row.orderItemId = 0 := by
  simp only [SqlServer.itemRow, bind_eq_ok, Except.ok.injEq] at h
  obtain ⟨_, _, _, _, _, _, _, _, _, _, _, _, _, _, _, _, _, _, rfl⟩ := h
  rfl

lemma insertItems_eq_ok {t : Tick} {orderId : ℕ} {items : List Item} {ws : List Write}
    (h : sql.insertItems t db orderId items = .ok ws) :
    ∃ rows, ws = rows.map .insertItem ∧ List.Forall₂
      (fun item row => sql.itemRow db orderId item = .ok { row with orderItemId := 0 })
      items rows := by
  simp only [SqlServer.insertItems, bind_eq_ok, collect_eq_ok, Except.ok.injEq] at h
  obtain ⟨rows, hrows, rfl⟩ := h
  refine ⟨_, (List.map_map ..).symm, forall₂_zipIdx (fun item row i hrow => ?_) hrows 0⟩
  rw [hrow, ← itemRow_orderItemId hrow]

lemma runs_insertOrderItems {orderId : ℕ} {items : Json} {u : Unit}
    (h : Runs sql.engine (insertOrderItems orderId items) db u db') :
    ItemsInserted sql orderId items db db' := by
  simp only [insertOrderItems] at h
  split_ifs at h with hitems
  · simp only [runs_bind, runs_eval] at h
    obtain ⟨mappings, _, ⟨hparsed, rfl⟩, h⟩ := h
    obtain ⟨t, ws, -, hp, rfl⟩ := runs_execute.mp h
    simp only [SqlServer.perform, SqlServer.silent, bind_eq_ok, Except.ok.injEq, Prod.mk.injEq,
      true_and] at hp
    obtain ⟨_, hins, rfl⟩ := hp
    obtain ⟨rows, rfl, hrows⟩ := insertItems_eq_ok hins
    obtain ⟨n, hn⟩ := applyAll_insertItem sql rows _
    exact hn ▸ .rows hitems hparsed hrows
  · simp only [Program.pure_eq, runs_ret] at h
    exact h.2 ▸ .empty (by simpa using hitems)

/-- `row` is a new row of the history of an order. -/
structure HistoryRow (sql : SqlServer) (orderId : ℕ) (previousStatus : Option (Varchar 20))
    (newStatus source : Json) (db : Database) (row : StatusHistory) : Prop where
  orderId_eq : row.orderId = orderId
  previousStatus_eq : row.previousStatus = previousStatus
  newStatus_eq : sql.TextOf newStatus row.newStatus
  source_eq : sql.varchar 100 "source_event_id" source = .ok row.sourceEventId
  order : ∃ o ∈ db.orders, o.orderId = orderId
  id_le : db.next.history ≤ row.historyId

def Database.addHistory (db : Database) (row : StatusHistory) : Database :=
  { db with
    statusHistory := db.statusHistory ++ [row]
    next := { db.next with history := row.historyId + 1 } }

lemma runs_recordStatusHistory {orderId : ℕ} {previousStatus : Option (Varchar 20)}
    {newStatus source : Json} {u : Unit}
    (h : Runs sql.engine (recordStatusHistory orderId previousStatus newStatus source) db u db') :
    ∃ row, HistoryRow sql orderId previousStatus newStatus source db row ∧
      db' = db.addHistory row := by
  obtain ⟨t, ws, -, hp, rfl⟩ := runs_execute.mp h
  simp only [SqlServer.perform, SqlServer.silent, SqlServer.insertHistory, bind_eq_ok,
    SqlServer.text_eq_ok, Except.ok.injEq, Prod.mk.injEq, true_and] at hp
  obtain ⟨_, ⟨new, hnew, src, hsrc, hp⟩, rfl⟩ := hp
  split_ifs at hp with horder
  cases hp
  exact ⟨_, ⟨rfl, rfl, hnew, hsrc, by simpa using horder, Nat.le_add_right _ _⟩, rfl⟩

/-! ### Status changes -/

/-- An UPDATE of the orders a parameter names that the CHECK constraint and the trigger let
through. -/
structure StatusUpdate (sql : SqlServer) (ext newStatus : Json) (db : Database)
    (status : Varchar 20) (closing : Bool) : Prop where
  closing_eq : sql.compareAny "status" newStatus terminalStatuses = .ok closing
  status_eq : sql.TextOf newStatus status
  allowed : sql.isOneOf status.text orderStatuses = true
  not_terminal : ∀ o ∈ db.ordersNamed sql ext, sql.isTerminal o = false

def Database.setStatus (db : Database) (sql : SqlServer) (ext : Json) (status : Varchar 20)
    (closing : Bool) (now : ℕ) : Database :=
  { db with
    orders := updateByIds (·.orderId) ((db.ordersNamed sql ext).map (·.orderId))
      (·.setStatus status closing now) db.orders }

lemma runs_updateOrderStatus {ext newStatus : Json} {result : Option (ℕ × Varchar 20)}
    (h : Runs sql.engine (updateOrderStatus ext newStatus) db result db') :
    (result = none ∧ db.ordersNamed sql ext = [] ∧ db' = db) ∨
      ∃ o status closing now, result = some (o.orderId, o.status) ∧
        (db.ordersNamed sql ext).head? = some o ∧
        StatusUpdate sql ext newStatus db status closing ∧
        db' = db.setStatus sql ext status closing now := by
  simp only [updateOrderStatus, runs_bind, Program.pure_eq, runs_ret] at h
  obtain ⟨rows, _, h, rfl, rfl⟩ := h
  obtain ⟨t, ws, -, hp, rfl⟩ := runs_execute.mp h
  simp only [SqlServer.perform, SqlServer.updateOrder, bind_eq_ok, selectRows_eq_ok] at hp
  obtain ⟨deleted, ⟨-, hdeleted⟩, hp⟩ := hp
  change deleted = db.ordersNamed sql ext at hdeleted
  subst hdeleted
  split_ifs at hp with hempty hterminal
  · cases hp
    exact .inl ⟨rfl, List.isEmpty_iff.mp hempty, rfl⟩
  · simp at hp
  · simp only [bind_eq_ok, SqlServer.checked_eq_ok] at hp
    obtain ⟨closing, hclosing, status, ⟨hstatus, hallowed⟩, hp⟩ := hp
    cases hp
    right
    obtain ⟨o, rest, horders⟩ := List.exists_cons_of_ne_nil
      (fun h => hempty (List.isEmpty_iff.mpr h))
    refine ⟨o, status, closing, t.now, by simp [horders], by simp [horders],
      ⟨hclosing, hstatus, hallowed, by simpa using hterminal⟩, ?_⟩
    have happly := applyAll_updateOrder sql ((db.ordersNamed sql ext).map (·.orderId)) status
      closing t.now db
    rw [List.map_map] at happly
    exact happly

lemma runs_fetchOrderSnapshot {orderId : ℕ} {snapshot : Snapshot}
    (h : Runs sql.engine (fetchOrderSnapshot orderId) db snapshot db') :
    (SqlServer.selectSnapshot db orderId).head? = some snapshot.order ∧
      snapshot.items = SqlServer.selectItems db orderId ∧ db' = db := by
  simp only [fetchOrderSnapshot, runs_bind] at h
  obtain ⟨rows, _, h, items, _, hitems, hk⟩ := h
  obtain ⟨_, _, -, hp, rfl⟩ := runs_execute.mp h
  simp only [SqlServer.perform, Except.ok.injEq, Prod.mk.injEq] at hp
  obtain ⟨rfl, rfl⟩ := hp
  obtain ⟨_, _, -, hp, rfl⟩ := runs_execute.mp hitems
  simp only [SqlServer.perform, Except.ok.injEq, Prod.mk.injEq] at hp
  obtain ⟨rfl, rfl⟩ := hp
  split at hk
  · rename_i order rest horder
    simp only [Program.pure_eq, runs_ret] at hk
    obtain ⟨rfl, rfl⟩ := hk
    exact ⟨by simp [horder], rfl, rfl⟩
  · exact absurd hk runs_fail

lemma runs_resolveOrderId {ext : Json} {result : Option ℕ}
    (h : Runs sql.engine (resolveOrderId ext) db result db') :
    result = (db.ordersNamed sql ext).head?.map (·.orderId) ∧ db' = db := by
  simp only [resolveOrderId, runs_bind, Program.pure_eq, runs_ret] at h
  obtain ⟨rows, _, h, rfl, rfl⟩ := h
  obtain ⟨_, _, -, hp, rfl⟩ := runs_execute.mp h
  simp only [SqlServer.perform, SqlServer.readOnly, SqlServer.selectOrder, bind_eq_ok,
    selectRows_eq_ok, Except.ok.injEq, Prod.mk.injEq] at hp
  obtain ⟨_, ⟨_, ⟨-, rfl⟩, rfl⟩, rfl, rfl⟩ := hp
  exact ⟨List.head?_map, rfl⟩

/-! ### Payments and invoices -/

def Database.paymentsNamed (db : Database) (sql : SqlServer) (ext : Json) : List Payment :=
  db.payments.filter fun p => holds (sql.matchesPayment ext p)

def Database.invoicesNamed (db : Database) (sql : SqlServer) (ext : Json) : List Invoice :=
  db.invoices.filter fun i => holds (sql.matchesInvoice ext i)

inductive PaymentUpserted (sql : SqlServer) (orderId : ℕ) (p : PaymentParams) (db : Database) :
    Database → Prop
  | updated {status : Varchar 20} {amount : Int} {paidAt : Option Int} {now : ℕ}
      (named : db.paymentsNamed sql p.externalPaymentId ≠ [])
      (status_eq : sql.checked "ck_payment_status" paymentStatuses p.status = .ok status)
      (amount_eq : sql.numeric "amount" p.amount = .ok amount) :
      PaymentUpserted sql orderId p db
        { db with
          payments := updateByIds (·.paymentId)
            ((db.paymentsNamed sql p.externalPaymentId).map (·.paymentId))
            (·.update status amount paidAt now) db.payments }
  | inserted {row : Payment} (named : db.paymentsNamed sql p.externalPaymentId = [])
      (ext : sql.TextOf p.externalPaymentId row.externalPaymentId)
      (orderId_eq : row.orderId = orderId) (order : ∃ o ∈ db.orders, o.orderId = orderId)
      (fresh : ∀ p ∈ db.payments,
        sql.same row.externalPaymentId.text p.externalPaymentId.text = false)
      (id_le : db.next.payment ≤ row.paymentId)
      (status_eq : sql.checked "ck_payment_status" paymentStatuses p.status = .ok row.status)
      (amount_eq : sql.numeric "amount" p.amount = .ok row.amount) :
      PaymentUpserted sql orderId p db
        { db with
          payments := db.payments ++ [row]
          next := { db.next with payment := row.paymentId + 1 } }

inductive InvoiceUpserted (sql : SqlServer) (orderId : ℕ) (p : InvoiceParams) (db : Database) :
    Database → Prop
  | updated {status : Varchar 20} {amount : Int} {pdfUrl : Option (Varchar 500)}
      (named : db.invoicesNamed sql p.externalInvoiceId ≠ [])
      (status_eq : sql.checked "ck_invoice_status" invoiceStatuses p.status = .ok status)
      (amount_eq : sql.numeric "amount" p.amount = .ok amount)
      (pdfUrl_eq : sql.varchar 500 "pdf_url" p.pdfUrl = .ok pdfUrl) :
      InvoiceUpserted sql orderId p db
        { db with
          invoices := updateByIds (·.invoiceId)
            ((db.invoicesNamed sql p.externalInvoiceId).map (·.invoiceId))
            (·.update status amount pdfUrl) db.invoices }
  | inserted {row : Invoice} (named : db.invoicesNamed sql p.externalInvoiceId = [])
      (ext : sql.TextOf p.externalInvoiceId row.externalInvoiceId)
      (orderId_eq : row.orderId = orderId) (order : ∃ o ∈ db.orders, o.orderId = orderId)
      (fresh : ∀ i ∈ db.invoices,
        sql.same row.externalInvoiceId.text i.externalInvoiceId.text = false)
      (id_le : db.next.invoice ≤ row.invoiceId)
      (status_eq : sql.checked "ck_invoice_status" invoiceStatuses p.status = .ok row.status)
      (amount_eq : sql.numeric "amount" p.amount = .ok row.amount) :
      InvoiceUpserted sql orderId p db
        { db with
          invoices := db.invoices ++ [row]
          next := { db.next with invoice := row.invoiceId + 1 } }

lemma runs_upsertPayment {orderId : ℕ} {payment : Json} {u : Unit}
    (h : Runs sql.engine (upsertPayment orderId payment) db u db') :
    ∃ p, paymentParams payment = .ok p ∧ PaymentUpserted sql orderId p db db' := by
  simp only [upsertPayment, runs_bind, runs_eval] at h
  obtain ⟨p, db₀, ⟨hparams, rfl⟩, h⟩ := h
  obtain ⟨t, ws, -, hp, rfl⟩ := runs_execute.mp h
  refine ⟨p, hparams, ?_⟩
  simp only [SqlServer.perform, SqlServer.silent, SqlServer.mergePayment, bind_eq_ok,
    selectRows_eq_ok, Except.ok.injEq, Prod.mk.injEq, true_and] at hp
  obtain ⟨ws, ⟨_, ⟨-, rfl⟩, status, hstatus, amount, hamount, paidAt, -, hp⟩, rfl⟩ := hp
  split at hp
  · rename_i hempty
    simp only [bind_eq_ok, SqlServer.text_eq_ok] at hp
    obtain ⟨ext, hext, method, -, hp⟩ := hp
    split_ifs at hp with horder hany
    cases hp
    refine @PaymentUpserted.inserted sql orderId p _
      ⟨_, ext, orderId, method, status, amount, paidAt, t.now, t.now⟩
      (List.isEmpty_iff.mp hempty) hext rfl (by simpa using horder) (fun q hq => ?_) ?_
      hstatus hamount
    · simpa using fun hsame => hany (List.any_eq_true.mpr ⟨q, hq, hsame⟩)
    · exact Nat.le_add_right _ _
  · rename_i hempty
    cases hp
    have happly := applyAll_updatePayment sql
      ((db₀.paymentsNamed sql p.externalPaymentId).map (·.paymentId)) status amount paidAt t.now
      db₀
    rw [List.map_map] at happly
    exact happly ▸ .updated (fun h => hempty (List.isEmpty_iff.mpr h)) hstatus hamount

lemma runs_upsertInvoice {orderId : ℕ} {invoice : Json} {u : Unit}
    (h : Runs sql.engine (upsertInvoice orderId invoice) db u db') :
    ∃ p, invoiceParams invoice = .ok p ∧ InvoiceUpserted sql orderId p db db' := by
  simp only [upsertInvoice, runs_bind, runs_eval] at h
  obtain ⟨p, db₀, ⟨hparams, rfl⟩, h⟩ := h
  obtain ⟨t, ws, -, hp, rfl⟩ := runs_execute.mp h
  refine ⟨p, hparams, ?_⟩
  simp only [SqlServer.perform, SqlServer.silent, SqlServer.mergeInvoice, bind_eq_ok,
    selectRows_eq_ok, Except.ok.injEq, Prod.mk.injEq, true_and] at hp
  obtain ⟨ws, ⟨_, ⟨-, rfl⟩, status, hstatus, amount, hamount, pdfUrl, hpdfUrl, hp⟩, rfl⟩ := hp
  split at hp
  · rename_i hempty
    simp only [bind_eq_ok, SqlServer.text_eq_ok] at hp
    obtain ⟨ext, hext, number, -, issuedAt, -, hp⟩ := hp
    split_ifs at hp with horder hany
    cases hp
    refine @InvoiceUpserted.inserted sql orderId p _
      ⟨_, ext, orderId, number, issuedAt, amount, status, pdfUrl, t.now⟩
      (List.isEmpty_iff.mp hempty) hext rfl (by simpa using horder) (fun q hq => ?_) ?_
      hstatus hamount
    · simpa using fun hsame => hany (List.any_eq_true.mpr ⟨q, hq, hsame⟩)
    · exact Nat.le_add_right _ _
  · rename_i hempty
    cases hp
    have happly := applyAll_updateInvoice sql
      ((db₀.invoicesNamed sql p.externalInvoiceId).map (·.invoiceId)) status amount pdfUrl db₀
    rw [List.map_map] at happly
    exact happly ▸ .updated (fun h => hempty (List.isEmpty_iff.mpr h)) hstatus hamount hpdfUrl

/-! ### Events -/

/-- The rows one branch of `process_event` wrote, and what it returned. -/
inductive Processed (sql : SqlServer) (eventId eventType data : Json) (db : Database) :
    Option Outbox → Database → Prop
  | created {client address ext items : Json} {p : ClientParams} {q : OrderParams}
      {clientId addressId : ℕ} {order : Order} {history : StatusHistory}
      {db₁ db₂ db₃ : Database} (type_eq : eventType = .str "ORDER_CREATED")
      (client_eq : data.getItem "client" = .ok client)
      (address_eq : data.getItem "address" = .ok address)
      (items_eq : data.get "items" (.arr []) = .ok items)
      (hp : clientParams client = .ok p) (hclient : ClientUpserted sql p db clientId db₁)
      (hext : address.getItem "external_address_id" = .ok ext)
      (haddress : AddressUpserted sql clientId ext (addressContent address) db₁ addressId db₂)
      (hq : orderParams data = .ok q) (horder : OrderRow sql clientId addressId q db₂ order)
      (hitems : ItemsInserted sql order.orderId items (db₂.addOrder order) db₃)
      (hhistory : HistoryRow sql order.orderId none (.str "PENDING") eventId db₃ history) :
      Processed sql eventId eventType data db none (db₃.addHistory history)
  | statusChanged {ext newStatus : Json} {o : Order} {status : Varchar 20} {closing : Bool}
      {now : ℕ} {history : StatusHistory} {outbox : Option Outbox}
      (type_eq : eventType = .str "ORDER_STATUS_CHANGED")
      (hext : data.getItem "external_order_id" = .ok ext)
      (hnew : data.getItem "new_status" = .ok newStatus)
      (named : (db.ordersNamed sql ext).head? = some o)
      (hupdate : StatusUpdate sql ext newStatus db status closing)
      (hhistory : HistoryRow sql o.orderId (some o.status) newStatus eventId
        (db.setStatus sql ext status closing now) history)
      (houtbox : if newStatus.isText "APPROVED"
        then ∃ snapshot, outbox = some ⟨"ORDER_APPROVED", snapshot⟩ ∧
          (SqlServer.selectSnapshot ((db.setStatus sql ext status closing now).addHistory history)
            o.orderId).head? = some snapshot.order ∧
          snapshot.items = SqlServer.selectItems db o.orderId
        else outbox = none) :
      Processed sql eventId eventType data db outbox
        ((db.setStatus sql ext status closing now).addHistory history)
  | paid {ext : Json} {o : Order} {p : PaymentParams} {db' : Database}
      (type_eq : eventType = .str "PAYMENT_CONFIRMED")
      (hext : data.getItem "external_order_id" = .ok ext)
      (named : (db.ordersNamed sql ext).head? = some o)
      (hp : paymentParams data = .ok p) (hpayment : PaymentUpserted sql o.orderId p db db') :
      Processed sql eventId eventType data db none db'
  | invoiced {ext : Json} {o : Order} {p : InvoiceParams} {db' : Database}
      (type_eq : eventType = .str "INVOICE_ISSUED")
      (hext : data.getItem "external_order_id" = .ok ext)
      (named : (db.ordersNamed sql ext).head? = some o)
      (hp : invoiceParams data = .ok p) (hinvoice : InvoiceUpserted sql o.orderId p db db') :
      Processed sql eventId eventType data db none db'
  | unknownOrder {ext : Json} (hext : data.getItem "external_order_id" = .ok ext)
      (named : db.ordersNamed sql ext = []) (not_created : eventType ≠ .str "ORDER_CREATED") :
      Processed sql eventId eventType data db none db
  | unknownType (not_created : eventType ≠ .str "ORDER_CREATED")
      (not_changed : eventType ≠ .str "ORDER_STATUS_CHANGED") :
      Processed sql eventId eventType data db none db

/-- What the committed transaction of an event did: it claimed the event under `row`, wrote
the rows of the event, and marked what it claimed. -/
structure Committed (sql : SqlServer) (event eventId eventType data : Json) (db : Database)
    (row : ProcessedEvent) (outbox : Option Outbox) (db₁ : Database) : Prop where
  eventId_eq : event.getItem "event_id" = .ok eventId
  eventType_eq : event.getItem "event_type" = .ok eventType
  data_eq : event.getItem "data" = .ok data
  claimed : Claimed sql eventId eventType db row
  processed : Processed sql eventId eventType data
    { db with processedEvents := db.processedEvents ++ [row] } outbox db₁

lemma runs_orderCreated {eventId data : Json} {outbox : Option Outbox}
    (h : Runs sql.engine (orderCreated eventId data) db outbox db') :
    Processed sql eventId (.str "ORDER_CREATED") data db outbox db' := by
  simp only [orderCreated, runs_bind, runs_item, runs_eval, Program.pure_eq, runs_ret] at h
  obtain ⟨client, _, ⟨hclient, rfl⟩, clientId, db₁, h₁, address, _, ⟨haddress, rfl⟩, addressId,
    db₂, h₂, orderId, db₃, h₃, items, _, ⟨hitems, rfl⟩, u₄, db₄, h₄, u₅, db₅, h₅, rfl, rfl⟩ := h
  obtain ⟨p, hp, hupserted⟩ := runs_upsertClient h₁
  obtain ⟨ext, hext, haddr⟩ := runs_upsertCurrentAddress h₂
  obtain ⟨q, order, hq, horder, rfl, rfl⟩ := runs_insertOrder h₃
  have hinserted := runs_insertOrderItems h₄
  obtain ⟨history, hhistory, rfl⟩ := runs_recordStatusHistory h₅
  exact .created rfl hclient haddress hitems hp hupserted hext haddr hq horder hinserted hhistory

lemma runs_orderStatusChanged {eventId data : Json} {outbox : Option Outbox}
    (h : Runs sql.engine (orderStatusChanged eventId data) db outbox db') :
    Processed sql eventId (.str "ORDER_STATUS_CHANGED") data db outbox db' := by
  simp only [orderStatusChanged, runs_bind, runs_item] at h
  obtain ⟨ext, db₀, ⟨hext, rfl⟩, new, _, ⟨hnew, rfl⟩, result, db₁, hupdate, h⟩ := h
  rcases runs_updateOrderStatus hupdate with ⟨rfl, hnone, rfl⟩ |
    ⟨o, status, closing, now, rfl, hsome, hstatus, rfl⟩
  · simp only [Program.pure_eq, runs_ret] at h
    obtain ⟨rfl, rfl⟩ := h
    exact .unknownOrder hext hnone (by simp)
  · simp only [runs_bind] at h
    obtain ⟨u₂, db₂, hrecord, h⟩ := h
    obtain ⟨history, hhistory, rfl⟩ := runs_recordStatusHistory hrecord
    split_ifs at h with happroved
    · simp only [runs_bind, Program.pure_eq, runs_ret] at h
      obtain ⟨snapshot, _, hfetch, rfl, rfl⟩ := h
      obtain ⟨horder, hitems, rfl⟩ := runs_fetchOrderSnapshot hfetch
      refine .statusChanged rfl hext hnew hsome hstatus hhistory ?_
      rw [if_pos happroved]
      exact ⟨snapshot, rfl, horder, hitems⟩
    · simp only [Program.pure_eq, runs_ret] at h
      obtain ⟨rfl, rfl⟩ := h
      refine .statusChanged rfl hext hnew hsome hstatus hhistory ?_
      rw [if_neg happroved]

lemma runs_paymentConfirmed {eventId data : Json} {outbox : Option Outbox}
    (h : Runs sql.engine (paymentConfirmed data) db outbox db') :
    Processed sql eventId (.str "PAYMENT_CONFIRMED") data db outbox db' := by
  simp only [paymentConfirmed, runs_bind, runs_item] at h
  obtain ⟨ext, _, ⟨hext, rfl⟩, result, db₁, hresolve, h⟩ := h
  obtain ⟨rfl, rfl⟩ := runs_resolveOrderId hresolve
  cases hnamed : (db₁.ordersNamed sql ext).head? with
  | none =>
    simp only [hnamed, Option.map_none, Program.pure_eq, runs_ret] at h
    obtain ⟨rfl, rfl⟩ := h
    exact .unknownOrder hext (List.head?_eq_none_iff.mp hnamed) (by simp)
  | some o =>
    simp only [hnamed, Option.map_some, runs_bind, Program.pure_eq, runs_ret] at h
    obtain ⟨u, _, hupsert, rfl, rfl⟩ := h
    obtain ⟨p, hp, hpayment⟩ := runs_upsertPayment hupsert
    exact .paid rfl hext hnamed hp hpayment

lemma runs_invoiceIssued {eventId data : Json} {outbox : Option Outbox}
    (h : Runs sql.engine (invoiceIssued data) db outbox db') :
    Processed sql eventId (.str "INVOICE_ISSUED") data db outbox db' := by
  simp only [invoiceIssued, runs_bind, runs_item] at h
  obtain ⟨ext, _, ⟨hext, rfl⟩, result, db₁, hresolve, h⟩ := h
  obtain ⟨rfl, rfl⟩ := runs_resolveOrderId hresolve
  cases hnamed : (db₁.ordersNamed sql ext).head? with
  | none =>
    simp only [hnamed, Option.map_none, Program.pure_eq, runs_ret] at h
    obtain ⟨rfl, rfl⟩ := h
    exact .unknownOrder hext (List.head?_eq_none_iff.mp hnamed) (by simp)
  | some o =>
    simp only [hnamed, Option.map_some, runs_bind, Program.pure_eq, runs_ret] at h
    obtain ⟨u, _, hupsert, rfl, rfl⟩ := h
    obtain ⟨p, hp, hinvoice⟩ := runs_upsertInvoice hupsert
    exact .invoiced rfl hext hnamed hp hinvoice

lemma runs_applyEvent {eventId eventType data : Json} {outbox : Option Outbox}
    (h : Runs sql.engine (applyEvent eventId eventType data) db outbox db') :
    Processed sql eventId eventType data db outbox db' := by
  unfold applyEvent at h
  split_ifs at h with hcreated hchanged hpaid hinvoiced
  · exact Json.isText_iff.mp hcreated ▸ runs_orderCreated h
  · exact Json.isText_iff.mp hchanged ▸ runs_orderStatusChanged h
  · exact Json.isText_iff.mp hpaid ▸ runs_paymentConfirmed h
  · exact Json.isText_iff.mp hinvoiced ▸ runs_invoiceIssued h
  · simp only [Program.pure_eq, runs_ret] at h
    obtain ⟨rfl, rfl⟩ := h
    exact .unknownType (fun h => hcreated (by simp [h])) fun h => hchanged (by simp [h])

/-- A committed transaction, and when it marked the event. -/
theorem committed_of_runs {event eventId : Json} {outbox : Option Outbox}
    (h : Runs sql.engine (eventTxn event eventId) db outbox db') :
    ∃ id eventType data row db₁ now,
      Committed sql event id eventType data db row outbox db₁ ∧
        db' = db₁.marked sql eventId now := by
  simp only [eventTxn, processEvent, runs_bind, runs_item, Program.pure_eq, runs_ret] at h
  obtain ⟨_, db₁, ⟨id, _, ⟨hid, rfl⟩, eventType, _, ⟨htype, rfl⟩, data, _, ⟨hdata, rfl⟩, u, db₀,
    hclaim, happly⟩, v, _, hmark, rfl, rfl⟩ := h
  obtain ⟨row, hrow, rfl⟩ := runs_claimEvent hclaim
  obtain ⟨now, rfl⟩ := runs_markEventProcessed hmark
  exact ⟨id, eventType, data, row, db₁, now, ⟨hid, htype, hdata, hrow, runs_applyEvent happly⟩,
    rfl⟩

end EventPipeline

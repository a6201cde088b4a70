import EventPipeline.Locality
import EventPipeline.Redelivery
import EventPipeline.Snapshots

/-!
# How an event ends

Where nothing goes wrong, the tables alone decide how `handle_message` deals with an event: whether
it is accepted, dropped because its order is unknown, taken for a replay or refused (`fate_eq`),
what it publishes (`published_eq`), and which version of an address a new order is sent to
(`versions_of_runs`).
-/

namespace EventPipeline

open Transaction Prog

variable {ext : Externals} {sql : SqlServer} {db db' : Database} {event eventId : Json}
  {msg : Message} {env : CallEnv} {w : World} {outbox : Option Outbox}

/-- The outcome of an event: accepted, dropped because no order has its id, taken for a replay, or
refused. -/
inductive Fate
  | success
  | unknown
  | duplicate
  | rejected
  deriving DecidableEq, Repr

/-- The types of event that look an order up. -/
def lookupEvents : List String :=
  ["ORDER_STATUS_CHANGED", "PAYMENT_CONFIRMED", "INVOICE_ISSUED"]

/-- The event looks an order up that `named` does not find. -/
def unknownOrder (named : Json → Bool) (event : Json) : Bool :=
  (event.getItem "event_type").toOption.any (fun type => lookupEvents.any type.isText) &&
    (idOf event .order).any fun v => !named v

/-- How the attempts at an event end, from the state they started in. -/
def fateOf (sql : SqlServer) (db : Database) (event : Json) :
    Except Exn (Option Outbox) → Fate
  | .ok _ =>
    if unknownOrder (fun v => !(db.ordersNamed sql v).isEmpty) event then .unknown else .success
  | .error (.duplicateEvent _) => .duplicate
  | .error _ => .rejected

/-- How `handle_message` deals with a message. -/
def fate (ext : Externals) (env : CallEnv) (msg : Message) (db : Database) : Fate :=
  match decodeEvent ext msg.value with
  | .error _ => .rejected
  | .ok (event, eventId) =>
    fateOf ext.sql db event (runAttempts ext.sql env.attempts event eventId db).1

/-! ### Replays -/

/-- The INSERT into the ledger violates its primary key or a NOT NULL constraint. -/
def Shop.replayed (sql : SqlServer) (eventId eventType : Json) (s : Shop) : Bool :=
  [eventId, eventType].all Json.bindable &&
    match sql.varchar 100 "event_id" eventId, sql.varchar 50 "event_type" eventType with
    | .ok (some id), .ok (some _) => s.ledger.any fun e => sql.same id.text e.eventId.text
    | .ok _, .ok _ => true
    | _, _ => false

/-- What the tables say about how an event ends. -/
def Shop.fate (sql : SqlServer) (event eventId : Json) (s : Shop) : Fate :=
  match Shop.event sql event eventId s with
  | some _ =>
    if unknownOrder (fun v => s.orders.any fun o => holds (Shop.orderNamed sql v o)) event then
      .unknown
    else .success
  | none =>
    match event.getItem "event_type", event.getItem "data" with
    | .ok eventType, .ok _ => if s.replayed sql eventId eventType then .duplicate else .rejected
    | _, _ => .rejected

lemma varchar_error {n : ℕ} {column : String} {p : Json} {f : Fault}
    (h : sql.varchar n column p = .error f) : f.cls = .data := by
  unfold SqlServer.varchar at h
  split at h
  · cases h
  · split at h <;> cases h
    rfl

/-- Whether the INSERT into the ledger raises an integrity error. -/
lemma exec_insertEvent (t : Tick) (eventId eventType : Json) :
    match sql.engine.exec t (.insertEvent eventId eventType) db with
    | .ok _ => db.shop.replayed sql eventId eventType = false
    | .error e => e.cls = .integrity ↔ db.shop.replayed sql eventId eventType = true := by
  have hany : ∀ id : Varchar 100,
      (db.shop.ledger.any fun e => sql.same id.text e.eventId.text) =
        db.processedEvents.any fun e => sql.same id.text e.eventId.text := fun id => by
    simp [Database.shop, ProcessedEvent.info, List.any_map, Function.comp_def]
  simp only [SqlServer.engine, SqlServer.execute, Stmt.parameters, Shop.replayed]
  split_ifs with hbind
  · simp only [hbind, Bool.true_and, SqlServer.perform, SqlServer.insertEvent]
    cases hid : sql.varchar 100 "event_id" eventId with
    | error f => simp [SqlServer.silent, Except.mapError, SqlServer.raise, varchar_error hid, bind,
        Except.bind]
    | ok id =>
      cases htype : sql.varchar 50 "event_type" eventType with
      | error f => simp [SqlServer.silent, Except.mapError, SqlServer.raise, varchar_error htype, bind,
          Except.bind]
      | ok type =>
        cases id with
        | none => simp [SqlServer.silent, Except.mapError, SqlServer.raise, required, Fault.cls, bind,
            Except.bind]
        | some id =>
          cases type with
          | none => simp [SqlServer.silent, Except.mapError, SqlServer.raise, required, Fault.cls,
              bind, Except.bind]
          | some type =>
            simp only [hany]
            by_cases hreplayed : (db.processedEvents.any fun e =>
                sql.same id.text e.eventId.text) = true
            · simp [hreplayed, SqlServer.silent, Except.mapError, SqlServer.raise, required, Fault.cls,
                bind, Except.bind]
            · simp [hreplayed, SqlServer.silent, Except.mapError, required, bind, Except.bind]
  · simp [hbind, Except.mapError, SqlServer.raise, Fault.cls]

/-- The exception is not `DuplicateEvent`. -/
def Exn.NotReplay : Exn → Prop
  | .duplicateEvent _ => False
  | _ => True

section RaisesOnly

lemma raisesOnly_eval {α : Type} (r : Except PyError α) : (eval r).RaisesOnly Exn.NotReplay := by
  cases r <;> trivial

lemma raisesOnly_execute (stmt : Stmt) : (execute stmt).RaisesOnly Exn.NotReplay :=
  .statement (fun _ => trivial) stmt

lemma raisesOnly_first {α : Type} (column : String) (rows : List α) :
    (first column rows).RaisesOnly Exn.NotReplay := by
  cases rows <;> trivial

lemma raisesOnly_upsertCurrentAddress (clientId : ℕ) (address : Json) :
    (upsertCurrentAddress clientId address).RaisesOnly Exn.NotReplay := by
  refine .bind (raisesOnly_eval _) fun ext => .bind (raisesOnly_execute _) fun rows => ?_
  simp only
  split
  · exact raisesOnly_execute _
  · split_ifs
    · trivial
    · exact .bind (raisesOnly_execute _) fun _ => raisesOnly_execute _

lemma raisesOnly_insertOrderItems (orderId : ℕ) (items : Json) :
    (insertOrderItems orderId items).RaisesOnly Exn.NotReplay := by
  unfold insertOrderItems
  split_ifs
  · exact .bind (raisesOnly_eval _) fun rows => raisesOnly_execute _
  · trivial

lemma raisesOnly_orderCreated (eventId data : Json) :
    (orderCreated eventId data).RaisesOnly Exn.NotReplay :=
  .bind (raisesOnly_eval _) fun _ =>
  .bind (.bind (raisesOnly_eval _) fun _ => .bind (raisesOnly_execute _) fun _ =>
    raisesOnly_first _ _) fun _ =>
  .bind (raisesOnly_eval _) fun _ =>
  .bind (raisesOnly_upsertCurrentAddress _ _) fun _ =>
  .bind (.bind (raisesOnly_eval _) fun _ => raisesOnly_execute _) fun _ =>
  .bind (raisesOnly_eval _) fun _ =>
  .bind (raisesOnly_insertOrderItems _ _) fun _ =>
  .bind (raisesOnly_execute _) fun _ => trivial

lemma raisesOnly_orderStatusChanged (eventId data : Json) :
    (orderStatusChanged eventId data).RaisesOnly Exn.NotReplay := by
  refine .bind (raisesOnly_eval _) fun _ => .bind (raisesOnly_eval _) fun newStatus =>
    .bind (.bind (raisesOnly_execute _) fun _ => trivial) fun updated => ?_
  cases updated with
  | none => trivial
  | some order =>
    refine .bind (raisesOnly_execute _) fun _ => ?_
    split_ifs
    · refine .bind (.bind (raisesOnly_execute _) fun rows => .bind (raisesOnly_execute _)
        fun _ => ?_) fun _ => trivial
      cases rows <;> trivial
    · trivial

/-- A payment or an invoice of the order named. -/
lemma raisesOnly_resolved (ext : Json) {f : ℕ → Prog Unit}
    (hf : ∀ orderId, (f orderId).RaisesOnly Exn.NotReplay) :
    (resolveOrderId ext >>= fun
      | none => pure none
      | some orderId => f orderId >>= fun _ => pure (none : Option Outbox)).RaisesOnly
        Exn.NotReplay := by
  refine .bind (.bind (raisesOnly_execute _) fun _ => trivial) fun order => ?_
  cases order with
  | none => trivial
  | some orderId => exact .bind (hf orderId) fun _ => trivial

/-- What follows the claim does not raise `DuplicateEvent`. -/
lemma raisesOnly_applyEvent (eventId eventType data : Json) :
    (applyEvent eventId eventType data).RaisesOnly Exn.NotReplay := by
  unfold applyEvent
  split_ifs
  · exact raisesOnly_orderCreated _ _
  · exact raisesOnly_orderStatusChanged _ _
  · exact .bind (raisesOnly_eval _) fun _ => raisesOnly_resolved _ fun _ =>
      .bind (raisesOnly_eval _) fun _ => raisesOnly_execute _
  · exact .bind (raisesOnly_eval _) fun _ => raisesOnly_resolved _ fun _ =>
      .bind (raisesOnly_eval _) fun _ => raisesOnly_execute _
  · trivial

end RaisesOnly

lemma unknownOrder_shop (db : Database) (event : Json) :
    unknownOrder (fun v => !(db.ordersNamed sql v).isEmpty) event =
      unknownOrder (fun v => db.shop.orders.any fun o => holds (Shop.orderNamed sql v o)) event := by
  refine congrArg (unknownOrder · event) (funext fun v => ?_)
  simp only [Database.ordersNamed, Database.shop, List.any_map, Function.comp_def]
  rw [Bool.eq_iff_iff]
  simp only [Bool.not_eq_true', List.isEmpty_eq_false_iff_exists_mem, List.mem_filter, List.any_eq_true]
  rfl

/-- The transaction of an event that has an id, a type and data. -/
lemma eventTxn_eq {eventType data : Json} (hid : event.getItem "event_id" = .ok eventId)
    (htype : event.getItem "event_type" = .ok eventType)
    (hdata : event.getItem "data" = .ok data) :
    eventTxn event eventId = ((claimEvent eventId eventType >>= fun _ =>
      applyEvent eventId eventType data) >>= fun outbox =>
        markEventProcessed eventId >>= fun _ => pure outbox) := by
  simp [eventTxn, processEvent, item, eval, hid, htype, hdata]

/-- A transaction that fails is a replay exactly when the claim is. -/
lemma replay_of_run {eventType data : Json} (hid : event.getItem "event_id" = .ok eventId)
    (htype : event.getItem "event_type" = .ok eventType) (hdata : event.getItem "data" = .ok data)
    {statement : ℕ → Except SqlError Tick} {t : Tick} (ht : statement 0 = .ok t) {x : Exn}
    (hx : (eventTxn event eventId).run sql.engine statement 0 db = .error x) :
    (∃ id, x = .duplicateEvent id) ↔ db.shop.replayed sql eventId eventType = true := by
  have hexec := @exec_insertEvent sql db t eventId eventType
  rw [eventTxn_eq hid htype hdata] at hx
  simp only [claimEvent, Program.call_bind, Program.run, Engine.answer, ht] at hx
  cases hclaim : sql.engine.exec t (.insertEvent eventId eventType) db with
  | ok r =>
    simp only [hclaim, Program.ret_bind] at hx hexec
    have hrest : ((applyEvent eventId eventType data) >>= fun outbox =>
        markEventProcessed eventId >>= fun _ => pure outbox).RaisesOnly Exn.NotReplay :=
      .bind (raisesOnly_applyEvent _ _ _) fun _ => .bind (raisesOnly_execute _) fun _ => trivial
    have hnot := hrest.run_eq_error hx
    simp only [hexec, Bool.false_eq_true, iff_false]
    rintro ⟨id, rfl⟩
    exact hnot
  | error e =>
    simp only [hclaim] at hx hexec
    rw [← hexec]
    split_ifs at hx with hcls
    · simp only [Program.fail_bind, Program.run_fail, Except.error.injEq] at hx
      exact iff_of_true ⟨eventId, hx.symm⟩ hcls
    · simp only [Program.fail_bind, Program.run_fail, Except.error.injEq] at hx
      refine iff_of_false ?_ hcls
      rintro ⟨id, rfl⟩
      cases hx

/-- A transaction that returns has claimed its event. -/
lemma claimed_of_run {eventType data : Json} (hid : event.getItem "event_id" = .ok eventId)
    (htype : event.getItem "event_type" = .ok eventType) (hdata : event.getItem "data" = .ok data)
    {statement : ℕ → Except SqlError Tick} {t : Tick} (ht : statement 0 = .ok t)
    {result : Option Outbox × ℕ × Database}
    (h : (eventTxn event eventId).run sql.engine statement 0 db = .ok result) :
    db.shop.replayed sql eventId eventType = false := by
  have hexec := @exec_insertEvent sql db t eventId eventType
  rw [eventTxn_eq hid htype hdata] at h
  simp only [claimEvent, Program.call_bind, Program.run, Engine.answer, ht] at h
  cases hclaim : sql.engine.exec t (.insertEvent eventId eventType) db with
  | ok r =>
    rw [hclaim] at hexec
    exact hexec
  | error e =>
    simp only [hclaim] at h
    split_ifs at h <;> cases h

/-- A transaction that fails before its first statement. -/
lemma python_of_run {statement : ℕ → Except SqlError Tick} {x : Exn}
    (hid : event.getItem "event_id" = .ok eventId)
    (hmissing : (∃ e, event.getItem "event_type" = .error e) ∨ ∃ e, event.getItem "data" = .error e)
    (hx : (eventTxn event eventId).run sql.engine statement 0 db = .error x) :
    ∃ e, x = .python e := by
  obtain ⟨e, hfail⟩ : ∃ e, eventTxn event eventId = .fail (.python e) := by
    cases htype : event.getItem "event_type" with
    | error e => exact ⟨e, by simp [eventTxn, processEvent, item, eval, hid, htype]⟩
    | ok eventType =>
      rcases hmissing with ⟨e, he⟩ | ⟨e, he⟩
      · rw [htype] at he
        cases he
      · exact ⟨e, by simp [eventTxn, processEvent, item, eval, hid, htype, he]⟩
  rw [hfail] at hx
  cases hx
  exact ⟨e, rfl⟩

/-- Where nothing goes wrong, the tables decide how an attempt ends. -/
lemma Attempt.Undisturbed.fate_eq {env : Attempt} (hu : env.Undisturbed) (hc : Consistent sql db)
    (hid : event.getItem "event_id" = .ok eventId) (hplain : PlainEvent event) :
    fateOf sql db event (runInTxn sql env event eventId db).1 =
      db.shop.fate sql event eventId := by
  unfold Shop.fate
  cases hs : Shop.event sql event eventId db.shop with
  | some s =>
    obtain ⟨outbox, db', hrun, -⟩ := hu.accepted hc hplain hs
    simp only [hrun, fateOf, unknownOrder_shop]
  | none =>
    obtain ⟨x, hx⟩ := (hu.run hc eventId hplain).of_none hs
    simp only [runInTxn, hu.begin_eq, hx]
    cases htype : event.getItem "event_type" with
    | error e =>
      obtain ⟨e', rfl⟩ := python_of_run hid (.inl ⟨e, htype⟩) hx
      rfl
    | ok eventType =>
      cases hdata : event.getItem "data" with
      | error e =>
        obtain ⟨e', rfl⟩ := python_of_run hid (.inr ⟨e, hdata⟩) hx
        rfl
      | ok data =>
        obtain ⟨t, ht⟩ := hu.executed 0
        have hiff := replay_of_run hid htype hdata ht hx
        simp only
        split_ifs with hreplayed
        · obtain ⟨id, rfl⟩ := hiff.mpr hreplayed
          rfl
        · cases x with
          | duplicateEvent id => exact absurd (hiff.mp ⟨id, rfl⟩) hreplayed
          | sql e => rfl
          | python e => rfl

/-- The same for a message, however often its event is attempted. -/
lemma CallEnv.Undisturbed.fate_eq (hu : env.Undisturbed) (hc : Consistent ext.sql db)
    (hplain : msg.Plain ext) : fate ext env msg db =
      match decodeEvent ext msg.value with
      | .error _ => .rejected
      | .ok (event, eventId) => db.shop.fate ext.sql event eventId := by
  unfold fate
  cases hdec : decodeEvent ext msg.value with
  | error e => rfl
  | ok decoded =>
    obtain ⟨event, eventId⟩ := decoded
    obtain ⟨j, hj⟩ := hu.attempts_eq ext.sql event eventId db
    simp only [hj]
    exact (hu j).fate_eq hc (decodeEvent_eventId hdec) (hplain event eventId hdec)

/-! ### Publications -/

/-- What is published of an order, without surrogate keys and clock readings. -/
structure SnapshotInfo where
  order : Varchar 64
  status : Varchar 20
  totalAmount : Int
  currency : Varchar 3
  orderDate : Option Int
  client : ClientInfo
  address : AddressField → Option String
  items : List SnapshotItem
  deriving DecidableEq

def Snapshot.info (s : Snapshot) : SnapshotInfo where
  order := s.order.externalOrderId
  status := s.order.status
  totalAmount := s.order.totalAmount
  currency := s.order.currency
  orderDate := s.order.orderDate.info
  client := ⟨s.order.externalClientId, s.order.clientName, s.order.clientEmail,
    s.order.clientDocument⟩
  address := s.order.address
  items := s.items

/-- What the tables say about an order, as it would be published. -/
def Shop.snapshot (s : Shop) (key : Varchar 64) : Option SnapshotInfo := do
  let o ← s.orders.find? (·.ext = key)
  let c ← s.clients.find? fun c => o.client = some c.ext
  let address ← o.address
  some ⟨o.ext, o.status, o.totalAmount, o.currency, o.orderDate, c, address.2,
    (s.items.filter (·.order = some key)).map fun i =>
      ⟨i.sku, i.description, i.quantity, i.unitPrice⟩⟩

/-- The event is a status change to `APPROVED`. -/
def isApproval (event : Json) : Bool :=
  (event.getItem "event_type").toOption.any (·.isText "ORDER_STATUS_CHANGED") &&
    ((event.getItem "data").bind (·.getItem "new_status")).toOption.any (·.isText "APPROVED")

/-- What an event publishes that takes the tables from `s` to `s'`. -/
def Shop.announced (sql : SqlServer) (event : Json) (s s' : Shop) : Option SnapshotInfo :=
  if isApproval event then do
    let v ← idOf event .order
    let o ← s.orders.find? fun o => holds (Shop.orderNamed sql v o)
    s'.snapshot o.ext
  else none

lemma Consistent.clientKey_mem (hc : Consistent sql db) {c : Client} (h : c ∈ db.clients) :
    clientKey db.clients c.clientId = some c.externalClientId :=
  lookupBy_of_mem hc.clientIds h

lemma Consistent.orderKey_iff (hc : Consistent sql db) {o : Order} (ho : o ∈ db.orders) {id : ℕ} :
    orderKey db.orders id = some o.externalOrderId ↔ id = o.orderId := by
  constructor
  · intro h
    obtain ⟨o', ho', rfl, hext⟩ := lookupBy_eq_some h
    have hsame : sql.same o'.externalOrderId.text o.externalOrderId.text = true := by
      rw [hext, sql.same_refl]
    rw [hc.orders.eq_of_same ho' ho hsame]
  · rintro rfl
    exact lookupBy_of_mem hc.orderIds ho

/-- What `fetch_order_snapshot` returns is what the tables say. -/
lemma Consistent.snapshot_eq (hc : Consistent sql db) {o : Order} (ho : o ∈ db.orders)
    {row : SnapshotOrder} (hrow : (SqlServer.selectSnapshot db o.orderId).head? = some row) :
    db.shop.snapshot o.externalOrderId =
      some (Snapshot.info ⟨row, SqlServer.selectItems db o.orderId⟩) := by
  obtain ⟨c, hcmem, hclient⟩ := hc.orderClient o ho
  obtain ⟨a, ha, haddress⟩ := hc.orderAddress o ho
  rw [hc.selectSnapshot_row ho hcmem hclient ha haddress] at hrow
  cases hrow
  have horder : db.shop.orders.find? (·.ext = o.externalOrderId) =
      some (o.info (clientKey db.clients o.clientId) (addressKey db.address o.addressId)) := by
    refine find?_eq_of_unique (List.mem_map_of_mem ho) (decide_eq_true rfl) fun x hx hext => ?_
    obtain ⟨o', ho', rfl⟩ := List.mem_map.mp hx
    have hext : o'.externalOrderId = o.externalOrderId := of_decide_eq_true hext
    rw [hc.orders.eq_of_same ho' ho (by rw [hext, sql.same_refl])]
  have hclientKey : clientKey db.clients o.clientId = some c.externalClientId := by
    have hkey := hc.clientKey_mem hcmem
    rw [show c.clientId = o.clientId from hclient] at hkey
    exact hkey
  have hclients : (db.shop.clients.find? fun c' => some c.externalClientId = some c'.ext) =
      some c.info := by
    refine find?_eq_of_unique (List.mem_map_of_mem hcmem) (decide_eq_true rfl) fun x hx hext => ?_
    obtain ⟨c', hc', rfl⟩ := List.mem_map.mp hx
    have hext : some c.externalClientId = some c'.externalClientId := of_decide_eq_true hext
    rw [hc.clients.eq_of_same hc' hcmem (by rw [Option.some.inj hext, sql.same_refl])]
  have haddressKey : addressKey db.address o.addressId = some (a.externalAddressId, a.content) := by
    have hkey := lookupBy_of_mem (g := fun a : Address => (a.externalAddressId, a.content))
      hc.addressIds ha
    rw [show a.addressId = o.addressId from haddress] at hkey
    exact hkey
  have hitems : ((db.shop.items.filter (·.order = some o.externalOrderId)).map fun i =>
      (⟨i.sku, i.description, i.quantity, i.unitPrice⟩ : SnapshotItem)) =
        SqlServer.selectItems db o.orderId := by
    simp only [Database.shop, SqlServer.selectItems, List.filter_map, List.map_map,
      Function.comp_def, OrderItem.info, hc.orderKey_iff ho]
  simp only [Shop.snapshot, horder, Option.bind_eq_bind, Option.bind_some, Order.info, hclientKey,
    hclients, haddressKey, hitems]
  rfl

/-- The first order an event names, on both sides. -/
lemma find?_orderNamed (db : Database) (v : Json) :
    (db.shop.orders.find? fun o => holds (Shop.orderNamed sql v o)) =
      (db.ordersNamed sql v).head?.map fun o =>
        o.info (clientKey db.clients o.clientId) (addressKey db.address o.addressId) := by
  simp only [Database.shop, List.find?_map, Database.ordersNamed, List.head?_filter]
  rfl

lemma isApproval_iff {eventType data : Json} (htype : event.getItem "event_type" = .ok eventType)
    (hdata : event.getItem "data" = .ok data) :
    isApproval event = true ↔ eventType = .str "ORDER_STATUS_CHANGED" ∧
      data.getItem "new_status" = .ok (.str "APPROVED") := by
  simp only [isApproval, htype, hdata, Except.bind, Bool.and_eq_true]
  refine and_congr ?_ ?_
  · simp [Except.toOption]
  · cases data.getItem "new_status" with
    | ok newStatus => simp [Except.toOption]
    | error e => simp [Except.toOption]

/-- What the transaction of an event hands to the consumer to publish is what the tables say. -/
lemma announced_of_runs (hc : Consistent sql db')
    (h : Runs sql.engine (eventTxn event eventId) db outbox db') :
    outbox.map (·.order.info) = Shop.announced sql event db.shop db'.shop := by
  obtain ⟨id, eventType, data, row, db₁, now, hcom, rfl⟩ := committed_of_runs h
  have happroval := isApproval_iff hcom.eventType_eq hcom.data_eq
  have hother : isApproval event ≠ true →
      (none : Option Outbox).map (·.order.info) =
        Shop.announced sql event db.shop (db₁.marked sql id now).shop := fun hnot => by
    simp [Shop.announced, hnot]
  cases hcom.processed with
  | created type_eq => exact hother fun h => by simpa [type_eq] using (happroval.mp h).1
  | @statusChanged v newStatus o status closing now' history _ type_eq hv hnew named hupdate _
      houtbox =>
    split_ifs at houtbox with happroved
    · obtain ⟨snapshot, rfl, hselect, hitems⟩ := houtbox
      have hnewStatus : data.getItem "new_status" = .ok (.str "APPROVED") := by
        rw [hnew, Json.isText_iff.mp happroved]
      have hid : idOf event .order = some v := by
        simp [idOf, hcom.eventType_eq, hcom.data_eq, payloadId, orderEvents, type_eq, hv,
          Except.toOption]
      have hnamed : (db.ordersNamed sql v).head? = some o := named
      have ho : o ∈ db.orders := (List.mem_filter.mp (List.mem_of_mem_head? named)).1
      -- the order as the UPDATE leaves it
      have ho' : o.setStatus status closing now' ∈ (((Database.setStatus
          { db with processedEvents := db.processedEvents ++ [row] } sql v status closing
            now').addHistory history).marked sql id now).orders :=
        mem_updateByIds.mpr ⟨o, ho, .inl ⟨List.mem_map_of_mem (List.mem_of_mem_head? named), rfl⟩⟩
      have hsnapshot := @Consistent.snapshot_eq sql _ hc _ ho' snapshot.order hselect
      simp only [Shop.announced, happroval.mpr ⟨type_eq, hnewStatus⟩, if_true, hid,
        find?_orderNamed, hnamed, Option.map_some, Option.bind_eq_bind, Option.bind_some]
      refine Eq.trans (congrArg some ?_) hsnapshot.symm
      refine congrArg Snapshot.info ?_
      cases snapshot
      exact congrArg _ hitems
    · subst houtbox
      refine hother fun h => ?_
      obtain ⟨-, hnew'⟩ := happroval.mp h
      rw [hnew] at hnew'
      cases hnew'
      simp at happroved
  | paid type_eq => exact hother fun h => by simpa [type_eq] using (happroval.mp h).1
  | invoiced type_eq => exact hother fun h => by simpa [type_eq] using (happroval.mp h).1
  | @unknownOrder v hv named =>
    by_cases h : isApproval event = true
    · have hid : idOf event .order = some v := by
        simp [idOf, hcom.eventType_eq, hcom.data_eq, payloadId, orderEvents, (happroval.mp h).1, hv,
          Except.toOption]
      have hnamed : db.ordersNamed sql v = [] := named
      simp [Shop.announced, h, hid, find?_orderNamed, hnamed]
    · exact hother h
  | unknownType _ not_changed => exact hother fun h => not_changed (happroval.mp h).1

end EventPipeline

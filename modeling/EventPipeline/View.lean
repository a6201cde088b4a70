import EventPipeline.Consistency
import EventPipeline.Library.Simulation
import EventPipeline.Shop

/-!
# The transactions compute the shop

`Database.shop` forgets surrogate keys and clock readings. Where the environment disturbs
nothing, the transaction of an event commits exactly when `Shop.event` is defined, and what it
leaves is what `Shop.event` says (`agree_eventTxn`): neither the clock nor the identities the
server gives out decide anything. The one exception is an item with a key `order_id`.
-/

namespace EventPipeline

open Transaction Prog

def Client.info (c : Client) : ClientInfo :=
  ⟨c.externalClientId, c.name, c.email, c.document⟩

/-- The external id of the client under a surrogate key. -/
def clientKey (clients : List Client) (id : ℕ) : Option (Varchar 64) :=
  lookupBy (·.clientId) (·.externalClientId) clients id

def addressKey (address : List Address) (id : ℕ) : Option AddressKey :=
  lookupBy (·.addressId) (fun a => (a.externalAddressId, a.content)) address id

def orderKey (orders : List Order) (id : ℕ) : Option (Varchar 64) :=
  lookupBy (·.orderId) (·.externalOrderId) orders id

def Address.info (a : Address) (client : Option (Varchar 64)) : AddressInfo :=
  ⟨client, a.externalAddressId, a.content, a.isCurrent⟩

def Stamp.info : Stamp → Option Int
  | .clock _ => none
  | .given t => some t

def Order.info (o : Order) (client : Option (Varchar 64)) (address : Option AddressKey) :
    OrderInfo :=
  ⟨o.externalOrderId, client, address, o.status, o.totalAmount, o.currency, o.orderDate.info,
    o.closedAt.isSome⟩

def OrderItem.info (i : OrderItem) (order : Option (Varchar 64)) : ItemInfo :=
  ⟨order, i.sku, i.description, i.quantity, i.unitPrice⟩

def StatusHistory.info (h : StatusHistory) (order : Option (Varchar 64)) : HistoryInfo :=
  ⟨order, h.previousStatus, h.newStatus, h.changedBy, h.sourceEventId⟩

def Payment.info (p : Payment) (order : Option (Varchar 64)) : PaymentInfo :=
  ⟨p.externalPaymentId, order, p.method, p.status, p.amount, p.paidAt⟩

def Invoice.info (i : Invoice) (order : Option (Varchar 64)) : InvoiceInfo :=
  ⟨i.externalInvoiceId, order, i.invoiceNumber, i.issuedAt, i.amount, i.status, i.pdfUrl⟩

def ProcessedEvent.info (e : ProcessedEvent) : LedgerInfo :=
  ⟨e.eventId, e.eventType, e.processedAt.isSome⟩

def Database.shop (db : Database) : Shop where
  clients := db.clients.map Client.info
  address := db.address.map fun a => a.info (clientKey db.clients a.clientId)
  orders := db.orders.map fun o =>
    o.info (clientKey db.clients o.clientId) (addressKey db.address o.addressId)
  items := db.orderItems.map fun i => i.info (orderKey db.orders i.orderId)
  history := db.statusHistory.map fun h => h.info (orderKey db.orders h.orderId)
  payments := db.payments.map fun p => p.info (orderKey db.orders p.orderId)
  invoices := db.invoices.map fun i => i.info (orderKey db.orders i.orderId)
  ledger := db.processedEvents.map ProcessedEvent.info

variable {sql : SqlServer} {db db' : Database} {t : Tick}

/-! ### Statements -/

section Statements

variable {β : Type} {tick : ℕ → Tick} {n : ℕ}

lemma agree_exec {stmt : Stmt} {R : stmt.Result → Database → β → Prop} {y : Option β}
    (h : Agree (fun r b => R r.1 (sql.engine.applyAll db r.2) b) (sql.perform t db stmt) y) :
    Agree (fun r b => R r.1 (sql.engine.applyAll db r.2) b) (sql.engine.exec t stmt db)
      (if stmt.parameters.all Json.bindable then y else none) := by
  refine Agree.mapError ?_ sql.raise
  unfold SqlServer.execute
  exact .ite Iff.rfl (fun _ => h) fun _ => .error _

/-- A statement sent where the environment disturbs nothing. -/
lemma agree_execute {stmt : Stmt} {R : stmt.Result → Database → β → Prop} {y : Option β}
    (h : ∀ t, Agree (fun r b => R r.1 (sql.engine.applyAll db r.2) b) (sql.perform t db stmt) y) :
    Agree (Ends R) ((execute stmt).run sql.engine (fun i => .ok (tick i)) n db)
      (if stmt.parameters.all Json.bindable then y else none) := by
  refine Agree.statement (t := tick n) ?_ (agree_exec (h (tick n)))
  rfl

/-- Whatever the payload says is read on both sides alike. -/
lemma agree_eval_bind {α γ : Type} {R : γ → Database → β → Prop} (r : Except PyError α)
    {f : α → Prog γ} {g : α → Option β}
    (h : ∀ a, r = .ok a →
      Agree (Ends R) ((f a).run sql.engine (fun i => .ok (tick i)) n db) (g a)) :
    Agree (Ends R) ((eval r >>= f).run sql.engine (fun i => .ok (tick i)) n db)
      (r.toOption >>= g) := by
  cases r with
  | ok a => exact h a rfl
  | error e => exact .error _

lemma agree_silent {R : Database → β → Prop} {r : Except Fault (List Write)} {y : Option β}
    (h : Agree (fun ws b => R (sql.engine.applyAll db ws) b) r y) :
    Agree (fun (r : Unit × List Write) b => R (sql.engine.applyAll db r.2) b)
      (SqlServer.silent r) y := by
  cases h with
  | ok h => exact .ok h
  | error e => exact .error e

lemma agree_readOnly {α : Type} {R : α → β → Prop} {r : Except Fault α} {y : Option β}
    (h : Agree R r y) :
    Agree (fun (r : α × List Write) b => R r.1 b ∧ sql.engine.applyAll db r.2 = db)
      (SqlServer.readOnly r) y := by
  cases h with
  | ok h => exact .ok ⟨h, rfl⟩
  | error e => exact .error e

/-! ### The ledger -/

lemma agree_insertEvent (eventId eventType : Json) :
    Agree (fun r s => (sql.engine.applyAll db r.2).shop = s)
      (sql.engine.exec t (.insertEvent eventId eventType) db)
      (Shop.claim sql eventId eventType db.shop) := by
  refine agree_exec (R := fun _ db' s => db'.shop = s)
    (agree_silent (R := fun db' s => db'.shop = s) ?_)
  unfold SqlServer.insertEvent SqlServer.text
  cases sql.varchar 100 "event_id" eventId with
  | error e => exact .error e
  | ok v =>
    cases v with
    | none =>
      cases sql.varchar 50 "event_type" eventType with
      | error e => exact .error e
      | ok w => exact .error _
    | some id =>
      cases sql.varchar 50 "event_type" eventType with
      | error e => exact .error e
      | ok w =>
        cases w with
        | none => exact .error _
        | some type =>
          refine .ite ?_ (fun _ => .error _) fun _ => .ok ?_
          · simp [Database.shop, ProcessedEvent.info]
          · simp [Database.shop, ProcessedEvent.info, Engine.applyAll, SqlServer.engine,
              Database.apply]

lemma agree_claimEvent (eventId eventType : Json) :
    Agree (Ends fun _ db' s => db'.shop = s)
      ((claimEvent eventId eventType).run sql.engine (fun i => .ok (tick i)) n db)
      (Shop.claim sql eventId eventType db.shop) := by
  have h := @agree_insertEvent sql db (tick n) eventId eventType
  simp only [claimEvent, Program.run, Engine.answer]
  cases hex : sql.engine.exec (tick n) (.insertEvent eventId eventType) db with
  | ok r =>
    obtain ⟨s, hs, hview⟩ := h.of_ok hex
    rw [hs]
    exact .ok hview
  | error e =>
    rw [hex] at h
    cases hs : Shop.claim sql eventId eventType db.shop with
    | some s =>
      rw [hs] at h
      cases h
    | none =>
      simp only
      split_ifs <;> exact .error _

lemma Database.shop_marked (eventId : Json) (now : ℕ) :
    (db.marked sql eventId now).shop = { db.shop with
      ledger := db.shop.ledger.map fun e =>
        if holds (Shop.ledgerNamed sql eventId e) then { e with processed := true } else e } := by
  have hledger := map_update ProcessedEvent.info (fun e => holds (sql.matchesEvent eventId e))
    (fun e => holds (Shop.ledgerNamed sql eventId e)) (·.mark now)
    (fun e => { e with processed := true }) (fun _ => rfl) (fun _ => rfl) db.processedEvents
  simp only [Database.shop, Database.marked, hledger]

lemma agree_markEventProcessed (eventId : Json) :
    Agree (Ends fun _ db' s => db'.shop = s)
      ((markEventProcessed eventId).run sql.engine (fun i => .ok (tick i)) n db)
      (Shop.mark sql eventId db.shop) := by
  refine @agree_execute sql db _ tick n (.markEvent eventId) (fun _ db' s => db'.shop = s) _
    fun t => agree_silent (R := fun db' s => db'.shop = s) ?_
  refine Agree.select ProcessedEvent.info ?_ (.ok ?_)
  · exact fun _ => rfl
  rw [applyAll_marked, Database.shop_marked]

/-! ### Clients -/

/-- What the MERGE into `clients` returns and leaves: the key of the client it is about. -/
def ClientKnown (id : ℕ) (db : Database) (r : Varchar 64 × Shop) : Prop :=
  clientKey db.clients id = some r.1 ∧ db.shop = r.2

lemma Consistent.applyAll_updateClient (h : Consistent sql db) (p : Client → Bool)
    (name email : Varchar 200) (document : Varchar 32) (now : ℕ) :
    sql.engine.applyAll db ((db.clients.filter p).map fun c =>
        .updateClient c.clientId name email document now) =
      { db with
        clients := db.clients.map fun c => if p c then c.update name email document now else c } := by
  have happly := EventPipeline.applyAll_updateClient sql ((db.clients.filter p).map (·.clientId))
    name email document now db
  rw [List.map_map] at happly
  refine happly.trans ?_
  rw [updateByIds_filter _ _ _ fun _ ha _ hb hab =>
    congrArg p (h.clientIds.eq_of_key_eq ha hb hab)]

/-- Updates that keep the external ids leave every reference to a client as it is. -/
lemma Database.shop_updateClients (p : Client → Bool) {name email : Varchar 200}
    {document : Varchar 32} {now : ℕ} {q : ClientInfo → Bool} (hpq : ∀ c, p c = q c.info) :
    ({ db with
      clients := db.clients.map fun c => if p c then c.update name email document now else c } :
        Database).shop =
      { db.shop with
        clients := db.shop.clients.map fun c =>
          if q c then { c with name, email, document } else c } := by
  have hkey : ∀ id, clientKey (db.clients.map fun c =>
      if p c then c.update name email document now else c) id = clientKey db.clients id := by
    intro id
    refine lookupBy_map (fun c => ?_) fun c => ?_
    · split_ifs <;> rfl
    · split_ifs <;> rfl
  have hclients := map_update Client.info p q (·.update name email document now)
    (fun c => { c with name, email, document }) hpq (fun _ => rfl) db.clients
  simp only [Database.shop, hkey, hclients]

/-- A client under an id no row refers to. -/
lemma Consistent.shop_insertClient (h : Consistent sql db) (row : Client) (next : Identity) :
    ({ db with clients := db.clients ++ [row], next := next } : Database).shop =
      { db.shop with clients := db.shop.clients ++ [row.info] } := by
  have haddress := h.addressClient.map_lookupBy_append (g := Client.externalClientId)
    (fun a client => a.info client) [row]
  have horders := h.orderClient.map_lookupBy_append (g := Client.externalClientId)
    (fun o client => o.info client (addressKey db.address o.addressId)) [row]
  simp only [Database.shop, clientKey, haddress, horders, List.map_append, List.map_cons,
    List.map_nil]

lemma Shop.newClient_bind (ext : Json) (s : Shop) (k : Varchar 64 → Option β) :
    (Shop.newClient sql ext s >>= k) =
      (sql.text 64 "external_client_id" ext).toOption >>= fun ext =>
        if s.clients.any fun c => sql.same ext.text c.ext.text then none else k ext := by
  unfold Shop.newClient
  cases sql.text 64 "external_client_id" ext with
  | error e => rfl
  | ok ext =>
    simp only [Except.toOption, Option.bind_eq_bind, Option.bind_some]
    split_ifs <;> rfl

lemma agree_mergeClient (h : Consistent sql db) (p : ClientParams) :
    Agree (Ends fun rows db' s => ∃ id, rows.head? = some id ∧ ClientKnown id db' s)
      ((execute (.mergeClient p)).run sql.engine (fun i => .ok (tick i)) n db)
      (Shop.mergeClient sql p db.shop) := by
  refine @agree_execute sql db _ tick n (.mergeClient p)
    (fun rows db' s => ∃ id, rows.head? = some id ∧ ClientKnown id db' s) _ fun t => ?_
  refine Agree.select Client.info ?_ (.step fun name _ => .step fun email _ =>
    .step fun document _ => ?_)
  · exact fun _ => rfl
  cases hnamed : db.clients.filter fun c => holds (sql.matchesClient p.externalClientId c) with
  | nil =>
    simp only [List.map_nil, Shop.newClient_bind]
    refine .step fun ext _ => .ite ?_ (fun _ => .error _) fun _ => .ok ⟨_, rfl, ?_⟩
    · simp [Database.shop, Client.info]
    · constructor
      · exact lookupBy_append_self fun c hc => h.clientIds.key_ne (Nat.le_add_right _ _) hc
      · exact h.shop_insertClient _ _
  | cons c rest =>
    have hc : c ∈ db.clients := by
      have hmem : c ∈ db.clients.filter fun c =>
          holds (sql.matchesClient p.externalClientId c) := by simp [hnamed]
      exact (List.mem_filter.mp hmem).1
    have happly := h.applyAll_updateClient (fun c => holds (sql.matchesClient p.externalClientId c))
      name email document t.now
    rw [hnamed] at happly
    refine .ok ⟨c.clientId, rfl, ?_, ?_⟩
    · rw [happly]
      refine (lookupBy_map (fun c => ?_) fun c => ?_).trans (lookupBy_of_mem h.clientIds hc)
      · split_ifs <;> rfl
      · split_ifs <;> rfl
    · rw [happly]
      exact Database.shop_updateClients _ fun _ => rfl

lemma agree_upsertClient (h : Consistent sql db) (client : Json) :
    Agree (Ends ClientKnown)
      ((upsertClient client).run sql.engine (fun i => .ok (tick i)) n db)
      (Shop.upsertClient sql client db.shop) := by
  refine agree_eval_bind _ fun p _ => ?_
  refine Agree.run_then (agree_mergeClient h p) ?_
  rintro rows n' db' s - ⟨id, hid, hknown⟩
  obtain ⟨rest, rfl⟩ := List.head?_eq_some_iff.mp hid
  exact ⟨id, _, rfl, hknown⟩

/-! ### Addresses -/

/-- What is returned for an address: the key of the version an order is to refer to. -/
def AddressKnown (id : ℕ) (db : Database) (r : AddressKey × Shop) : Prop :=
  addressKey db.address id = some r.1 ∧ db.shop = r.2

/-- A version of an address that no order refers to yet. -/
lemma Consistent.shop_addAddress (h : Consistent sql db) (row : Address) :
    (db.addAddress row).shop = { db.shop with
      address := db.shop.address ++ [row.info (clientKey db.clients row.clientId)] } := by
  have horders := h.orderAddress.map_lookupBy_append
    (g := fun a : Address => (a.externalAddressId, a.content))
    (fun o address => o.info (clientKey db.clients o.clientId) address) [row]
  simp only [Database.shop, Database.addAddress, addressKey, horders, List.map_append,
    List.map_cons, List.map_nil]

/-- Two surrogate keys that lead to one external key are the same. -/
lemma Consistent.clientKey_inj (h : Consistent sql db) {id id' : ℕ} {ext : Varchar 64}
    (hid : clientKey db.clients id = some ext) (hid' : clientKey db.clients id' = some ext) :
    id = id' := by
  obtain ⟨c, hc, rfl, hext⟩ := lookupBy_eq_some hid
  obtain ⟨c', hc', rfl, hext'⟩ := lookupBy_eq_some hid'
  have hsame : sql.same c.externalClientId.text c'.externalClientId.text = true := by
    rw [hext, hext', sql.same_refl]
  rw [h.clients.eq_of_same hc hc' hsame]

/-- The addresses of a client, by its surrogate or by its external key. -/
lemma Consistent.clientId_iff (h : Consistent sql db) {id : ℕ} {ext : Varchar 64}
    (hid : clientKey db.clients id = some ext) {a : Address} :
    clientKey db.clients a.clientId = some ext ↔ a.clientId = id := by
  constructor
  · exact fun ha => h.clientKey_inj ha hid
  · rintro rfl
    exact hid

lemma agree_insertAddress (h : Consistent sql db) {clientId : ℕ} {client : Varchar 64}
    (hclient : clientKey db.clients clientId = some client) (ext : Json)
    (content : AddressField → Json) :
    Agree (Ends AddressKnown)
      ((execute (.insertAddress clientId ext content)).run sql.engine (fun i => .ok (tick i)) n db)
      (Shop.insertAddress sql client ext content db.shop) := by
  refine @agree_execute sql db _ tick n (.insertAddress clientId ext content) AddressKnown _
    fun t => ?_
  refine .step fun ext _ => .step fun content _ => ?_
  have hexists : (db.clients.any fun c => c.clientId = clientId) = true := by
    obtain ⟨c, hc, hid, -⟩ := lookupBy_eq_some hclient
    exact List.any_eq_true.mpr ⟨c, hc, by simpa using hid⟩
  simp only [hexists, Bool.not_true, Bool.false_eq_true, if_false]
  refine .ite ?_ (fun _ => .error _) fun _ => .ok ⟨?_, ?_⟩
  · simp [Database.shop, Address.info, List.any_map, Function.comp_def, h.clientId_iff hclient]
  · exact lookupBy_append_self fun a ha => h.addressIds.key_ne (Nat.le_add_right _ _) ha
  · have hshop := h.shop_addAddress (⟨db.next.address + t.skip, clientId, ext, content, t.now,
      none, true, t.now⟩ : Address)
    rw [hclient] at hshop
    exact hshop

lemma Consistent.shop_addressOf (h : Consistent sql db) {clientId : ℕ} {client : Varchar 64}
    (hclient : clientKey db.clients clientId = some client) :
    (db.shop.address.filter fun a => a.client = some client) =
      (db.address.filter fun a => a.clientId = clientId).map (·.info (some client)) := by
  simp only [Database.shop, List.filter_map, Function.comp_def, Address.info,
    h.clientId_iff hclient]
  refine List.map_congr_left fun a ha => ?_
  have hid := (List.mem_filter.mp ha).2
  rw [of_decide_eq_true hid, hclient]

lemma agree_selectAddress (h : Consistent sql db) {clientId : ℕ} {client : Varchar 64}
    (hclient : clientKey db.clients clientId = some client) (ext : Json) :
    Agree (Ends fun rows db' infos => db' = db ∧ rows = db.currentAddresses sql clientId ext ∧
        infos = rows.map (·.info (some client)))
      ((execute (.selectAddress clientId ext)).run sql.engine (fun i => .ok (tick i)) n db)
      (Shop.currentVersions sql client ext db.shop) := by
  refine @agree_execute sql db _ tick n (.selectAddress clientId ext)
    (fun rows db' infos => db' = db ∧ rows = db.currentAddresses sql clientId ext ∧
      infos = rows.map (·.info (some client))) _ fun t => ?_
  rw [h.shop_addressOf hclient]
  refine (agree_readOnly (R := fun rows infos => rows = db.currentAddresses sql clientId ext ∧
    infos = rows.map (·.info (some client))) ?_).mono fun _ _ _ _ hr => ⟨hr.2, hr.1⟩
  refine Agree.select (fun a : Address => a.info (some client)) ?_ (.ok ⟨rfl, ?_⟩)
  · exact fun _ => rfl
  · simp only [List.filter_map]
    rfl

/-- Expiring a current version, found by its identity or by what it says. -/
lemma Consistent.shop_expireAddress (h : Consistent sql db) {clientId : ℕ} {client : Varchar 64}
    (hclient : clientKey db.clients clientId = some client) {a : Address} (ha : a ∈ db.address)
    (hid : a.clientId = clientId) (hcurrent : a.isCurrent = true) (now : ℕ) :
    (db.expireAddress a.addressId now).shop = db.shop.expire (a.info (some client)) := by
  have hiff : ∀ b ∈ db.address, b.addressId = a.addressId ↔
      clientKey db.clients b.clientId = some client ∧ b.externalAddressId = a.externalAddressId ∧
        b.isCurrent = true := by
    intro b hb
    constructor
    · intro hab
      obtain rfl := h.addressIds.eq_of_key_eq hb ha hab
      exact ⟨(h.clientId_iff hclient).mpr hid, rfl, hcurrent⟩
    · rintro ⟨hb', hext, hbcurrent⟩
      have hbid := (h.clientId_iff hclient).mp hb'
      rw [h.current.eq_of_current hb ha hbcurrent hcurrent (hbid.trans hid.symm)
        (by rw [hext, sql.same_refl])]
  have hkey : ∀ id, addressKey (db.expireAddress a.addressId now).address id =
      addressKey db.address id := by
    intro id
    refine lookupBy_map (fun b => ?_) fun b => ?_
    · split_ifs <;> rfl
    · split_ifs <;> rfl
  have haddress : (db.expireAddress a.addressId now).shop.address =
      (db.shop.expire (a.info (some client))).address := by
    simp only [Database.shop, Database.expireAddress, updateById, Shop.expire, List.map_map]
    refine List.map_congr_left fun b hb => ?_
    by_cases hb' : clientKey db.clients b.clientId = some client ∧
        b.externalAddressId = a.externalAddressId ∧ b.isCurrent = true
    · simp [Address.info, hiff b hb, hb', Address.expire]
    · simp [Address.info, hiff b hb, hb']
  have hshop : (db.expireAddress a.addressId now).shop =
      { db.shop with address := (db.expireAddress a.addressId now).shop.address } := by
    simp only [Database.shop, hkey]
    rfl
  rw [hshop, haddress]
  rfl

lemma agree_upsertCurrentAddress (h : Consistent sql db) {clientId : ℕ} {client : Varchar 64}
    (hclient : clientKey db.clients clientId = some client) (address : Json) :
    Agree (Ends AddressKnown)
      ((upsertCurrentAddress clientId address).run sql.engine (fun i => .ok (tick i)) n db)
      (Shop.upsertAddress sql client address db.shop) := by
  refine agree_eval_bind _ fun ext _ => ?_
  refine Agree.run_bind (agree_selectAddress h hclient ext) ?_
  rintro rows n' db infos - ⟨rfl, hrows, rfl⟩
  cases rows with
  | nil => exact agree_insertAddress h hclient ext _
  | cons current rest =>
    have hmem : current ∈ db.currentAddresses sql clientId ext := by simp [← hrows]
    simp only [Database.currentAddresses, List.mem_filter] at hmem
    obtain ⟨⟨⟨ha, hid⟩, -⟩, hcurrent⟩ := hmem
    simp only [List.head?_cons, List.map_cons]
    have hcontent : Shop.sameContent (current.info (some client)).content (addressContent address) =
        unchanged current (addressContent address) := rfl
    rw [hcontent]
    by_cases hsame : unchanged current (addressContent address) = true
    · rw [if_pos hsame, if_pos hsame]
      exact .ok ⟨lookupBy_of_mem h.addressIds ha, rfl⟩
    · rw [if_neg hsame, if_neg hsame]
      have hinsert := @agree_insertAddress sql _ tick (n' + 1)
        (h.expireAddress current.addressId (tick n').now) _ _ hclient ext (addressContent address)
      rw [h.shop_expireAddress hclient ha (of_decide_eq_true hid) hcurrent] at hinsert
      exact hinsert

/-! ### Orders -/

def OrderKnown (id : ℕ) (db : Database) (r : Varchar 64 × Shop) : Prop :=
  orderKey db.orders id = some r.1 ∧ db.shop = r.2

lemma agree_orderDate (date : Option Json) :
    Agree (fun stamp date => stamp.info = date) (sql.orderDate t date) (Shop.orderDate sql date) := by
  cases date with
  | none => exact .ok rfl
  | some date =>
    simp only [SqlServer.orderDate, Shop.orderDate]
    cases sql.datetime "order_date" date with
    | ok v => exact .ok rfl
    | error e => exact .error e

/-- An order that no row refers to yet. -/
lemma Consistent.shop_addOrder (h : Consistent sql db) (row : Order) :
    (db.addOrder row).shop = { db.shop with
      orders := db.shop.orders ++
        [row.info (clientKey db.clients row.clientId) (addressKey db.address row.addressId)] } := by
  have hitems := h.itemOrder.map_lookupBy_append (g := Order.externalOrderId)
    (fun i order => i.info order) [row]
  have hhistory := h.historyOrder.map_lookupBy_append (g := Order.externalOrderId)
    (fun r order => r.info order) [row]
  have hpayments := h.paymentOrder.map_lookupBy_append (g := Order.externalOrderId)
    (fun p order => p.info order) [row]
  have hinvoices := h.invoiceOrder.map_lookupBy_append (g := Order.externalOrderId)
    (fun i order => i.info order) [row]
  simp only [Database.shop, Database.addOrder, orderKey, hitems, hhistory, hpayments, hinvoices,
    List.map_append, List.map_cons, List.map_nil]

lemma agree_insertOrder (h : Consistent sql db) {clientId addressId : ℕ} {client : Varchar 64}
    {address : AddressKey} (hclient : clientKey db.clients clientId = some client)
    (haddress : addressKey db.address addressId = some address) (order : Json) :
    Agree (Ends OrderKnown)
      ((insertOrder clientId addressId order).run sql.engine (fun i => .ok (tick i)) n db)
      (Shop.insertOrder sql client address order db.shop) := by
  refine agree_eval_bind _ fun p _ => ?_
  refine @agree_execute sql db _ tick n (.insertOrder clientId addressId p) OrderKnown _ fun t => ?_
  refine .step fun ext _ => .step fun total _ => .step fun currency _ =>
    (agree_orderDate p.orderDate).bind ?_
  rintro stamp date - - rfl
  have hclients : (db.clients.any fun c => c.clientId = clientId) = true := by
    obtain ⟨c, hc, hid, -⟩ := lookupBy_eq_some hclient
    exact List.any_eq_true.mpr ⟨c, hc, by simpa using hid⟩
  have haddresses : (db.address.any fun a => a.addressId = addressId) = true := by
    obtain ⟨a, ha, hid, -⟩ := lookupBy_eq_some haddress
    exact List.any_eq_true.mpr ⟨a, ha, by simpa using hid⟩
  simp only [hclients, haddresses, Bool.not_true, Bool.false_eq_true, if_false]
  refine .ite ?_ (fun _ => .error _) fun _ => .ok ⟨?_, ?_⟩
  · simp [Database.shop, Order.info]
  · exact lookupBy_append_self fun o ho => h.orderIds.key_ne (Nat.le_add_right _ _) ho
  · have hshop := h.shop_addOrder (⟨db.next.order + t.skip, ext, clientId, addressId,
      SqlServer.pending, total, currency, stamp, none, t.now, t.now⟩ : Order)
    rw [hclient, haddress] at hshop
    exact hshop

/-! ### Items and history -/

/-- The items leave it to the consumer which order they belong to. -/
def PlainItems (items : Json) : Prop :=
  ∀ mappings, itemMappings items = .ok mappings →
    ∀ item ∈ mappings, item.lookup "order_id" = none

lemma itemRow_info {orderId : ℕ} {order : Varchar 64} (horder : orderKey db.orders orderId = some order)
    {item : Item} (hitem : item.lookup "order_id" = none) :
    (sql.itemRow db orderId item).map (fun row => row.info (orderKey db.orders row.orderId)) =
      Shop.itemInfo sql order item := by
  simp only [SqlServer.itemRow, SqlServer.itemOrder, hitem, Shop.itemInfo, map_bind_except]
  rw [← horder]
  rfl

lemma Database.shop_addItems (rows : List OrderItem) (next : Identity) :
    ({ db with orderItems := db.orderItems ++ rows, next := next } : Database).shop =
      { db.shop with
        items := db.shop.items ++ rows.map fun i => i.info (orderKey db.orders i.orderId) } := by
  simp only [Database.shop, List.map_append]

lemma agree_insertOrderItems {orderId : ℕ} {order : Varchar 64}
    (horder : orderKey db.orders orderId = some order) {items : Json} (hplain : PlainItems items) :
    Agree (Ends fun _ db' s => db'.shop = s ∧ orderKey db'.orders orderId = some order)
      ((insertOrderItems orderId items).run sql.engine (fun i => .ok (tick i)) n db)
      (Shop.insertItems sql order items db.shop) := by
  unfold insertOrderItems Shop.insertItems
  by_cases htruthy : items.truthy = true
  · rw [if_pos htruthy, if_pos htruthy]
    refine agree_eval_bind _ fun mappings hmappings => ?_
    refine @agree_execute sql db _ tick n (.insertItems orderId mappings)
      (fun _ db' s => db'.shop = s ∧ orderKey db'.orders orderId = some order) _ fun t =>
        agree_silent (R := fun db' s => db'.shop = s ∧ orderKey db'.orders orderId = some order) ?_
    have hcollect : collect (Shop.itemInfo sql order) mappings =
        (collect (sql.itemRow db orderId) mappings).map
          (List.map fun i => i.info (orderKey db.orders i.orderId)) := by
      rw [collect_map]
      exact (collect_congr fun item hitem =>
        itemRow_info horder (hplain mappings hmappings item hitem)).symm
    rw [hcollect]
    unfold SqlServer.insertItems
    cases collect (sql.itemRow db orderId) mappings with
    | error e => exact .error e
    | ok rows =>
      obtain ⟨next, hnext⟩ := applyAll_insertItem sql (rows.zipIdx.map fun row =>
        { row.1 with orderItemId := db.next.item + t.skip + row.2 }) db
      rw [List.map_map] at hnext
      refine .ok ?_
      have hdb : sql.engine.applyAll db (rows.zipIdx.map fun row => .insertItem
          { row.1 with orderItemId := db.next.item + t.skip + row.2 }) = _ := hnext
      simp only
      rw [hdb]
      refine ⟨?_, horder⟩
      rw [Database.shop_addItems, List.map_map]
      have hinfo : (rows.zipIdx.map fun row => row.1.info (orderKey db.orders row.1.orderId)) =
          rows.map fun i => i.info (orderKey db.orders i.orderId) := by
        conv_rhs => rw [← List.zipIdx_map_fst 0 rows, List.map_map]
        rfl
      rw [← hinfo]
      rfl
  · rw [if_neg htruthy, if_neg htruthy]
    exact .ok ⟨rfl, horder⟩

lemma Database.shop_addHistory (row : StatusHistory) :
    (db.addHistory row).shop = { db.shop with
      history := db.shop.history ++ [row.info (orderKey db.orders row.orderId)] } := by
  simp only [Database.shop, Database.addHistory, List.map_append, List.map_cons, List.map_nil]

lemma any_orderId {orderId : ℕ} {order : Varchar 64}
    (horder : orderKey db.orders orderId = some order) :
    (db.orders.any fun o => o.orderId = orderId) = true := by
  obtain ⟨o, ho, hid, -⟩ := lookupBy_eq_some horder
  exact List.any_eq_true.mpr ⟨o, ho, by simpa using hid⟩

lemma agree_recordStatusHistory {orderId : ℕ} {order : Varchar 64}
    (horder : orderKey db.orders orderId = some order) (previous : Option (Varchar 20))
    (newStatus source : Json) :
    Agree (Ends fun _ db' s => db'.shop = s)
      ((recordStatusHistory orderId previous newStatus source).run sql.engine
        (fun i => .ok (tick i)) n db)
      (Shop.recordHistory sql order previous newStatus source db.shop) := by
  refine @agree_execute sql db _ tick n (.insertHistory orderId previous newStatus source)
    (fun _ db' s => db'.shop = s) _ fun t => agree_silent (R := fun db' s => db'.shop = s) ?_
  refine .step fun new _ => .step fun src _ => ?_
  simp only [any_orderId horder, Bool.not_true, Bool.false_eq_true, if_false]
  refine .ok ?_
  have hshop := db.shop_addHistory ⟨db.next.history + t.skip, orderId, previous, new, t.now,
    SqlServer.changedBy, src⟩
  rw [horder] at hshop
  exact hshop

/-! ### Status changes -/

/-- The order an UPDATE reports, by its surrogate and by its external key. -/
def OrderUpdated (o : Option (ℕ × Varchar 20)) (db : Database)
    (r : Option (Varchar 64 × Varchar 20) × Shop) : Prop :=
  o.map (fun o => (orderKey db.orders o.1, o.2)) = r.1.map (fun o => (some o.1, o.2)) ∧
    db.shop = r.2

lemma Consistent.applyAll_updateOrder (h : Consistent sql db) (p : Order → Bool)
    (status : Varchar 20) (closing : Bool) (now : ℕ) :
    sql.engine.applyAll db ((db.orders.filter p).map fun o =>
        .updateOrder o.orderId status closing now) =
      { db with
        orders := db.orders.map fun o => if p o then o.setStatus status closing now else o } := by
  have happly := EventPipeline.applyAll_updateOrder sql ((db.orders.filter p).map (·.orderId))
    status closing now db
  rw [List.map_map] at happly
  refine happly.trans ?_
  rw [updateByIds_filter _ _ _ fun _ ha _ hb hab =>
    congrArg p (h.orderIds.eq_of_key_eq ha hb hab)]

lemma orderKey_setStatus (p : Order → Bool) (status : Varchar 20) (closing : Bool) (now id : ℕ)
    (orders : List Order) :
    orderKey (orders.map fun o => if p o then o.setStatus status closing now else o) id =
      orderKey orders id := by
  refine lookupBy_map (fun o => ?_) fun o => ?_
  · split_ifs <;> rfl
  · split_ifs <;> rfl

/-- Updates that keep the external ids leave every reference to an order as it is. -/
lemma Database.shop_setStatus (p : Order → Bool) {status : Varchar 20} {closing : Bool} {now : ℕ}
    {q : OrderInfo → Bool} (hpq : ∀ o client address, p o = q (o.info client address)) :
    ({ db with
      orders := db.orders.map fun o => if p o then o.setStatus status closing now else o } :
        Database).shop =
      { db.shop with
        orders := db.shop.orders.map fun o =>
          if q o then { o with status, closed := closing || o.closed } else o } := by
  have horders : ((db.orders.map fun o => if p o then o.setStatus status closing now else o).map
      fun o => o.info (clientKey db.clients o.clientId) (addressKey db.address o.addressId)) =
      (db.orders.map fun o =>
        o.info (clientKey db.clients o.clientId) (addressKey db.address o.addressId)).map fun o =>
          if q o then { o with status, closed := closing || o.closed } else o := by
    refine map_update _ p q _ _ (fun o => hpq o _ _) (fun o => ?_) db.orders
    cases closing <;> rfl
  simp only [Database.shop, orderKey_setStatus, horders]

lemma agree_updateOrderStatus (h : Consistent sql db) (ext newStatus : Json) :
    Agree (Ends OrderUpdated)
      ((updateOrderStatus ext newStatus).run sql.engine (fun i => .ok (tick i)) n db)
      (Shop.updateOrder sql ext newStatus db.shop) := by
  have hexec : Agree (Ends fun rows db' r => OrderUpdated rows.head? db' r)
      ((execute (.updateOrder newStatus ext)).run sql.engine (fun i => .ok (tick i)) n db)
      (Shop.updateOrder sql ext newStatus db.shop) := by
    refine @agree_execute sql db _ tick n (.updateOrder newStatus ext)
      (fun rows db' r => OrderUpdated rows.head? db' r) _ fun t => ?_
    refine Agree.select (fun o : Order => o.info (clientKey db.clients o.clientId)
      (addressKey db.address o.addressId)) ?_ ?_
    · exact fun _ => rfl
    cases hnamed : db.orders.filter fun o => holds (sql.matchesOrder ext o) with
    | nil => exact .ok ⟨rfl, rfl⟩
    | cons o rest =>
      have ho : o ∈ db.orders := by
        have hmem : o ∈ db.orders.filter fun o => holds (sql.matchesOrder ext o) := by
          simp [hnamed]
        exact (List.mem_filter.mp hmem).1
      simp only [List.isEmpty_cons, Bool.false_eq_true, if_false, List.map_cons]
      refine .step fun closing _ => .step fun status _ => .ite ?_ (fun _ => .error _) fun _ => ?_
      · simp [Shop.isTerminal, SqlServer.isTerminal, Order.info]
      · have happly := h.applyAll_updateOrder (fun o => holds (sql.matchesOrder ext o)) status
          closing t.now
        rw [hnamed] at happly
        refine .ok ⟨?_, ?_⟩
        · simp only [List.map_cons, List.head?_cons, Option.map_some] at happly ⊢
          rw [happly, orderKey_setStatus]
          exact congrArg (fun key => some (key, o.status)) (lookupBy_of_mem h.orderIds ho)
        · simp only [List.map_cons] at happly
          rw [happly]
          exact Database.shop_setStatus _ fun _ _ _ => rfl
  refine Agree.run_then hexec ?_
  rintro rows n' db' r - hr
  exact ⟨rows.head?, _, rfl, hr⟩

/-- The order a SELECT finds, by its surrogate and by its external key. -/
def OrderResolved (db : Database) (o : Option ℕ) (db' : Database) (key : Option (Varchar 64)) :
    Prop :=
  o.map (orderKey db.orders) = key.map some ∧ db' = db

lemma agree_resolveOrderId (h : Consistent sql db) (ext : Json) :
    Agree (Ends (OrderResolved db))
      ((resolveOrderId ext).run sql.engine (fun i => .ok (tick i)) n db)
      (Shop.resolveOrder sql ext db.shop) := by
  have hexec : Agree (Ends fun rows db' key => OrderResolved db rows.head? db' key)
      ((execute (.selectOrder ext)).run sql.engine (fun i => .ok (tick i)) n db)
      (Shop.resolveOrder sql ext db.shop) := by
    refine @agree_execute sql db _ tick n (.selectOrder ext)
      (fun rows db' key => OrderResolved db rows.head? db' key) _ fun t => ?_
    refine agree_readOnly (R := fun (rows : List ℕ) (key : Option (Varchar 64)) =>
      rows.head?.map (orderKey db.orders) = key.map some) ?_
    refine Agree.select (fun o : Order => o.info (clientKey db.clients o.clientId)
      (addressKey db.address o.addressId)) ?_ (.ok ?_)
    · exact fun _ => rfl
    cases hnamed : db.orders.filter fun o => holds (sql.matchesOrder ext o) with
    | nil => rfl
    | cons o rest =>
      have hmem : o ∈ db.orders.filter fun o => holds (sql.matchesOrder ext o) := by
        simp [hnamed]
      have hkey : orderKey db.orders o.orderId = some o.externalOrderId :=
        lookupBy_of_mem h.orderIds (List.mem_filter.mp hmem).1
      simp [hkey, Order.info]
  refine Agree.run_then hexec ?_
  rintro rows n' db' key - hr
  exact ⟨rows.head?, _, rfl, hr⟩

/-- The snapshot of a stored order is always found. -/
lemma Consistent.run_fetchOrderSnapshot (h : Consistent sql db) (tick : ℕ → Tick) (n : ℕ)
    {orderId : ℕ} {order : Varchar 64} (horder : orderKey db.orders orderId = some order) :
    ∃ snapshot, (fetchOrderSnapshot orderId).run sql.engine (fun i => .ok (tick i)) n db =
      .ok (snapshot, n + 2, db) := by
  obtain ⟨o, ho, hid, -⟩ := lookupBy_eq_some horder
  obtain ⟨c, hc, hclient⟩ := h.orderClient o ho
  obtain ⟨a, ha, haddress⟩ := h.orderAddress o ho
  have hrow : SqlServer.snapshotOrder o c a ∈ SqlServer.selectSnapshot db orderId := by
    simp only [SqlServer.selectSnapshot, List.mem_flatMap, List.mem_map, List.mem_filter]
    exact ⟨o, ⟨ho, by simpa using hid⟩, c, ⟨hc, by simpa using hclient⟩, a,
      ⟨ha, by simpa using haddress⟩, rfl⟩
  obtain ⟨row, rest, hrows⟩ := List.exists_cons_of_ne_nil (List.ne_nil_of_mem hrow)
  refine ⟨⟨row, SqlServer.selectItems db orderId⟩, ?_⟩
  have horders : (execute (.selectSnapshot orderId)).run sql.engine (fun i => .ok (tick i)) n db =
      .ok (SqlServer.selectSnapshot db orderId, n + 1, db) := rfl
  have hitems : (execute (.selectItems orderId)).run sql.engine (fun i => .ok (tick i)) (n + 1)
      db = .ok (SqlServer.selectItems db orderId, n + 2, db) := rfl
  unfold fetchOrderSnapshot
  simp only [Program.run_bind, horders, hitems, hrows]
  rfl

/-! ### Payments and invoices -/

lemma Database.shop_addPayment (row : Payment) (next : Identity) :
    ({ db with payments := db.payments ++ [row], next := next } : Database).shop =
      { db.shop with
        payments := db.shop.payments ++ [row.info (orderKey db.orders row.orderId)] } := by
  simp only [Database.shop, List.map_append, List.map_cons, List.map_nil]

lemma Consistent.applyAll_updatePayment (h : Consistent sql db) (p : Payment → Bool)
    (status : Varchar 20) (amount : Int) (paidAt : Option Int) (now : ℕ) :
    sql.engine.applyAll db ((db.payments.filter p).map fun q =>
        .updatePayment q.paymentId status amount paidAt now) =
      { db with
        payments := db.payments.map fun q =>
          if p q then q.update status amount paidAt now else q } := by
  have happly := EventPipeline.applyAll_updatePayment sql
    ((db.payments.filter p).map (·.paymentId)) status amount paidAt now db
  rw [List.map_map] at happly
  refine happly.trans ?_
  rw [updateByIds_filter _ _ _ fun _ ha _ hb hab =>
    congrArg p (h.paymentIds.eq_of_key_eq ha hb hab)]

lemma Database.shop_updatePayments (p : Payment → Bool) {status : Varchar 20} {amount : Int}
    {paidAt : Option Int} {now : ℕ} {f : PaymentInfo → Bool}
    (hpf : ∀ q order, p q = f (q.info order)) :
    ({ db with
      payments := db.payments.map fun q => if p q then q.update status amount paidAt now else q } :
        Database).shop =
      { db.shop with
        payments := db.shop.payments.map fun q =>
          if f q then { q with status, amount, paidAt } else q } := by
  have hpayments := map_update (fun q : Payment => q.info (orderKey db.orders q.orderId)) p f
    (·.update status amount paidAt now) (fun q => { q with status, amount, paidAt })
    (fun q => hpf q _) (fun _ => rfl) db.payments
  simp only [Database.shop, hpayments]

lemma Shop.newPayment_bind (p : PaymentParams) (s : Shop)
    (k : Varchar 64 × Varchar 30 → Option β) :
    (Shop.newPayment sql p s >>= k) =
      (sql.text 64 "external_payment_id" p.externalPaymentId).toOption >>= fun ext =>
        (sql.text 30 "method" p.method).toOption >>= fun method =>
          if s.payments.any fun q => sql.same ext.text q.ext.text then none
          else k (ext, method) := by
  unfold Shop.newPayment
  cases sql.text 64 "external_payment_id" p.externalPaymentId with
  | error e => rfl
  | ok ext =>
    cases sql.text 30 "method" p.method with
    | error e => rfl
    | ok method =>
      simp only [Except.toOption, Option.bind_eq_bind, Option.bind_some]
      split_ifs <;> rfl

lemma agree_upsertPayment (h : Consistent sql db) {orderId : ℕ} {order : Varchar 64}
    (horder : orderKey db.orders orderId = some order) (payment : Json) :
    Agree (Ends fun _ db' s => db'.shop = s)
      ((upsertPayment orderId payment).run sql.engine (fun i => .ok (tick i)) n db)
      (Shop.upsertPayment sql order payment db.shop) := by
  refine agree_eval_bind _ fun p _ => ?_
  refine @agree_execute sql db _ tick n (.mergePayment orderId p) (fun _ db' s => db'.shop = s) _
    fun t => agree_silent (R := fun db' s => db'.shop = s) ?_
  refine Agree.select (fun q : Payment => q.info (orderKey db.orders q.orderId)) ?_
    (.step fun status _ => .step fun amount _ => .step fun paidAt _ => ?_)
  · exact fun _ => rfl
  simp only [Shop.newPayment_bind]
  refine .ite (by simp) (fun _ => .step fun ext _ => .step fun method _ => ?_) fun _ => .ok ?_
  · simp only [any_orderId horder, Bool.not_true, Bool.false_eq_true, if_false]
    refine .ite (by simp [Database.shop, Payment.info]) (fun _ => .error _) fun _ => .ok ?_
    have hshop := db.shop_addPayment ⟨db.next.payment + t.skip, ext, orderId, method, status,
      amount, paidAt, t.now, t.now⟩ { db.next with payment := db.next.payment + t.skip + 1 }
    rw [horder] at hshop
    exact hshop
  · rw [h.applyAll_updatePayment (fun q => holds (sql.matchesPayment p.externalPaymentId q))]
    exact Database.shop_updatePayments _ fun _ _ => rfl

lemma Database.shop_addInvoice (row : Invoice) (next : Identity) :
    ({ db with invoices := db.invoices ++ [row], next := next } : Database).shop =
      { db.shop with
        invoices := db.shop.invoices ++ [row.info (orderKey db.orders row.orderId)] } := by
  simp only [Database.shop, List.map_append, List.map_cons, List.map_nil]

lemma Consistent.applyAll_updateInvoice (h : Consistent sql db) (p : Invoice → Bool)
    (status : Varchar 20) (amount : Int) (pdfUrl : Option (Varchar 500)) :
    sql.engine.applyAll db ((db.invoices.filter p).map fun i =>
        .updateInvoice i.invoiceId status amount pdfUrl) =
      { db with
        invoices := db.invoices.map fun i => if p i then i.update status amount pdfUrl else i } := by
  have happly := EventPipeline.applyAll_updateInvoice sql
    ((db.invoices.filter p).map (·.invoiceId)) status amount pdfUrl db
  rw [List.map_map] at happly
  refine happly.trans ?_
  rw [updateByIds_filter _ _ _ fun _ ha _ hb hab =>
    congrArg p (h.invoiceIds.eq_of_key_eq ha hb hab)]

lemma Database.shop_updateInvoices (p : Invoice → Bool) {status : Varchar 20} {amount : Int}
    {pdfUrl : Option (Varchar 500)} {f : InvoiceInfo → Bool}
    (hpf : ∀ i order, p i = f (i.info order)) :
    ({ db with
      invoices := db.invoices.map fun i => if p i then i.update status amount pdfUrl else i } :
        Database).shop =
      { db.shop with
        invoices := db.shop.invoices.map fun i =>
          if f i then { i with status, amount, pdfUrl } else i } := by
  have hinvoices := map_update (fun i : Invoice => i.info (orderKey db.orders i.orderId)) p f
    (·.update status amount pdfUrl) (fun i => { i with status, amount, pdfUrl })
    (fun i => hpf i _) (fun _ => rfl) db.invoices
  simp only [Database.shop, hinvoices]

lemma Shop.newInvoice_bind (p : InvoiceParams) (s : Shop)
    (k : Varchar 64 × Varchar 50 × Int → Option β) :
    (Shop.newInvoice sql p s >>= k) =
      (sql.text 64 "external_invoice_id" p.externalInvoiceId).toOption >>= fun ext =>
        (sql.text 50 "invoice_number" p.invoiceNumber).toOption >>= fun number =>
          (sql.datetime "issued_at" p.issuedAt).toOption >>= fun issued =>
            if s.invoices.any fun i => sql.same ext.text i.ext.text then none
            else k (ext, number, issued) := by
  unfold Shop.newInvoice
  cases sql.text 64 "external_invoice_id" p.externalInvoiceId with
  | error e => rfl
  | ok ext =>
    cases sql.text 50 "invoice_number" p.invoiceNumber with
    | error e => rfl
    | ok number =>
      cases sql.datetime "issued_at" p.issuedAt with
      | error e => rfl
      | ok issued =>
        simp only [Except.toOption, Option.bind_eq_bind, Option.bind_some]
        split_ifs <;> rfl

lemma agree_upsertInvoice (h : Consistent sql db) {orderId : ℕ} {order : Varchar 64}
    (horder : orderKey db.orders orderId = some order) (invoice : Json) :
    Agree (Ends fun _ db' s => db'.shop = s)
      ((upsertInvoice orderId invoice).run sql.engine (fun i => .ok (tick i)) n db)
      (Shop.upsertInvoice sql order invoice db.shop) := by
  refine agree_eval_bind _ fun p _ => ?_
  refine @agree_execute sql db _ tick n (.mergeInvoice orderId p) (fun _ db' s => db'.shop = s) _
    fun t => agree_silent (R := fun db' s => db'.shop = s) ?_
  refine Agree.select (fun i : Invoice => i.info (orderKey db.orders i.orderId)) ?_
    (.step fun status _ => .step fun amount _ => .step fun pdfUrl _ => ?_)
  · exact fun _ => rfl
  simp only [Shop.newInvoice_bind]
  refine .ite (by simp) (fun _ => .step fun ext _ => .step fun number _ => .step fun issued _ => ?_)
    fun _ => .ok ?_
  · simp only [any_orderId horder, Bool.not_true, Bool.false_eq_true, if_false]
    refine .ite (by simp [Database.shop, Invoice.info]) (fun _ => .error _) fun _ => .ok ?_
    have hshop := db.shop_addInvoice ⟨db.next.invoice + t.skip, ext, orderId, number, issued,
      amount, status, pdfUrl, t.now⟩ { db.next with invoice := db.next.invoice + t.skip + 1 }
    rw [horder] at hshop
    exact hshop
  · rw [h.applyAll_updateInvoice (fun i => holds (sql.matchesInvoice p.externalInvoiceId i))]
    exact Database.shop_updateInvoices _ fun _ _ => rfl

/-! ### Events -/

lemma agree_orderCreated (h : Consistent sql db) (eventId : Json) {data : Json}
    (hplain : ∀ items, data.get "items" (.arr []) = .ok items → PlainItems items) :
    Agree (Ends fun _ db' s => db'.shop = s)
      ((orderCreated eventId data).run sql.engine (fun i => .ok (tick i)) n db)
      (Shop.orderCreated sql eventId data db.shop) := by
  refine agree_eval_bind _ fun client _ => ?_
  refine Agree.run_bind (agree_upsertClient h client) ?_
  rintro clientId n₁ db₁ ⟨clientKey, s₁⟩ hrun₁ ⟨hclient, rfl⟩
  obtain ⟨p, -, hupserted⟩ := runs_upsertClient (.of_run hrun₁)
  have h₁ := h.upsertClient hupserted
  refine agree_eval_bind _ fun address _ => ?_
  refine Agree.run_bind (agree_upsertCurrentAddress h₁ hclient address) ?_
  rintro addressId n₂ db₂ ⟨addressKey, s₂⟩ hrun₂ ⟨haddress, rfl⟩
  obtain ⟨ext, -, hupserted₂⟩ := runs_upsertCurrentAddress (.of_run hrun₂)
  have h₂ := h₁.upsertAddress hupserted₂
  have hclients : db₂.clients = db₁.clients := congrArg (·.clients) hupserted₂.frame
  refine Agree.run_bind (agree_insertOrder h₂ (hclients ▸ hclient) haddress data) ?_
  rintro orderId n₃ db₃ ⟨orderKey, s₃⟩ - ⟨horder, rfl⟩
  refine agree_eval_bind _ fun items hitems => ?_
  refine Agree.run_bind (agree_insertOrderItems horder (hplain items hitems)) ?_
  rintro _ n₄ db₄ s₄ - ⟨rfl, horder₄⟩
  refine Agree.run_then (agree_recordStatusHistory horder₄ none (.str "PENDING") eventId) ?_
  rintro _ n₅ db₅ s₅ - hs
  exact ⟨none, _, rfl, hs⟩

lemma agree_orderStatusChanged (h : Consistent sql db) (eventId data : Json) :
    Agree (Ends fun _ db' s => db'.shop = s)
      ((orderStatusChanged eventId data).run sql.engine (fun i => .ok (tick i)) n db)
      (Shop.orderStatusChanged sql eventId data db.shop) := by
  refine agree_eval_bind _ fun ext _ => agree_eval_bind _ fun newStatus _ => ?_
  refine Agree.run_bind (agree_updateOrderStatus h ext newStatus) ?_
  rintro o n₁ db₁ ⟨o', s₁⟩ hrun ⟨ho, rfl⟩
  cases o with
  | none =>
    obtain rfl : o' = none := by simpa using ho
    exact .ok rfl
  | some o =>
    obtain ⟨orderId, previous⟩ := o
    obtain ⟨order, horder, rfl⟩ : ∃ order, orderKey db₁.orders orderId = some order ∧
        o' = some (order, previous) := by
      cases o' with
      | none => simp at ho
      | some r =>
        simp only [Option.map_some, Option.some.injEq, Prod.mk.injEq] at ho
        obtain ⟨horder, rfl⟩ := ho
        exact ⟨r.1, horder, rfl⟩
    have h₁ : Consistent sql db₁ := by
      rcases runs_updateOrderStatus (.of_run hrun) with ⟨-, -, rfl⟩ | ⟨_, _, _, _, -, -, -, rfl⟩
      · exact h
      · exact h.setStatus _ _ _ _
    refine Agree.run_then (agree_recordStatusHistory horder (some previous) newStatus eventId) ?_
    rintro u n₂ db₂ s₂ hrecord hs
    obtain ⟨row, hrow, rfl⟩ := runs_recordStatusHistory (.of_run hrecord)
    split_ifs with happroved
    · obtain ⟨snapshot, hsnapshot⟩ := (h₁.addHistory hrow).run_fetchOrderSnapshot tick n₂ horder
      refine ⟨some ⟨"ORDER_APPROVED", snapshot⟩, n₂ + 2, ?_, hs⟩
      rw [Program.run_bind, hsnapshot]
      rfl
    · exact ⟨none, n₂, rfl, hs⟩

lemma agree_paymentConfirmed (h : Consistent sql db) (data : Json) :
    Agree (Ends fun _ db' s => db'.shop = s)
      ((paymentConfirmed data).run sql.engine (fun i => .ok (tick i)) n db)
      (Shop.paymentConfirmed sql data db.shop) := by
  refine agree_eval_bind _ fun ext _ => ?_
  refine Agree.run_bind (agree_resolveOrderId h ext) ?_
  rintro o n₁ db key - ⟨ho, rfl⟩
  cases o with
  | none =>
    obtain rfl : key = none := by simpa using ho.symm
    exact .ok rfl
  | some orderId =>
    obtain ⟨order, rfl, horder⟩ : ∃ order, key = some order ∧
        orderKey db.orders orderId = some order := by
      cases key with
      | none => simp at ho
      | some order => exact ⟨order, rfl, by simpa using ho⟩
    refine Agree.run_then (agree_upsertPayment h horder data) ?_
    rintro _ n' db' s - hs
    exact ⟨none, _, rfl, hs⟩

lemma agree_invoiceIssued (h : Consistent sql db) (data : Json) :
    Agree (Ends fun _ db' s => db'.shop = s)
      ((invoiceIssued data).run sql.engine (fun i => .ok (tick i)) n db)
      (Shop.invoiceIssued sql data db.shop) := by
  refine agree_eval_bind _ fun ext _ => ?_
  refine Agree.run_bind (agree_resolveOrderId h ext) ?_
  rintro o n₁ db key - ⟨ho, rfl⟩
  cases o with
  | none =>
    obtain rfl : key = none := by simpa using ho.symm
    exact .ok rfl
  | some orderId =>
    obtain ⟨order, rfl, horder⟩ : ∃ order, key = some order ∧
        orderKey db.orders orderId = some order := by
      cases key with
      | none => simp at ho
      | some order => exact ⟨order, rfl, by simpa using ho⟩
    refine Agree.run_then (agree_upsertInvoice h horder data) ?_
    rintro _ n' db' s - hs
    exact ⟨none, _, rfl, hs⟩

/-- The items of the order an event creates leave it to the consumer which order they belong
to. -/
def PlainEvent (event : Json) : Prop :=
  event.getItem "event_type" = .ok (.str "ORDER_CREATED") → ∀ data items,
    event.getItem "data" = .ok data → data.get "items" (.arr []) = .ok items → PlainItems items

lemma agree_applyEvent (h : Consistent sql db) (eventId eventType : Json) {data : Json}
    (hplain : eventType = .str "ORDER_CREATED" →
      ∀ items, data.get "items" (.arr []) = .ok items → PlainItems items) :
    Agree (Ends fun _ db' s => db'.shop = s)
      ((applyEvent eventId eventType data).run sql.engine (fun i => .ok (tick i)) n db)
      (Shop.effect sql eventId eventType data db.shop) := by
  unfold applyEvent Shop.effect
  split_ifs with hcreated
  · exact agree_orderCreated h eventId (hplain (Json.isText_iff.mp hcreated))
  · exact agree_orderStatusChanged h eventId data
  · exact agree_paymentConfirmed h data
  · exact agree_invoiceIssued h data
  · exact .ok rfl

lemma agree_processEvent (h : Consistent sql db) {event : Json} (hplain : PlainEvent event) :
    Agree (Ends fun _ db' s => db'.shop = s)
      ((processEvent event).run sql.engine (fun i => .ok (tick i)) n db)
      (Shop.process sql event db.shop) := by
  refine agree_eval_bind _ fun id _ => agree_eval_bind _ fun eventType htype =>
    agree_eval_bind _ fun data hdata => ?_
  refine Agree.run_bind (agree_claimEvent id eventType) ?_
  rintro _ n₁ db₁ s hrun rfl
  obtain ⟨row, -, rfl⟩ := runs_claimEvent (.of_run hrun)
  refine agree_applyEvent (h.ledger _) id eventType ?_
  rintro rfl items
  exact hplain htype data items hdata

/-- Where the environment disturbs nothing, the transaction of an event commits exactly when
the event is accepted, and leaves what the event says. -/
theorem agree_eventTxn (h : Consistent sql db) {event : Json} (eventId : Json)
    (hplain : PlainEvent event) :
    Agree (Ends fun _ db' s => db'.shop = s)
      ((eventTxn event eventId).run sql.engine (fun i => .ok (tick i)) n db)
      (Shop.event sql event eventId db.shop) := by
  refine Agree.run_bind (agree_processEvent h hplain) ?_
  rintro outbox n₁ db₁ s - rfl
  refine Agree.run_then (agree_markEventProcessed eventId) ?_
  rintro _ n₂ db₂ s - hs
  exact ⟨outbox, _, rfl, hs⟩

end Statements

end EventPipeline

import EventPipeline.Library.Collect
import EventPipeline.Library.Program
import EventPipeline.Schema

/-!
# The SQL statements

Every statement `db_ops` sends, with the parameters it binds, what the server answers and
which rows it writes. A parameter is bound before the statement is executed, so a list or a
dict is refused even where the statement would not use it; a value is converted, and checked
against NOT NULL and the constraints, only in the branch that stores it.
-/

namespace EventPipeline

open Transaction

/-- The conditions under which one statement is executed: the clock, and how many IDENTITY
values the server skips (it does not take back those of a transaction that was undone). -/
structure Tick where
  now : ℕ
  skip : ℕ
  deriving DecidableEq, Repr

/-- A row of the join `fetch_order_snapshot` selects. -/
structure SnapshotOrder where
  orderId : ℕ
  externalOrderId : Varchar 64
  status : Varchar 20
  totalAmount : Int
  currency : Varchar 3
  orderDate : Stamp
  externalClientId : Varchar 64
  clientName : Varchar 200
  clientEmail : Varchar 200
  clientDocument : Varchar 32
  address : AddressField → Option String
  deriving DecidableEq

structure SnapshotItem where
  sku : Varchar 64
  description : Varchar 200
  quantity : Int
  unitPrice : Int
  deriving DecidableEq

/-- The parameters of the MERGE into `clients`. -/
structure ClientParams where
  externalClientId : Json
  name : Json
  email : Json
  document : Json

/-- The parameters of the INSERT into `orders`; `orderDate` is `none` where the caller passes
its own clock reading. -/
structure OrderParams where
  externalOrderId : Json
  totalAmount : Json
  currency : Json
  orderDate : Option Json

structure PaymentParams where
  externalPaymentId : Json
  method : Json
  status : Json
  amount : Json
  paidAt : Json

structure InvoiceParams where
  externalInvoiceId : Json
  invoiceNumber : Json
  issuedAt : Json
  amount : Json
  status : Json
  pdfUrl : Json

/-- An element of `items`, a JSON object. -/
abbrev Item := List (String × Json)

inductive Stmt
  | insertEvent (eventId eventType : Json)
  | markEvent (eventId : Json)
  | mergeClient (client : ClientParams)
  | selectAddress (clientId : ℕ) (externalAddressId : Json)
  | expireAddress (addressId : ℕ)
  | insertAddress (clientId : ℕ) (externalAddressId : Json) (content : AddressField → Json)
  | insertOrder (clientId addressId : ℕ) (order : OrderParams)
  | insertItems (orderId : ℕ) (items : List Item)
  | insertHistory (orderId : ℕ) (previousStatus : Option (Varchar 20))
      (newStatus sourceEventId : Json)
  | updateOrder (newStatus externalOrderId : Json)
  | selectSnapshot (orderId : ℕ)
  | selectItems (orderId : ℕ)
  | mergePayment (orderId : ℕ) (payment : PaymentParams)
  | mergeInvoice (orderId : ℕ) (invoice : InvoiceParams)
  | selectOrder (externalOrderId : Json)

namespace Stmt

/-- The rows a statement returns; an INSERT with an OUTPUT clause returns the new identity. -/
@[reducible] def Result : Stmt → Type
  | .mergeClient _ => List ℕ
  | .selectAddress _ _ => List Address
  | .insertAddress _ _ _ => ℕ
  | .insertOrder _ _ _ => ℕ
  | .updateOrder _ _ => List (ℕ × Varchar 20)
  | .selectSnapshot _ => List SnapshotOrder
  | .selectItems _ => List SnapshotItem
  | .selectOrder _ => List ℕ
  | _ => Unit

/-- The values taken from the payload that the driver binds. -/
def parameters : Stmt → List Json
  | .insertEvent eventId eventType => [eventId, eventType]
  | .markEvent eventId => [eventId]
  | .mergeClient c => [c.externalClientId, c.name, c.email, c.document]
  | .selectAddress _ externalAddressId => [externalAddressId]
  | .expireAddress _ => []
  | .insertAddress _ externalAddressId content =>
    externalAddressId :: AddressField.fields.map content
  | .insertOrder _ _ o => [o.externalOrderId, o.totalAmount, o.currency] ++ o.orderDate.toList
  | .insertItems _ items => items.flatMap fun item =>
    ["order_id", "sku", "description", "quantity", "unit_price"].filterMap fun name =>
      item.lookup name
  | .insertHistory _ _ newStatus sourceEventId => [newStatus, sourceEventId]
  | .updateOrder newStatus externalOrderId => [newStatus, externalOrderId]
  | .selectSnapshot _ => []
  | .selectItems _ => []
  | .mergePayment _ p => [p.externalPaymentId, p.method, p.status, p.amount, p.paidAt]
  | .mergeInvoice _ i =>
    [i.externalInvoiceId, i.invoiceNumber, i.issuedAt, i.amount, i.status, i.pdfUrl]
  | .selectOrder externalOrderId => [externalOrderId]

end Stmt

namespace SqlServer

variable (sql : SqlServer)

/-! ### The idempotency ledger -/

def insertEvent (t : Tick) (db : Database) (eventId eventType : Json) :
    Except Fault (List Write) := do
  let eventId ← sql.varchar 100 "event_id" eventId
  let eventType ← sql.varchar 50 "event_type" eventType
  let eventId ← required "event_id" eventId
  let eventType ← required "event_type" eventType
  if db.processedEvents.any fun e => sql.same eventId.text e.eventId.text then
    .error (.duplicateKey "processed_webhook_events")
  else
    .ok [.insertEvent ⟨eventId, eventType, t.now, none⟩]

/-- `event_id = :event_id` -/
def matchesEvent (eventId : Json) (e : ProcessedEvent) : Except Fault Bool :=
  sql.compare "event_id" eventId e.eventId.text

def markEvent (t : Tick) (db : Database) (eventId : Json) : Except Fault (List Write) := do
  let rows ← selectRows (sql.matchesEvent eventId) db.processedEvents
  .ok (rows.map fun e => .markEvent e.eventId t.now)

/-! ### Clients -/

/-- The ON condition of the MERGE. -/
def matchesClient (externalClientId : Json) (c : Client) : Except Fault Bool :=
  sql.compare "external_client_id" externalClientId c.externalClientId.text

/-- The WHEN MATCHED and WHEN NOT MATCHED actions of the MERGE. -/
def writeClient (t : Tick) (db : Database) (client : ClientParams) (matched : List Client) :
    Except Fault (List ℕ × List Write) := do
  let name ← sql.text 200 "name" client.name
  let email ← sql.text 200 "email" client.email
  let document ← sql.text 32 "document" client.document
  if matched.isEmpty then do
    let externalClientId ← sql.text 64 "external_client_id" client.externalClientId
    if db.clients.any fun c => sql.same externalClientId.text c.externalClientId.text then
      .error (.duplicateKey "uq_clients_external_client_id")
    else
      let id := db.next.client + t.skip
      .ok ([id], [.insertClient ⟨id, externalClientId, name, email, document, t.now, t.now⟩])
  else
    .ok (matched.map (·.clientId),
      matched.map fun c => .updateClient c.clientId name email document t.now)

def mergeClient (t : Tick) (db : Database) (client : ClientParams) :
    Except Fault (List ℕ × List Write) := do
  let matched ← selectRows (sql.matchesClient client.externalClientId) db.clients
  sql.writeClient t db client matched

/-! ### Addresses -/

def matchesAddress (externalAddressId : Json) (a : Address) : Except Fault Bool :=
  sql.compare "external_address_id" externalAddressId a.externalAddressId.text

def selectAddress (db : Database) (clientId : ℕ) (externalAddressId : Json) :
    Except Fault (List Address) := do
  let rows ← selectRows (sql.matchesAddress externalAddressId)
    (db.address.filter fun a => a.clientId = clientId)
  .ok (rows.filter (·.isCurrent))

/-- The value of one of the content columns, as INSERT stores it. -/
def contentColumn (f : AddressField) (p : Json) : Except Fault (Option String) := do
  let v ← sql.varchar f.width f.column p
  if v.isNone && !f.nullable then .error (.notNull f.column) else .ok (v.map (·.text))

/-- The content columns of the new row, each of them stored. -/
def contentColumns (content : AddressField → Json) :
    Except Fault (AddressField → Option String) := do
  let street ← sql.contentColumn .street (content .street)
  let number ← sql.contentColumn .number (content .number)
  let complement ← sql.contentColumn .complement (content .complement)
  let neighborhood ← sql.contentColumn .neighborhood (content .neighborhood)
  let city ← sql.contentColumn .city (content .city)
  let state ← sql.contentColumn .state (content .state)
  let postalCode ← sql.contentColumn .postalCode (content .postalCode)
  let country ← sql.contentColumn .country (content .country)
  .ok fun
    | .street => street
    | .number => number
    | .complement => complement
    | .neighborhood => neighborhood
    | .city => city
    | .state => state
    | .postalCode => postalCode
    | .country => country

def insertAddress (t : Tick) (db : Database) (clientId : ℕ) (externalAddressId : Json)
    (content : AddressField → Json) : Except Fault (ℕ × List Write) := do
  let externalAddressId ← sql.text 64 "external_address_id" externalAddressId
  let content ← sql.contentColumns content
  if !db.clients.any fun c => c.clientId = clientId then
    .error (.foreignKey "client_id")
  else if db.address.any fun a => a.isCurrent && a.clientId = clientId &&
      sql.same externalAddressId.text a.externalAddressId.text then
    .error (.duplicateKey "uq_address_current_per_client")
  else
    let id := db.next.address + t.skip
    .ok (id, [.insertAddress
      ⟨id, clientId, externalAddressId, content, t.now, none, true, t.now⟩])

/-! ### Orders -/

def pending : Varchar 20 := ⟨"PENDING", by decide⟩

def orderDate (t : Tick) : Option Json → Except Fault Stamp
  | none => .ok (.clock t.now)
  | some date => do
    let v ← sql.datetime "order_date" date
    .ok (.given v)

def insertOrder (t : Tick) (db : Database) (clientId addressId : ℕ) (order : OrderParams) :
    Except Fault (ℕ × List Write) := do
  let externalOrderId ← sql.text 64 "external_order_id" order.externalOrderId
  let totalAmount ← sql.numeric "total_amount" order.totalAmount
  let currency ← sql.text 3 "currency" order.currency
  let orderDate ← sql.orderDate t order.orderDate
  if !db.clients.any fun c => c.clientId = clientId then
    .error (.foreignKey "client_id")
  else if !db.address.any fun a => a.addressId = addressId then
    .error (.foreignKey "address_id")
  else if db.orders.any fun o => sql.same externalOrderId.text o.externalOrderId.text then
    .error (.duplicateKey "uq_orders_external_order_id")
  else
    let id := db.next.order + t.skip
    .ok (id, [.insertOrder ⟨id, externalOrderId, clientId, addressId, pending, totalAmount,
      currency, orderDate, none, t.now, t.now⟩])

/-- A bind parameter looked up in the parameters of the statement. -/
def parameter (name : String) (item : Item) : Except Fault Json :=
  match item.lookup name with
  | some v => .ok v
  | none => .error (.missing name)

/-- The order an item is stored under: `{"order_id": order_id, **item}` lets a key
`order_id` of the item replace the identifier of the order being created. -/
def itemOrder (db : Database) (orderId : ℕ) (item : Item) : Except Fault ℕ :=
  match item.lookup "order_id" with
  | none => .ok orderId
  | some v => do
    let id ← sql.bigint "order_id" v
    match db.orders.find? fun o => (o.orderId : Int) = id with
    | some o => .ok o.orderId
    | none => .error (.foreignKey "order_id")

/-- One row of the batch, its identity left to the caller. -/
def itemRow (db : Database) (orderId : ℕ) (item : Item) : Except Fault OrderItem := do
  let order ← sql.itemOrder db orderId item
  let sku ← sql.text 64 "sku" (← parameter "sku" item)
  let description ← sql.text 200 "description" (← parameter "description" item)
  let quantity ← sql.bigint "quantity" (← parameter "quantity" item)
  let unitPrice ← sql.numeric "unit_price" (← parameter "unit_price" item)
  .ok ⟨0, order, sku, description, quantity, unitPrice⟩

def insertItems (t : Tick) (db : Database) (orderId : ℕ) (items : List Item) :
    Except Fault (List Write) := do
  let rows ← collect (sql.itemRow db orderId) items
  let first := db.next.item + t.skip
  .ok (rows.zipIdx.map fun row => .insertItem { row.1 with orderItemId := first + row.2 })

def changedBy : Varchar 100 := ⟨"ingestion-consumer", by decide⟩

def insertHistory (t : Tick) (db : Database) (orderId : ℕ)
    (previousStatus : Option (Varchar 20)) (newStatus sourceEventId : Json) :
    Except Fault (List Write) := do
  let newStatus ← sql.text 20 "new_status" newStatus
  let sourceEventId ← sql.varchar 100 "source_event_id" sourceEventId
  if !db.orders.any fun o => o.orderId = orderId then
    .error (.foreignKey "order_id")
  else
    .ok [.insertHistory ⟨db.next.history + t.skip, orderId, previousStatus, newStatus, t.now,
      changedBy, sourceEventId⟩]

def matchesOrder (externalOrderId : Json) (o : Order) : Except Fault Bool :=
  sql.compare "external_order_id" externalOrderId o.externalOrderId.text

/-- `status IN ('DELIVERED', 'CANCELLED', 'CLOSED')` -/
def isTerminal (o : Order) : Bool :=
  sql.isOneOf o.status.text terminalStatuses

def triggerMessage : String :=
  "Order is in a terminal status and cannot be modified retroactively."

/-- The UPDATE of `orders` with its CHECK constraint and its AFTER UPDATE trigger, which
looks at the rows as they were. The SELECT that follows returns them from `@updated`. -/
def updateOrder (t : Tick) (db : Database) (newStatus externalOrderId : Json) :
    Except Fault (List (ℕ × Varchar 20) × List Write) := do
  let deleted ← selectRows (sql.matchesOrder externalOrderId) db.orders
  if deleted.isEmpty then
    .ok ([], [])
  else do
    let closing ← sql.compareAny "status" newStatus terminalStatuses
    let status ← sql.checked "ck_orders_status" orderStatuses newStatus
    if deleted.any sql.isTerminal then
      .error (.trigger triggerMessage)
    else
      .ok (deleted.map fun d => (d.orderId, d.status),
        deleted.map fun d => .updateOrder d.orderId status closing t.now)

def snapshotOrder (o : Order) (c : Client) (a : Address) : SnapshotOrder where
  orderId := o.orderId
  externalOrderId := o.externalOrderId
  status := o.status
  totalAmount := o.totalAmount
  currency := o.currency
  orderDate := o.orderDate
  externalClientId := c.externalClientId
  clientName := c.name
  clientEmail := c.email
  clientDocument := c.document
  address := a.content

def selectSnapshot (db : Database) (orderId : ℕ) : List SnapshotOrder :=
  (db.orders.filter fun o => o.orderId = orderId).flatMap fun o =>
    (db.clients.filter fun c => c.clientId = o.clientId).flatMap fun c =>
      (db.address.filter fun a => a.addressId = o.addressId).map fun a => snapshotOrder o c a

def selectItems (db : Database) (orderId : ℕ) : List SnapshotItem :=
  (db.orderItems.filter fun i => i.orderId = orderId).map fun i =>
    ⟨i.sku, i.description, i.quantity, i.unitPrice⟩

def selectOrder (db : Database) (externalOrderId : Json) : Except Fault (List ℕ) := do
  let rows ← selectRows (sql.matchesOrder externalOrderId) db.orders
  .ok (rows.map (·.orderId))

/-! ### Payments and invoices -/

def matchesPayment (externalPaymentId : Json) (p : Payment) : Except Fault Bool :=
  sql.compare "external_payment_id" externalPaymentId p.externalPaymentId.text

def mergePayment (t : Tick) (db : Database) (orderId : ℕ) (payment : PaymentParams) :
    Except Fault (List Write) := do
  let matched ← selectRows (sql.matchesPayment payment.externalPaymentId) db.payments
  let status ← sql.checked "ck_payment_status" paymentStatuses payment.status
  let amount ← sql.numeric "amount" payment.amount
  let paidAt ← convert sql.toDatetime "paid_at" payment.paidAt
  if matched.isEmpty then do
    let externalPaymentId ← sql.text 64 "external_payment_id" payment.externalPaymentId
    let method ← sql.text 30 "method" payment.method
    if !db.orders.any fun o => o.orderId = orderId then
      .error (.foreignKey "order_id")
    else if db.payments.any fun p =>
        sql.same externalPaymentId.text p.externalPaymentId.text then
      .error (.duplicateKey "uq_payment_external_payment_id")
    else
      .ok [.insertPayment ⟨db.next.payment + t.skip, externalPaymentId, orderId, method,
        status, amount, paidAt, t.now, t.now⟩]
  else
    .ok (matched.map fun p => .updatePayment p.paymentId status amount paidAt t.now)

def matchesInvoice (externalInvoiceId : Json) (i : Invoice) : Except Fault Bool :=
  sql.compare "external_invoice_id" externalInvoiceId i.externalInvoiceId.text

def mergeInvoice (t : Tick) (db : Database) (orderId : ℕ) (invoice : InvoiceParams) :
    Except Fault (List Write) := do
  let matched ← selectRows (sql.matchesInvoice invoice.externalInvoiceId) db.invoices
  let status ← sql.checked "ck_invoice_status" invoiceStatuses invoice.status
  let amount ← sql.numeric "amount" invoice.amount
  let pdfUrl ← sql.varchar 500 "pdf_url" invoice.pdfUrl
  if matched.isEmpty then do
    let externalInvoiceId ← sql.text 64 "external_invoice_id" invoice.externalInvoiceId
    let invoiceNumber ← sql.text 50 "invoice_number" invoice.invoiceNumber
    let issuedAt ← sql.datetime "issued_at" invoice.issuedAt
    if !db.orders.any fun o => o.orderId = orderId then
      .error (.foreignKey "order_id")
    else if db.invoices.any fun i =>
        sql.same externalInvoiceId.text i.externalInvoiceId.text then
      .error (.duplicateKey "uq_invoices_external_invoice_id")
    else
      .ok [.insertInvoice ⟨db.next.invoice + t.skip, externalInvoiceId, orderId,
        invoiceNumber, issuedAt, amount, status, pdfUrl, t.now⟩]
  else
    .ok (matched.map fun i => .updateInvoice i.invoiceId status amount pdfUrl)

/-! ### The engine -/

/-- The answer of a statement that returns no row. -/
def silent (r : Except Fault (List Write)) : Except Fault (Unit × List Write) := do
  let ws ← r
  .ok ((), ws)

/-- The answer of a statement that writes no row. -/
def readOnly {α : Type} (r : Except Fault α) : Except Fault (α × List Write) := do
  let rows ← r
  .ok (rows, [])

/-- What a statement whose parameters are bound does. -/
def perform (t : Tick) (db : Database) :
    (stmt : Stmt) → Except Fault (stmt.Result × List Write)
  | .insertEvent eventId eventType => silent (sql.insertEvent t db eventId eventType)
  | .markEvent eventId => silent (sql.markEvent t db eventId)
  | .mergeClient client => sql.mergeClient t db client
  | .selectAddress clientId ext => readOnly (sql.selectAddress db clientId ext)
  | .expireAddress addressId => .ok ((), [.expireAddress addressId t.now])
  | .insertAddress clientId ext content => sql.insertAddress t db clientId ext content
  | .insertOrder clientId addressId order => sql.insertOrder t db clientId addressId order
  | .insertItems orderId items => silent (sql.insertItems t db orderId items)
  | .insertHistory orderId previous new source =>
    silent (sql.insertHistory t db orderId previous new source)
  | .updateOrder newStatus ext => sql.updateOrder t db newStatus ext
  | .selectSnapshot orderId => .ok (selectSnapshot db orderId, [])
  | .selectItems orderId => .ok (selectItems db orderId, [])
  | .mergePayment orderId payment => silent (sql.mergePayment t db orderId payment)
  | .mergeInvoice orderId invoice => silent (sql.mergeInvoice t db orderId invoice)
  | .selectOrder ext => readOnly (sql.selectOrder db ext)

def execute (t : Tick) (db : Database) (stmt : Stmt) :
    Except Fault (stmt.Result × List Write) :=
  if stmt.parameters.all Json.bindable then sql.perform t db stmt else .error .unbindable

/-- The server as a store: a refused statement raises the error of its fault. -/
def engine : Engine Stmt Stmt.Result Database Write Tick SqlError where
  exec t stmt db := (sql.execute t db stmt).mapError sql.raise
  apply := Database.apply

end SqlServer

end EventPipeline

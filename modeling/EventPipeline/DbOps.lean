import EventPipeline.Statement

/-!
# `db_ops`

The functions of `db_ops.py` as programs over the statements: what they read from the
payload, in which order, which statements they send and how they react to the answers. Each
runs inside a transaction that the caller opened.
-/

namespace EventPipeline

open Transaction

/-- What can be raised while a message is processed: `DuplicateEvent`, a `SQLAlchemyError`,
or an exception of Python's own. -/
inductive Exn
  | duplicateEvent (eventId : Json)
  | sql (e : SqlError)
  | python (e : PyError)

abbrev Prog := Program Stmt Stmt.Result SqlError Exn

namespace Prog

def execute (stmt : Stmt) : Prog stmt.Result :=
  Program.statement Exn.sql stmt

def eval {α : Type} : Except PyError α → Prog α
  | .ok a => .ret a
  | .error e => .fail (.python e)

/-- `value[key]` -/
def item (value : Json) (key : String) : Prog Json :=
  eval (value.getItem key)

/-- The row `.first()` returned, of which `column` is read. -/
def first {α : Type} (column : String) : List α → Prog α
  | row :: _ => .ret row
  | [] => .fail (.python ⟨s!"'NoneType' object has no attribute '{column}'"⟩)

end Prog

open Prog

/-- Insert into the idempotency ledger; any integrity error is taken for a replay. -/
def claimEvent (eventId eventType : Json) : Prog Unit :=
  .call (.insertEvent eventId eventType) fun
    | .ok _ => .ret ()
    | .error e => if e.cls = .integrity then .fail (.duplicateEvent eventId) else .fail (.sql e)

def markEventProcessed (eventId : Json) : Prog Unit :=
  execute (.markEvent eventId)

def clientParams (client : Json) : Except PyError ClientParams := do
  let externalClientId ← client.getItem "external_client_id"
  let name ← client.getItem "name"
  let email ← client.getItem "email"
  let document ← client.getItem "document"
  .ok ⟨externalClientId, name, email, document⟩

def upsertClient (client : Json) : Prog ℕ := do
  let params ← eval (clientParams client)
  let rows ← execute (.mergeClient params)
  first "client_id" rows

/-- `(current[f] or None) == (address.get(f) or None)` -/
def sameField (current : Option String) (payload : Json) : Bool :=
  match current with
  | none => !payload.truthy
  | some s => if s = "" then !payload.truthy else payload.isText s

/-- `address.get(f)`, where `address` has been subscripted before. -/
def addressContent (address : Json) (f : AddressField) : Json :=
  match address with
  | .obj fields => (fields.lookup f.column).getD .null
  | _ => .null

def unchanged (current : Address) (content : AddressField → Json) : Bool :=
  AddressField.fields.all fun f => sameField (current.content f) (content f)

/-- SCD2 upsert: reuse the current version if unchanged, otherwise expire it and insert a
new version. -/
def upsertCurrentAddress (clientId : ℕ) (address : Json) : Prog ℕ := do
  let externalAddressId ← item address "external_address_id"
  let rows ← execute (.selectAddress clientId externalAddressId)
  let insert : Prog ℕ :=
    execute (.insertAddress clientId externalAddressId (addressContent address))
  match rows.head? with
  | none => insert
  | some current =>
    if unchanged current (addressContent address) then
      return current.addressId
    else do
      execute (.expireAddress current.addressId)
      insert

def orderParams (order : Json) : Except PyError OrderParams := do
  let externalOrderId ← order.getItem "external_order_id"
  let totalAmount ← order.getItem "total_amount"
  let currency ← order.get "currency" (.str "BRL")
  let orderDate ← order.get "order_date" .null
  -- `order.get("order_date") or dt.datetime.utcnow()`
  .ok ⟨externalOrderId, totalAmount, currency,
    if orderDate.truthy then some orderDate else none⟩

def insertOrder (clientId addressId : ℕ) (order : Json) : Prog ℕ := do
  let params ← eval (orderParams order)
  execute (.insertOrder clientId addressId params)

/-- `[{"order_id": order_id, **item} for item in items]` -/
def itemMappings (items : Json) : Except PyError (List Item) := do
  let items ← items.iterate
  collect Json.mapping items

def insertOrderItems (orderId : ℕ) (items : Json) : Prog Unit := do
  if items.truthy then
    let rows ← eval (itemMappings items)
    execute (.insertItems orderId rows)
  else
    return ()

def recordStatusHistory (orderId : ℕ) (previousStatus : Option (Varchar 20))
    (newStatus sourceEventId : Json) : Prog Unit :=
  execute (.insertHistory orderId previousStatus newStatus sourceEventId)

/-- The order and its previous status, or `none` if the order is not known. -/
def updateOrderStatus (externalOrderId newStatus : Json) : Prog (Option (ℕ × Varchar 20)) := do
  let rows ← execute (.updateOrder newStatus externalOrderId)
  return rows.head?

/-- Full denormalised payload of an order. -/
structure Snapshot where
  order : SnapshotOrder
  items : List SnapshotItem
  deriving DecidableEq

def fetchOrderSnapshot (orderId : ℕ) : Prog Snapshot := do
  let rows ← execute (.selectSnapshot orderId)
  let items ← execute (.selectItems orderId)
  match rows with
  | order :: _ => return ⟨order, items⟩
  | [] => .fail (.python ⟨"'NoneType' object is not iterable"⟩)

def paymentParams (payment : Json) : Except PyError PaymentParams := do
  let externalPaymentId ← payment.getItem "external_payment_id"
  let method ← payment.getItem "method"
  let status ← payment.get "status" (.str "CONFIRMED")
  let amount ← payment.getItem "amount"
  let paidAt ← payment.get "paid_at" .null
  .ok ⟨externalPaymentId, method, status, amount, paidAt⟩

def upsertPayment (orderId : ℕ) (payment : Json) : Prog Unit := do
  let params ← eval (paymentParams payment)
  execute (.mergePayment orderId params)

def invoiceParams (invoice : Json) : Except PyError InvoiceParams := do
  let externalInvoiceId ← invoice.getItem "external_invoice_id"
  let invoiceNumber ← invoice.getItem "invoice_number"
  let issuedAt ← invoice.get "issued_at" .null
  let amount ← invoice.getItem "amount"
  let status ← invoice.get "status" (.str "ISSUED")
  let pdfUrl ← invoice.get "pdf_url" .null
  .ok ⟨externalInvoiceId, invoiceNumber, issuedAt, amount, status, pdfUrl⟩

def upsertInvoice (orderId : ℕ) (invoice : Json) : Prog Unit := do
  let params ← eval (invoiceParams invoice)
  execute (.mergeInvoice orderId params)

def resolveOrderId (externalOrderId : Json) : Prog (Option ℕ) := do
  let rows ← execute (.selectOrder externalOrderId)
  return rows.head?

/-! ### The operational log -/

/-- What the separate connection of `log_pipeline_event` meets: whether its transaction takes
effect on the server, the clock, and the identity of the row. -/
structure LogConnection where
  reachable : Bool
  now : ℕ
  logId : ℕ
  deriving DecidableEq, Repr

/-- The row the INSERT stores, `message[:500]` being the message. -/
def pipelineLogRow (sql : SqlServer) (conn : LogConnection) (service level message : String)
    (eventId : Json) : Except Fault PipelineLog := do
  if eventId.bindable then
    let service ← sql.text 50 "service" (.str service)
    let level ← sql.text 10 "level" (.str level)
    let message ← sql.text 500 "message" (.str (message.take 500).toString)
    let eventId ← sql.varchar 100 "event_id" eventId
    .ok ⟨conn.logId, conn.now, service, level, message, eventId⟩
  else
    .error .unbindable

/-- Best effort: whatever goes wrong is swallowed. -/
def logPipelineEvent (sql : SqlServer) (conn : LogConnection) (service level message : String)
    (eventId : Json) (log : List PipelineLog) : List PipelineLog :=
  if conn.reachable then
    match pipelineLogRow sql conn service level message eventId with
    | .ok row => log ++ [row]
    | .error _ => log
  else
    log

/-- The row is added where the columns take its values. -/
lemma logPipelineEvent_eq {sql : SqlServer} {conn : LogConnection} {service level message : String}
    {eventId : Json} {text : Varchar 500} {id : Option (Varchar 100)}
    (hreachable : conn.reachable = true) (hservice : sql.Keeps 50 service)
    (hlevel : sql.Keeps 10 level) (hbindable : eventId.bindable = true)
    (hmessage : sql.stored 500 (.text (message.take 500).toString) = some text)
    (hid : sql.varchar 100 "event_id" eventId = .ok id) (log : List PipelineLog) :
    logPipelineEvent sql conn service level message eventId log =
      log ++ [⟨conn.logId, conn.now, ⟨service, hservice.2⟩, ⟨level, hlevel.2⟩, text, id⟩] := by
  simp only [logPipelineEvent, hreachable, if_true, pipelineLogRow, hbindable,
    SqlServer.text_str hservice.stored, SqlServer.text_str hlevel.stored,
    SqlServer.text_str hmessage, hid]
  rfl

end EventPipeline

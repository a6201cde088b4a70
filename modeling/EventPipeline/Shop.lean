import EventPipeline.DbOps

/-!
# What the tables say

The business content of the database, without surrogate keys and clock readings: every row is
known by its external key, and a reference is the external key it leads to. `Shop.event` is
what an event does to it, undefined where the event is refused. It is the purpose of the
ingestion consumer; `Library.Simulation` says how the transactions are compared with it.
-/

namespace EventPipeline

open Transaction

structure ClientInfo where
  ext : Varchar 64
  name : Varchar 200
  email : Varchar 200
  document : Varchar 32
  deriving DecidableEq

structure AddressInfo where
  client : Option (Varchar 64)
  ext : Varchar 64
  content : AddressField → Option String
  isCurrent : Bool
  deriving DecidableEq

/-- The version of an address, as an order refers to it. -/
abbrev AddressKey := Varchar 64 × (AddressField → Option String)

structure OrderInfo where
  ext : Varchar 64
  client : Option (Varchar 64)
  address : Option AddressKey
  status : Varchar 20
  totalAmount : Int
  currency : Varchar 3
  /-- The date the payload gave, if it gave one. -/
  orderDate : Option Int
  closed : Bool
  deriving DecidableEq

structure ItemInfo where
  order : Option (Varchar 64)
  sku : Varchar 64
  description : Varchar 200
  quantity : Int
  unitPrice : Int
  deriving DecidableEq

structure HistoryInfo where
  order : Option (Varchar 64)
  previousStatus : Option (Varchar 20)
  newStatus : Varchar 20
  changedBy : Varchar 100
  sourceEventId : Option (Varchar 100)
  deriving DecidableEq

structure PaymentInfo where
  ext : Varchar 64
  order : Option (Varchar 64)
  method : Varchar 30
  status : Varchar 20
  amount : Int
  paidAt : Option Int
  deriving DecidableEq

structure InvoiceInfo where
  ext : Varchar 64
  order : Option (Varchar 64)
  invoiceNumber : Varchar 50
  issuedAt : Int
  amount : Int
  status : Varchar 20
  pdfUrl : Option (Varchar 500)
  deriving DecidableEq

structure LedgerInfo where
  eventId : Varchar 100
  eventType : Varchar 50
  processed : Bool
  deriving DecidableEq

structure Shop where
  clients : List ClientInfo
  address : List AddressInfo
  orders : List OrderInfo
  items : List ItemInfo
  history : List HistoryInfo
  payments : List PaymentInfo
  invoices : List InvoiceInfo
  ledger : List LedgerInfo
  deriving DecidableEq

namespace Shop

variable (sql : SqlServer)

/-! ### The ledger -/

def claim (eventId eventType : Json) (s : Shop) : Option Shop :=
  if [eventId, eventType].all Json.bindable then do
    let id ← (sql.text 100 "event_id" eventId).toOption
    let type ← (sql.text 50 "event_type" eventType).toOption
    if s.ledger.any fun e => sql.same id.text e.eventId.text then none
    else some { s with ledger := s.ledger ++ [⟨id, type, false⟩] }
  else none

def ledgerNamed (eventId : Json) (e : LedgerInfo) : Except Fault Bool :=
  sql.compare "event_id" eventId e.eventId.text

def mark (eventId : Json) (s : Shop) : Option Shop :=
  if [eventId].all Json.bindable then do
    let _ ← (selectRows (ledgerNamed sql eventId) s.ledger).toOption
    some { s with
      ledger := s.ledger.map fun e =>
        if holds (ledgerNamed sql eventId e) then { e with processed := true } else e }
  else none

/-! ### Clients and addresses -/

def clientNamed (ext : Json) (c : ClientInfo) : Except Fault Bool :=
  sql.compare "external_client_id" ext c.ext.text

/-- The external id a new client is stored under, if it can be. -/
def newClient (ext : Json) (s : Shop) : Option (Varchar 64) := do
  let ext ← (sql.text 64 "external_client_id" ext).toOption
  if s.clients.any fun c => sql.same ext.text c.ext.text then none else some ext

/-- The client under its external id, created or brought up to date. -/
def mergeClient (p : ClientParams) (s : Shop) : Option (Varchar 64 × Shop) :=
  if [p.externalClientId, p.name, p.email, p.document].all Json.bindable then do
    let named ← (selectRows (clientNamed sql p.externalClientId) s.clients).toOption
    let name ← (sql.text 200 "name" p.name).toOption
    let email ← (sql.text 200 "email" p.email).toOption
    let document ← (sql.text 32 "document" p.document).toOption
    match named with
    | [] => do
      let ext ← newClient sql p.externalClientId s
      some (ext, { s with clients := s.clients ++ [⟨ext, name, email, document⟩] })
    | c :: _ => some (c.ext, { s with
        clients := s.clients.map fun c =>
          if holds (clientNamed sql p.externalClientId c) then { c with name, email, document }
          else c })
  else none

def upsertClient (client : Json) (s : Shop) : Option (Varchar 64 × Shop) := do
  let p ← (clientParams client).toOption
  mergeClient sql p s

def addressNamed (ext : Json) (a : AddressInfo) : Except Fault Bool :=
  sql.compare "external_address_id" ext a.ext.text

/-- A first or a further version of an address, the only current one. -/
def insertAddress (client : Varchar 64) (ext : Json) (content : AddressField → Json) (s : Shop) :
    Option (AddressKey × Shop) :=
  if (ext :: AddressField.fields.map content).all Json.bindable then do
    let ext ← (sql.text 64 "external_address_id" ext).toOption
    let content ← (sql.contentColumns content).toOption
    if s.address.any fun a => a.isCurrent && a.client = some client &&
        sql.same ext.text a.ext.text then none
    else some ((ext, content), { s with
      address := s.address ++ [⟨some client, ext, content, true⟩] })
  else none

/-- `a` is no longer the current version of its address. -/
def expire (a : AddressInfo) (s : Shop) : Shop :=
  { s with
    address := s.address.map fun a' =>
      if a'.client = a.client ∧ a'.ext = a.ext ∧ a'.isCurrent then { a' with isCurrent := false }
      else a' }

/-- `unchanged` of `upsert_current_address` -/
def sameContent (content : AddressField → Option String) (payload : AddressField → Json) : Bool :=
  AddressField.fields.all fun f => sameField (content f) (payload f)

def currentVersions (client : Varchar 64) (ext : Json) (s : Shop) : Option (List AddressInfo) :=
  if [ext].all Json.bindable then do
    let named ← (selectRows (addressNamed sql ext)
      (s.address.filter fun a => a.client = some client)).toOption
    some (named.filter (·.isCurrent))
  else none

/-- A text as id can be compared with every version. -/
lemma currentVersions_str (client : Varchar 64) (ext : String) (s : Shop) :
    currentVersions sql client (.str ext) s =
      some (((s.address.filter fun a => a.client = some client).filter fun a =>
        sql.same ext a.ext.text).filter (·.isCurrent)) := by
  have hselect : selectRows (addressNamed sql (.str ext))
      (s.address.filter fun a => a.client = some client) = .ok _ := sql.selectRows_str _ _ _ _
  simp only [currentVersions, List.all_cons, Json.bindable, List.all_nil, Bool.and_self, if_true,
    hselect, Except.toOption, Option.bind_eq_bind, Option.bind_some]

/-- The version an order is sent to: the current one, replaced if its content has changed. -/
def upsertAddress (client : Varchar 64) (address : Json) (s : Shop) :
    Option (AddressKey × Shop) := do
  let ext ← (address.getItem "external_address_id").toOption
  match ← currentVersions sql client ext s with
  | [] => insertAddress sql client ext (addressContent address) s
  | a :: _ =>
    if sameContent a.content (addressContent address) then some ((a.ext, a.content), s)
    else insertAddress sql client ext (addressContent address) (s.expire a)

/-! ### Orders -/

def orderDate : Option Json → Option (Option Int)
  | none => some none
  | some date => (sql.datetime "order_date" date).toOption.map some

def addOrder (client : Varchar 64) (address : AddressKey) (p : OrderParams) (s : Shop) :
    Option (Varchar 64 × Shop) :=
  if ([p.externalOrderId, p.totalAmount, p.currency] ++ p.orderDate.toList).all Json.bindable
  then do
    let ext ← (sql.text 64 "external_order_id" p.externalOrderId).toOption
    let totalAmount ← (sql.numeric "total_amount" p.totalAmount).toOption
    let currency ← (sql.text 3 "currency" p.currency).toOption
    let orderDate ← orderDate sql p.orderDate
    if s.orders.any fun o => sql.same ext.text o.ext.text then none
    else some (ext, { s with orders := s.orders ++
      [⟨ext, some client, some address, SqlServer.pending, totalAmount, currency, orderDate,
        false⟩] })
  else none

def insertOrder (client : Varchar 64) (address : AddressKey) (order : Json) (s : Shop) :
    Option (Varchar 64 × Shop) := do
  let p ← (orderParams order).toOption
  addOrder sql client address p s

/-- The values of an item that are bound. -/
def itemParameters (item : Item) : List Json :=
  ["order_id", "sku", "description", "quantity", "unit_price"].filterMap fun name =>
    item.lookup name

/-- An item of a new order; a key `order_id` of its own is not looked at. -/
def itemInfo (order : Varchar 64) (item : Item) : Except Fault ItemInfo := do
  let sku ← sql.text 64 "sku" (← SqlServer.parameter "sku" item)
  let description ← sql.text 200 "description" (← SqlServer.parameter "description" item)
  let quantity ← sql.bigint "quantity" (← SqlServer.parameter "quantity" item)
  let unitPrice ← sql.numeric "unit_price" (← SqlServer.parameter "unit_price" item)
  .ok ⟨some order, sku, description, quantity, unitPrice⟩

def insertItems (order : Varchar 64) (items : Json) (s : Shop) : Option Shop :=
  if items.truthy then do
    let mappings ← (itemMappings items).toOption
    if (mappings.flatMap itemParameters).all Json.bindable then do
      let rows ← (collect (itemInfo sql order) mappings).toOption
      some { s with items := s.items ++ rows }
    else none
  else some s

def recordHistory (order : Varchar 64) (previousStatus : Option (Varchar 20))
    (newStatus source : Json) (s : Shop) : Option Shop :=
  if [newStatus, source].all Json.bindable then do
    let newStatus ← (sql.text 20 "new_status" newStatus).toOption
    let source ← (sql.varchar 100 "source_event_id" source).toOption
    some { s with history := s.history ++
      [⟨some order, previousStatus, newStatus, SqlServer.changedBy, source⟩] }
  else none

/-! ### Status changes -/

def orderNamed (ext : Json) (o : OrderInfo) : Except Fault Bool :=
  sql.compare "external_order_id" ext o.ext.text

def isTerminal (o : OrderInfo) : Bool :=
  sql.isOneOf o.status.text terminalStatuses

/-- The orders named get the status, unless one of them is terminal. -/
def updateOrder (ext newStatus : Json) (s : Shop) :
    Option (Option (Varchar 64 × Varchar 20) × Shop) :=
  if [newStatus, ext].all Json.bindable then do
    let named ← (selectRows (orderNamed sql ext) s.orders).toOption
    match named with
    | [] => some (none, s)
    | o :: _ => do
      let closing ← (sql.compareAny "status" newStatus terminalStatuses).toOption
      let status ← (sql.checked "ck_orders_status" orderStatuses newStatus).toOption
      if named.any (isTerminal sql) then none
      else some (some (o.ext, o.status), { s with
        orders := s.orders.map fun o =>
          if holds (orderNamed sql ext o) then { o with status, closed := closing || o.closed }
          else o })
  else none

def resolveOrder (ext : Json) (s : Shop) : Option (Option (Varchar 64)) :=
  if [ext].all Json.bindable then do
    let named ← (selectRows (orderNamed sql ext) s.orders).toOption
    some (named.head?.map (·.ext))
  else none

/-! ### Payments and invoices -/

def paymentNamed (ext : Json) (p : PaymentInfo) : Except Fault Bool :=
  sql.compare "external_payment_id" ext p.ext.text

/-- What a new payment is stored under, and its method. -/
def newPayment (p : PaymentParams) (s : Shop) : Option (Varchar 64 × Varchar 30) := do
  let ext ← (sql.text 64 "external_payment_id" p.externalPaymentId).toOption
  let method ← (sql.text 30 "method" p.method).toOption
  if s.payments.any fun q => sql.same ext.text q.ext.text then none else some (ext, method)

def mergePayment (order : Varchar 64) (p : PaymentParams) (s : Shop) : Option Shop :=
  if [p.externalPaymentId, p.method, p.status, p.amount, p.paidAt].all Json.bindable then do
    let named ← (selectRows (paymentNamed sql p.externalPaymentId) s.payments).toOption
    let status ← (sql.checked "ck_payment_status" paymentStatuses p.status).toOption
    let amount ← (sql.numeric "amount" p.amount).toOption
    let paidAt ← (SqlServer.convert sql.toDatetime "paid_at" p.paidAt).toOption
    if named.isEmpty then do
      let (ext, method) ← newPayment sql p s
      some { s with
        payments := s.payments ++ [⟨ext, some order, method, status, amount, paidAt⟩] }
    else some { s with
      payments := s.payments.map fun q =>
        if holds (paymentNamed sql p.externalPaymentId q) then { q with status, amount, paidAt }
        else q }
  else none

def upsertPayment (order : Varchar 64) (payment : Json) (s : Shop) : Option Shop := do
  let p ← (paymentParams payment).toOption
  mergePayment sql order p s

def invoiceNamed (ext : Json) (i : InvoiceInfo) : Except Fault Bool :=
  sql.compare "external_invoice_id" ext i.ext.text

/-- What a new invoice is stored under, its number and its date. -/
def newInvoice (p : InvoiceParams) (s : Shop) : Option (Varchar 64 × Varchar 50 × Int) := do
  let ext ← (sql.text 64 "external_invoice_id" p.externalInvoiceId).toOption
  let number ← (sql.text 50 "invoice_number" p.invoiceNumber).toOption
  let issuedAt ← (sql.datetime "issued_at" p.issuedAt).toOption
  if s.invoices.any fun i => sql.same ext.text i.ext.text then none
  else some (ext, number, issuedAt)

def mergeInvoice (order : Varchar 64) (p : InvoiceParams) (s : Shop) : Option Shop :=
  if [p.externalInvoiceId, p.invoiceNumber, p.issuedAt, p.amount, p.status, p.pdfUrl].all
      Json.bindable then do
    let named ← (selectRows (invoiceNamed sql p.externalInvoiceId) s.invoices).toOption
    let status ← (sql.checked "ck_invoice_status" invoiceStatuses p.status).toOption
    let amount ← (sql.numeric "amount" p.amount).toOption
    let pdfUrl ← (sql.varchar 500 "pdf_url" p.pdfUrl).toOption
    if named.isEmpty then do
      let (ext, number, issuedAt) ← newInvoice sql p s
      some { s with
        invoices := s.invoices ++ [⟨ext, some order, number, issuedAt, amount, status, pdfUrl⟩] }
    else some { s with
      invoices := s.invoices.map fun i =>
        if holds (invoiceNamed sql p.externalInvoiceId i) then { i with status, amount, pdfUrl }
        else i }
  else none

def upsertInvoice (order : Varchar 64) (invoice : Json) (s : Shop) : Option Shop := do
  let p ← (invoiceParams invoice).toOption
  mergeInvoice sql order p s

/-! ### Events -/

def orderCreated (eventId data : Json) (s : Shop) : Option Shop := do
  let client ← (data.getItem "client").toOption
  let (clientKey, s) ← upsertClient sql client s
  let address ← (data.getItem "address").toOption
  let (addressKey, s) ← upsertAddress sql clientKey address s
  let (orderKey, s) ← insertOrder sql clientKey addressKey data s
  let items ← (data.get "items" (.arr [])).toOption
  let s ← insertItems sql orderKey items s
  recordHistory sql orderKey none (.str "PENDING") eventId s

def orderStatusChanged (eventId data : Json) (s : Shop) : Option Shop := do
  let ext ← (data.getItem "external_order_id").toOption
  let newStatus ← (data.getItem "new_status").toOption
  match ← updateOrder sql ext newStatus s with
  | (none, s) => some s
  | (some (order, previous), s) => recordHistory sql order (some previous) newStatus eventId s

def paymentConfirmed (data : Json) (s : Shop) : Option Shop := do
  let ext ← (data.getItem "external_order_id").toOption
  match ← resolveOrder sql ext s with
  | none => some s
  | some order => upsertPayment sql order data s

def invoiceIssued (data : Json) (s : Shop) : Option Shop := do
  let ext ← (data.getItem "external_order_id").toOption
  match ← resolveOrder sql ext s with
  | none => some s
  | some order => upsertInvoice sql order data s

/-- The effect of an event beside its row of the ledger. -/
def effect (eventId eventType data : Json) (s : Shop) : Option Shop :=
  if eventType.isText "ORDER_CREATED" then orderCreated sql eventId data s
  else if eventType.isText "ORDER_STATUS_CHANGED" then orderStatusChanged sql eventId data s
  else if eventType.isText "PAYMENT_CONFIRMED" then paymentConfirmed sql data s
  else if eventType.isText "INVOICE_ISSUED" then invoiceIssued sql data s
  else some s

def process (event : Json) (s : Shop) : Option Shop := do
  let id ← (event.getItem "event_id").toOption
  let eventType ← (event.getItem "event_type").toOption
  let data ← (event.getItem "data").toOption
  let s ← claim sql id eventType s
  effect sql id eventType data s

/-- What an event does, undefined where it is refused. -/
def event (event eventId : Json) (s : Shop) : Option Shop := do
  let s ← process sql event s
  mark sql eventId s

end Shop

end EventPipeline

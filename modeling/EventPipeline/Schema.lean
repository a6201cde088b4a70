import EventPipeline.Library.Table
import EventPipeline.Sql
import Mathlib.Data.Fintype.Pi

/-!
# Tables of the database

The tables the ingestion consumer writes, as migrations 0001 and 0003 create them. A table is
the list of its rows in the order of their identity values. `Database` holds every table but
`pipeline_log`, which is written on connections of its own.
-/

namespace EventPipeline

open Transaction

/-- The columns of `address` that hold the address itself, in the order of `fields` in
`upsert_current_address`. -/
inductive AddressField
  | street
  | number
  | complement
  | neighborhood
  | city
  | state
  | postalCode
  | country
  deriving DecidableEq, Repr

namespace AddressField

def column : AddressField → String
  | .street => "street"
  | .number => "number"
  | .complement => "complement"
  | .neighborhood => "neighborhood"
  | .city => "city"
  | .state => "state"
  | .postalCode => "postal_code"
  | .country => "country"

def width : AddressField → ℕ
  | .street => 200
  | .number => 20
  | .complement => 100
  | .neighborhood => 100
  | .city => 100
  | .state => 2
  | .postalCode => 16
  | .country => 2

def nullable : AddressField → Bool
  | .complement => true
  | _ => false

def fields : List AddressField :=
  [.street, .number, .complement, .neighborhood, .city, .state, .postalCode, .country]

lemma mem_fields (f : AddressField) : f ∈ fields := by
  cases f <;> decide

instance : Fintype AddressField :=
  ⟨⟨fields, by decide⟩, mem_fields⟩

end AddressField

structure Client where
  clientId : ℕ
  externalClientId : Varchar 64
  name : Varchar 200
  email : Varchar 200
  document : Varchar 32
  createdAt : ℕ
  updatedAt : ℕ
  deriving DecidableEq

structure Address where
  addressId : ℕ
  clientId : ℕ
  externalAddressId : Varchar 64
  content : AddressField → Option String
  validFrom : ℕ
  validTo : Option ℕ
  isCurrent : Bool
  createdAt : ℕ
  deriving DecidableEq

structure Order where
  orderId : ℕ
  externalOrderId : Varchar 64
  clientId : ℕ
  addressId : ℕ
  status : Varchar 20
  totalAmount : Int
  currency : Varchar 3
  orderDate : Stamp
  closedAt : Option ℕ
  createdAt : ℕ
  updatedAt : ℕ
  deriving DecidableEq

structure OrderItem where
  orderItemId : ℕ
  orderId : ℕ
  sku : Varchar 64
  description : Varchar 200
  quantity : Int
  unitPrice : Int
  deriving DecidableEq

structure StatusHistory where
  historyId : ℕ
  orderId : ℕ
  previousStatus : Option (Varchar 20)
  newStatus : Varchar 20
  changedAt : ℕ
  changedBy : Varchar 100
  sourceEventId : Option (Varchar 100)
  deriving DecidableEq

structure Payment where
  paymentId : ℕ
  externalPaymentId : Varchar 64
  orderId : ℕ
  method : Varchar 30
  status : Varchar 20
  amount : Int
  paidAt : Option Int
  createdAt : ℕ
  updatedAt : ℕ
  deriving DecidableEq

structure Invoice where
  invoiceId : ℕ
  externalInvoiceId : Varchar 64
  orderId : ℕ
  invoiceNumber : Varchar 50
  issuedAt : Int
  amount : Int
  status : Varchar 20
  pdfUrl : Option (Varchar 500)
  createdAt : ℕ
  deriving DecidableEq

/-- A row of `processed_webhook_events`, the idempotency ledger. -/
structure ProcessedEvent where
  eventId : Varchar 100
  eventType : Varchar 50
  receivedAt : ℕ
  processedAt : Option ℕ
  deriving DecidableEq

structure PipelineLog where
  logId : ℕ
  createdAt : ℕ
  service : Varchar 50
  level : Varchar 10
  message : Varchar 500
  eventId : Option (Varchar 100)
  deriving DecidableEq

/-- The next value of each IDENTITY column. -/
structure Identity where
  client : ℕ
  address : ℕ
  order : ℕ
  item : ℕ
  history : ℕ
  payment : ℕ
  invoice : ℕ
  deriving DecidableEq

structure Database where
  clients : List Client
  address : List Address
  orders : List Order
  orderItems : List OrderItem
  statusHistory : List StatusHistory
  payments : List Payment
  invoices : List Invoice
  processedEvents : List ProcessedEvent
  next : Identity
  deriving DecidableEq

/-- The schema right after `alembic upgrade head`. -/
def Database.empty : Database where
  clients := []
  address := []
  orders := []
  orderItems := []
  statusHistory := []
  payments := []
  invoices := []
  processedEvents := []
  next := ⟨1, 1, 1, 1, 1, 1, 1⟩

/-- `ck_orders_status` -/
def orderStatuses : List String :=
  ["PENDING", "APPROVED", "SHIPPED", "DELIVERED", "CANCELLED", "CLOSED"]

/-- The statuses `trg_orders_block_retro_update` protects. -/
def terminalStatuses : List String :=
  ["DELIVERED", "CANCELLED", "CLOSED"]

/-- `ck_payment_status` -/
def paymentStatuses : List String :=
  ["PENDING", "CONFIRMED", "FAILED", "REFUNDED"]

/-- `ck_invoice_status` -/
def invoiceStatuses : List String :=
  ["ISSUED", "CANCELLED"]

/-! ### Writes -/

/-- The rows a statement inserts, and the rows it updates, by their primary key. -/
inductive Write
  | insertEvent (row : ProcessedEvent)
  | markEvent (eventId : Varchar 100) (now : ℕ)
  | insertClient (row : Client)
  | updateClient (clientId : ℕ) (name email : Varchar 200) (document : Varchar 32) (now : ℕ)
  | insertAddress (row : Address)
  | expireAddress (addressId : ℕ) (now : ℕ)
  | insertOrder (row : Order)
  | updateOrder (orderId : ℕ) (status : Varchar 20) (closing : Bool) (now : ℕ)
  | insertItem (row : OrderItem)
  | insertHistory (row : StatusHistory)
  | insertPayment (row : Payment)
  | updatePayment (paymentId : ℕ) (status : Varchar 20) (amount : Int) (paidAt : Option Int)
      (now : ℕ)
  | insertInvoice (row : Invoice)
  | updateInvoice (invoiceId : ℕ) (status : Varchar 20) (amount : Int)
      (pdfUrl : Option (Varchar 500))
  deriving DecidableEq

def ProcessedEvent.mark (now : ℕ) (e : ProcessedEvent) : ProcessedEvent :=
  { e with processedAt := some now }

def Client.update (name email : Varchar 200) (document : Varchar 32) (now : ℕ) (c : Client) :
    Client :=
  { c with name, email, document, updatedAt := now }

def Address.expire (now : ℕ) (a : Address) : Address :=
  { a with validTo := some now, isCurrent := false }

/-- `closed_at = CASE WHEN :new_status IN (...) THEN SYSUTCDATETIME() ELSE closed_at END` -/
def Order.setStatus (status : Varchar 20) (closing : Bool) (now : ℕ) (o : Order) : Order :=
  { o with status, updatedAt := now, closedAt := if closing then some now else o.closedAt }

def Payment.update (status : Varchar 20) (amount : Int) (paidAt : Option Int) (now : ℕ)
    (p : Payment) : Payment :=
  { p with status, amount, paidAt, updatedAt := now }

def Invoice.update (status : Varchar 20) (amount : Int) (pdfUrl : Option (Varchar 500))
    (i : Invoice) : Invoice :=
  { i with status, amount, pdfUrl }

def Database.apply (db : Database) : Write → Database
  | .insertEvent row => { db with processedEvents := db.processedEvents ++ [row] }
  | .markEvent id now =>
    { db with processedEvents := updateById (·.eventId) id (·.mark now) db.processedEvents }
  | .insertClient row =>
    { db with
      clients := db.clients ++ [row]
      next := { db.next with client := row.clientId + 1 } }
  | .updateClient id name email document now =>
    { db with clients := updateById (·.clientId) id (·.update name email document now) db.clients }
  | .insertAddress row =>
    { db with
      address := db.address ++ [row]
      next := { db.next with address := row.addressId + 1 } }
  | .expireAddress id now =>
    { db with address := updateById (·.addressId) id (·.expire now) db.address }
  | .insertOrder row =>
    { db with
      orders := db.orders ++ [row]
      next := { db.next with order := row.orderId + 1 } }
  | .updateOrder id status closing now =>
    { db with orders := updateById (·.orderId) id (·.setStatus status closing now) db.orders }
  | .insertItem row =>
    { db with
      orderItems := db.orderItems ++ [row]
      next := { db.next with item := row.orderItemId + 1 } }
  | .insertHistory row =>
    { db with
      statusHistory := db.statusHistory ++ [row]
      next := { db.next with history := row.historyId + 1 } }
  | .insertPayment row =>
    { db with
      payments := db.payments ++ [row]
      next := { db.next with payment := row.paymentId + 1 } }
  | .updatePayment id status amount paidAt now =>
    { db with
      payments := updateById (·.paymentId) id (·.update status amount paidAt now) db.payments }
  | .insertInvoice row =>
    { db with
      invoices := db.invoices ++ [row]
      next := { db.next with invoice := row.invoiceId + 1 } }
  | .updateInvoice id status amount pdfUrl =>
    { db with
      invoices := updateById (·.invoiceId) id (·.update status amount pdfUrl) db.invoices }

end EventPipeline

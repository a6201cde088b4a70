import EventPipeline.DbOps

/-!
# `process_event` and `handle_message`

The ingestion consumer up to one message: the transaction of an event, its three attempts,
and what `handle_message` does with their outcome. The environment chooses, for every
attempt, what the connection does; the third-party functions the code calls (orjson, the
server's conversions) are parameters.
-/

namespace EventPipeline

open Transaction Prog

/-- An event to publish after commit. -/
structure Outbox where
  eventType : String
  order : Snapshot
  deriving DecidableEq

/-- The `ORDER_CREATED` branch of `process_event`. -/
def orderCreated (eventId data : Json) : Prog (Option Outbox) := do
  let client ← item data "client"
  let clientId ← upsertClient client
  let address ← item data "address"
  let addressId ← upsertCurrentAddress clientId address
  let orderId ← insertOrder clientId addressId data
  let items ← eval (data.get "items" (.arr []))
  insertOrderItems orderId items
  recordStatusHistory orderId none (.str "PENDING") eventId
  return none

/-- The `ORDER_STATUS_CHANGED` branch; an unknown order drops the event. -/
def orderStatusChanged (eventId data : Json) : Prog (Option Outbox) := do
  let externalOrderId ← item data "external_order_id"
  let newStatus ← item data "new_status"
  match ← updateOrderStatus externalOrderId newStatus with
  | none => return none
  | some (orderId, previousStatus) =>
    recordStatusHistory orderId (some previousStatus) newStatus eventId
    if newStatus.isText "APPROVED" then
      let snapshot ← fetchOrderSnapshot orderId
      return some ⟨"ORDER_APPROVED", snapshot⟩
    else
      return none

/-- The `PAYMENT_CONFIRMED` branch. -/
def paymentConfirmed (data : Json) : Prog (Option Outbox) := do
  let externalOrderId ← item data "external_order_id"
  match ← resolveOrderId externalOrderId with
  | none => return none
  | some orderId =>
    upsertPayment orderId data
    return none

/-- The `INVOICE_ISSUED` branch. -/
def invoiceIssued (data : Json) : Prog (Option Outbox) := do
  let externalOrderId ← item data "external_order_id"
  match ← resolveOrderId externalOrderId with
  | none => return none
  | some orderId =>
    upsertInvoice orderId data
    return none

/-- What `process_event` does after claiming the event. -/
def applyEvent (eventId eventType data : Json) : Prog (Option Outbox) :=
  if eventType.isText "ORDER_CREATED" then orderCreated eventId data
  else if eventType.isText "ORDER_STATUS_CHANGED" then orderStatusChanged eventId data
  else if eventType.isText "PAYMENT_CONFIRMED" then paymentConfirmed data
  else if eventType.isText "INVOICE_ISSUED" then invoiceIssued data
  else return none

/-- Runs inside an open transaction. -/
def processEvent (event : Json) : Prog (Option Outbox) := do
  let eventId ← item event "event_id"
  let eventType ← item event "event_type"
  let data ← item event "data"
  claimEvent eventId eventType
  applyEvent eventId eventType data

/-- The body of `_run_in_txn`. -/
def eventTxn (event eventId : Json) : Prog (Option Outbox) := do
  let outbox ← processEvent event
  markEventProcessed eventId
  return outbox

/-! ### Attempts -/

/-- How the COMMIT of an attempt ends: acknowledged, refused with the transaction undone, or
performed on the server although the client gets an error. -/
inductive Commit
  | acknowledged
  | refused (e : SqlError)
  | lost (e : SqlError)

/-- What the environment does to one attempt: the error `engine.begin()` raises, if any, the
error each statement raises or the conditions it is executed under, and the COMMIT. -/
structure Attempt where
  begin : Option SqlError
  statement : ℕ → Except SqlError Tick
  commit : Commit

/-- One call of the body of `_run_in_txn`; the transaction is undone unless it commits. -/
def runInTxn (sql : SqlServer) (env : Attempt) (event eventId : Json) (db : Database) :
    Except Exn (Option Outbox) × Database :=
  match env.begin with
  | some e => (.error (.sql e), db)
  | none =>
    match (eventTxn event eventId).run sql.engine env.statement 0 db with
    | .error exc => (.error exc, db)
    | .ok (outbox, _, db') =>
      match env.commit with
      | .acknowledged => (.ok outbox, db')
      | .refused e => (.error (.sql e), db)
      | .lost e => (.error (.sql e), db')

/-- `retry_if_exception_type(OperationalError)` -/
def Exn.isOperational : Exn → Bool
  | .sql e => e.cls = .operational
  | _ => false

/-- `_run_in_txn` under `stop_after_attempt(3)`. -/
def runAttempts (sql : SqlServer) (attempts : ℕ → Attempt) (event eventId : Json)
    (db : Database) : Except Exn (Option Outbox) × Database :=
  retry Exn.isOperational (fun i => runInTxn sql (attempts i) event eventId) 2 0 db

/-! ### Messages -/

/-- A record of `webhook-events`. -/
structure Message where
  offset : ℕ
  value : ByteArray

/-- A call of `producer.send_and_wait` on `order-approved`, and whether it was accepted. -/
structure Send where
  key : String
  value : ByteArray
  accepted : Bool

/-- The `outcome` label of `events_processed_total`. -/
inductive Outcome
  | success
  | duplicate
  | dbUnavailable
  | dbError
  | unexpectedError
  | malformed
  | publishFailed
  deriving DecidableEq, Repr

/-- An increment of `events_processed_total`; the label `event_type` is whatever the event
carries under that key. -/
structure Count where
  eventType : Json
  outcome : Outcome

/-- What `handle_message` reports with `log_pipeline_event`. -/
inductive Report
  | malformed (offset : ℕ) (text : String)
  | dbUnavailable (text : String)
  | dbError (text : String)
  | unexpected (text : String)
  | publishFailed (orderId : ℕ) (text : String)
  deriving DecidableEq, Repr

def Report.message : Report → String
  | .malformed offset text => s!"malformed message at offset {offset}: {text}"
  | .dbUnavailable text => s!"DB unavailable after retries: {text}"
  | .dbError text => s!"DB error: {text}"
  | .unexpected text => s!"unexpected error: {text}"
  | .publishFailed orderId text =>
    s!"ORDER_APPROVED publish failed for order_id={orderId}: {text}"

/-- What `handle_message` reads and writes; `reports` are its calls of `log_pipeline_event`,
each with the event id it passes. -/
structure World where
  db : Database
  pipelineLog : List PipelineLog
  reports : List (Report × Json)
  sent : List Send
  counts : List Count

/-- Functions of third parties: `orjson.loads`, `orjson.dumps` of a snapshot, and the server. -/
structure Externals where
  loads : ByteArray → Except PyError Json
  dumps : Snapshot → Except PyError ByteArray
  sql : SqlServer

/-- What the environment does during one call of `handle_message`. -/
structure CallEnv where
  attempts : ℕ → Attempt
  /-- The exception `send_and_wait` raises, if any. -/
  send : Option PyError
  log : LogConnection

/-- `orjson.loads(msg.value)` and `event["event_id"]` -/
def decodeEvent (ext : Externals) (value : ByteArray) : Except PyError (Json × Json) := do
  let event ← ext.loads value
  let eventId ← event.getItem "event_id"
  .ok (event, eventId)

namespace World

def log (w : World) (ext : Externals) (env : CallEnv) (report : Report) (eventId : Json) :
    World :=
  { w with
    pipelineLog := logPipelineEvent ext.sql env.log "ingestion-consumer" "ERROR" report.message
      eventId w.pipelineLog
    reports := w.reports ++ [(report, eventId)] }

/-- `events_processed_total.labels(event_type=..., outcome=...).inc()` -/
def count (w : World) (eventType : Json) (outcome : Outcome) : World :=
  { w with counts := w.counts ++ [⟨eventType, outcome⟩] }

/-- The same, with `event["event_type"]` evaluated first. -/
def countEvent (w : World) (event : Json) (outcome : Outcome) : Except PyError Unit × World :=
  match event.getItem "event_type" with
  | .ok eventType => (.ok (), w.count eventType outcome)
  | .error e => (.error e, w)

/-- The clause of a message that does not decode, or has no `event_id`. -/
def malformed (w : World) (ext : Externals) (env : CallEnv) (msg : Message) (e : PyError) :
    World :=
  (w.log ext env (.malformed msg.offset e.text) .null).count (.str "unknown") .malformed

/-- The publication of `ORDER_APPROVED` after the commit. -/
def publish (w : World) (ext : Externals) (env : CallEnv) (eventId : Json)
    (order : Snapshot) : World :=
  let failed (w : World) (e : PyError) : World :=
    (w.log ext env (.publishFailed order.order.orderId e.text) eventId).count
      (.str "ORDER_APPROVED") .publishFailed
  match ext.dumps order with
  | .error e => failed w e
  | .ok value =>
    match env.send with
    | none => { w with sent := w.sent ++ [⟨toString order.order.orderId, value, true⟩] }
    | some e =>
      failed { w with sent := w.sent ++ [⟨toString order.order.orderId, value, false⟩] } e

end World

/-- What `handle_message` does with the outcome of the attempts, clause by clause. -/
def conclude (ext : Externals) (env : CallEnv) (event eventId : Json)
    (result : Except Exn (Option Outbox)) (w : World) : Except PyError Unit × World :=
  match result with
  | .error (.duplicateEvent _) => w.countEvent event .duplicate
  | .error (.sql e) =>
    if e.cls = .operational then
      (w.log ext env (.dbUnavailable e.text) eventId).countEvent event .dbUnavailable
    else
      (w.log ext env (.dbError e.text) eventId).countEvent event .dbError
  | .error (.python e) =>
    (.ok (), (w.log ext env (.unexpected e.text) eventId).count (.str "unknown")
      .unexpectedError)
  | .ok outbox =>
    match w.countEvent event .success with
    | (.error e, w) => (.error e, w)
    | (.ok (), w) =>
      match outbox with
      | some o =>
        if o.eventType = "ORDER_APPROVED" then (.ok (), w.publish ext env eventId o.order)
        else (.ok (), w)
      | none => (.ok (), w)

/-- `handle_message`: whether it returns or raises, and what it leaves behind. -/
def handleMessage (ext : Externals) (env : CallEnv) (msg : Message) (w : World) :
    Except PyError Unit × World :=
  match decodeEvent ext msg.value with
  | .error e => (.ok (), w.malformed ext env msg e)
  | .ok (event, eventId) =>
    let (result, db) := runAttempts ext.sql env.attempts event eventId w.db
    conclude ext env event eventId result { w with db }

/-! ### What the clauses leave alone -/

section Clauses

variable (ext : Externals) (env : CallEnv) (event eventId : Json) (w : World)

namespace World

@[simp] lemma countEvent_db (outcome : Outcome) : (w.countEvent event outcome).2.db = w.db := by
  unfold countEvent
  split <;> rfl

@[simp] lemma countEvent_sent (outcome : Outcome) :
    (w.countEvent event outcome).2.sent = w.sent := by
  unfold countEvent
  split <;> rfl

@[simp] lemma countEvent_reports (outcome : Outcome) :
    (w.countEvent event outcome).2.reports = w.reports := by
  unfold countEvent
  split <;> rfl

@[simp] lemma countEvent_pipelineLog (outcome : Outcome) :
    (w.countEvent event outcome).2.pipelineLog = w.pipelineLog := by
  unfold countEvent
  split <;> rfl

/-- A publication is not sent, accepted, or sent in vain; it is reported unless it is accepted. -/
lemma publish_cases (order : Snapshot) :
    (∃ e : PyError, ext.dumps order = .error e ∧ w.publish ext env eventId order =
      (w.log ext env (.publishFailed order.order.orderId e.text) eventId).count
        (.str "ORDER_APPROVED") .publishFailed) ∨
    (∃ value, ext.dumps order = .ok value ∧ env.send = none ∧ w.publish ext env eventId order =
      { w with sent := w.sent ++ [⟨toString order.order.orderId, value, true⟩] }) ∨
    ∃ value, ∃ e : PyError, ext.dumps order = .ok value ∧ env.send = some e ∧
      w.publish ext env eventId order =
        (({ w with sent := w.sent ++ [⟨toString order.order.orderId, value, false⟩] } : World).log
          ext env (.publishFailed order.order.orderId e.text) eventId).count
            (.str "ORDER_APPROVED") .publishFailed := by
  cases hdumps : ext.dumps order with
  | error e => exact .inl ⟨e, rfl, by simp only [publish, hdumps]⟩
  | ok value =>
    cases hsend : env.send with
    | none => exact .inr (.inl ⟨value, rfl, rfl, by simp only [publish, hdumps, hsend]⟩)
    | some e => exact .inr (.inr ⟨value, e, rfl, rfl, by simp only [publish, hdumps, hsend]⟩)

end World

/-- After the attempts a call counts, it reports and counts, or it publishes what the last attempt
returned. -/
lemma conclude_cases (result : Except Exn (Option Outbox)) :
    (∃ outcome, (conclude ext env event eventId result w).2 = (w.countEvent event outcome).2) ∨
    (∃ report outcome, (conclude ext env event eventId result w).2 =
      ((w.log ext env report eventId).countEvent event outcome).2) ∨
    (∃ report, (conclude ext env event eventId result w).2 =
      (w.log ext env report eventId).count (.str "unknown") .unexpectedError) ∨
    ∃ o, result = .ok (some o) ∧ (conclude ext env event eventId result w).2 =
      (w.countEvent event .success).2.publish ext env eventId o.order := by
  unfold conclude
  split
  · exact .inl ⟨_, rfl⟩
  · split_ifs
    · exact .inr (.inl ⟨_, _, rfl⟩)
    · exact .inr (.inl ⟨_, _, rfl⟩)
  · exact .inr (.inr (.inl ⟨_, rfl⟩))
  · split
    · rename_i heq
      exact .inl ⟨.success, (congrArg Prod.snd heq).symm⟩
    · rename_i w' heq
      obtain rfl : (w.countEvent event .success).2 = w' := congrArg Prod.snd heq
      split
      · split_ifs
        · exact .inr (.inr (.inr ⟨_, rfl, rfl⟩))
        · exact .inl ⟨.success, rfl⟩
      · exact .inl ⟨.success, rfl⟩

end Clauses

/-! ### Concrete calls -/

/-- `orjson` on the texts of a table, and the plain server. -/
def Externals.reading (table : List (String × Json)) : Externals where
  loads value :=
    match (String.fromUTF8? value).bind fun text => List.lookup text table with
    | some v => .ok v
    | none => .error ⟨"unexpected character"⟩
  dumps _ := .error ⟨"Type is not JSON serializable"⟩
  sql := .plain

lemma fromUTF8?_toUTF8 (text : String) : String.fromUTF8? text.toUTF8 = some text := by
  unfold String.fromUTF8?
  rw [dif_pos (show text.toUTF8.IsValidUTF8 from text.isValidUTF8)]
  rfl

lemma lookup_head {text : String} {event : Json} {table : List (String × Json)} :
    List.lookup text ((text, event) :: table) = some event := by
  simp

lemma lookup_tail {text text' : String} {event : Json} {table : List (String × Json)}
    (h : text ≠ text') : List.lookup text ((text', event) :: table) = List.lookup text table := by
  simp [List.lookup_cons, beq_false_of_ne h]

lemma loads_reading {table : List (String × Json)} {text : String} {v : Json}
    (h : List.lookup text table = some v) : (Externals.reading table).loads text.toUTF8 = .ok v := by
  simp only [Externals.reading, fromUTF8?_toUTF8, Option.bind_some, h]

lemma decodeEvent_reading {table : List (String × Json)} {text : String} {event eventId : Json}
    (hevent : List.lookup text table = some event)
    (hid : event.getItem "event_id" = .ok eventId) :
    decodeEvent (.reading table) text.toUTF8 = .ok (event, eventId) := by
  simp only [decodeEvent, Externals.reading, fromUTF8?_toUTF8, Option.bind_some, hevent,
    bind_eq_ok]
  exact ⟨event, rfl, eventId, hid, rfl⟩

/-- `orjson` on the texts of some events. -/
def Externals.rendered (events : List Json) : Externals :=
  .reading (events.map fun event => (event.render, event))

lemma lookup_rendered {events : List Json} (h : (events.map Json.render).Nodup) {event : Json}
    (hmem : event ∈ events) :
    List.lookup event.render (events.map fun event => (event.render, event)) = some event := by
  induction events with
  | nil => cases hmem
  | cons event' events ih =>
    rw [List.map_cons] at h ⊢
    obtain ⟨hnotin, hnodup⟩ := List.nodup_cons.mp h
    rcases List.mem_cons.mp hmem with rfl | hmem
    · exact lookup_head
    · rw [lookup_tail]
      · exact ih hnodup hmem
      · rintro heq
        exact hnotin (heq ▸ List.mem_map_of_mem hmem)

lemma decodeEvent_rendered {events : List Json} (h : (events.map Json.render).Nodup)
    {event eventId : Json} (hmem : event ∈ events)
    (hid : event.getItem "event_id" = .ok eventId) :
    decodeEvent (.rendered events) event.render.toUTF8 = .ok (event, eventId) :=
  decodeEvent_reading (lookup_rendered h hmem) hid

/-- An attempt nothing goes wrong in. -/
def Attempt.healthy : Attempt where
  begin := none
  statement n := .ok ⟨n, 0⟩
  commit := .acknowledged

/-- A call nothing goes wrong in. -/
def CallEnv.healthy : CallEnv where
  attempts _ := .healthy
  send := none
  log := ⟨true, 0, 1⟩

/-- An `ORDER_CREATED` event on the wire, with `street` as JSON text, and as `orjson` reads
it. -/
def orderCreatedText (eventId order client address street : String) : String :=
  "\x7b\"event_id\":\"" ++ eventId ++ "\",\"event_type\":\"ORDER_CREATED\",\"data\":\x7b" ++
  "\"external_order_id\":\"" ++ order ++ "\",\"total_amount\":10,\"client\":\x7b" ++
  "\"external_client_id\":\"" ++ client ++ "\",\"name\":\"Ana\",\"email\":\"a@b\"," ++
  "\"document\":\"1\"\x7d,\"address\":\x7b\"external_address_id\":\"" ++ address ++ "\"," ++
  "\"street\":" ++ street ++ ",\"number\":\"1\",\"neighborhood\":\"Centro\"," ++
  "\"city\":\"Recife\",\"state\":\"PE\",\"postal_code\":\"50000\",\"country\":\"BR\"\x7d\x7d\x7d"

def orderCreatedEvent (eventId order client address : String) (street : Json) : Json :=
  .obj [("event_id", .str eventId), ("event_type", .str "ORDER_CREATED"),
    ("data", .obj [("external_order_id", .str order), ("total_amount", .int 10),
      ("client", .obj [("external_client_id", .str client), ("name", .str "Ana"),
        ("email", .str "a@b"), ("document", .str "1")]),
      ("address", .obj [("external_address_id", .str address), ("street", street),
        ("number", .str "1"), ("neighborhood", .str "Centro"), ("city", .str "Recife"),
        ("state", .str "PE"), ("postal_code", .str "50000"), ("country", .str "BR")])])]

/-- An `ORDER_CREATED` event with items. -/
def orderWithItems (eventId order client address : String) (street : Json) (items : List Json) :
    Json :=
  .obj [("event_id", .str eventId), ("event_type", .str "ORDER_CREATED"),
    ("data", .obj [("external_order_id", .str order), ("total_amount", .int 10),
      ("client", .obj [("external_client_id", .str client), ("name", .str "Ana"),
        ("email", .str "a@b"), ("document", .str "1")]),
      ("address", .obj [("external_address_id", .str address), ("street", street),
        ("number", .str "1"), ("neighborhood", .str "Centro"), ("city", .str "Recife"),
        ("state", .str "PE"), ("postal_code", .str "50000"), ("country", .str "BR")]),
      ("items", .arr items)])]

/-- An item, with further keys. -/
def itemOf (sku : String) (quantity : Int) (more : List (String × Json)) : Json :=
  .obj ([("sku", .str sku), ("description", .str "Caneta"), ("quantity", .int quantity),
    ("unit_price", .int 2)] ++ more)

/-- An `ORDER_STATUS_CHANGED` event, with `order` as JSON text. -/
def statusChangedText (eventId order newStatus : String) : String :=
  "\x7b\"event_id\":\"" ++ eventId ++ "\",\"event_type\":\"ORDER_STATUS_CHANGED\"," ++
  "\"data\":\x7b\"external_order_id\":" ++ order ++ ",\"new_status\":\"" ++ newStatus ++
  "\"\x7d\x7d"

def statusChangedEvent (eventId : String) (order : Json) (newStatus : String) : Json :=
  .obj [("event_id", .str eventId), ("event_type", .str "ORDER_STATUS_CHANGED"),
    ("data", .obj [("external_order_id", order), ("new_status", .str newStatus)])]

def sampleText : String :=
  orderCreatedText "e1" "o1" "c1" "a1" "\"Rua A\""

def sampleOrder : Json :=
  orderCreatedEvent "e1" "o1" "c1" "a1" (.str "Rua A")

def sampleExternals : Externals :=
  .reading [(sampleText, sampleOrder)]

def sampleMessage : Message :=
  ⟨0, sampleText.toUTF8⟩

lemma decodeEvent_sample :
    decodeEvent sampleExternals sampleMessage.value = .ok (sampleOrder, .str "e1") :=
  decodeEvent_reading lookup_head rfl

def World.start : World :=
  ⟨.empty, [], [], [], []⟩

end EventPipeline

import EventPipeline.Consumer

/-!
# The webhook receiver

What `receive_webhook` puts on `webhook-events`: the envelope with the time of its reception,
under the external id of the order it is about, or of the client, or its own id. An event that
names an order by a text is published under that text, or not at all. A validated request is
published exactly when that key is a text, `orjson` can write its data as they are, and the record is
not too large for the producer (`webhook_published_iff`).
-/

namespace EventPipeline

open Transaction

inductive EventType
  | orderCreated
  | orderStatusChanged
  | paymentConfirmed
  | invoiceIssued
  deriving DecidableEq, Repr

def EventType.text : EventType → String
  | .orderCreated => "ORDER_CREATED"
  | .orderStatusChanged => "ORDER_STATUS_CHANGED"
  | .paymentConfirmed => "PAYMENT_CONFIRMED"
  | .invoiceIssued => "INVOICE_ISSUED"

/-- A request body that passed its validation. Its floats are the decimals that Python writes for
them, and an infinite one is a decimal that is read as such. -/
structure WebhookEnvelope where
  eventId : String
  eventType : EventType
  occurredAt : String
  data : List (String × Json)
  length_eventId : 1 ≤ eventId.length ∧ eventId.length ≤ 100

namespace WebhookEnvelope

/-- `data.get("external_order_id") or data.get("external_client_id") or event_id` -/
def partitionKey (envelope : WebhookEnvelope) : Json :=
  let orderId := (envelope.data.lookup "external_order_id").getD .null
  let clientId := (envelope.data.lookup "external_client_id").getD .null
  if orderId.truthy then orderId
  else if clientId.truthy then clientId
  else .str envelope.eventId

/-- What is sent on. -/
def body (envelope : WebhookEnvelope) (receivedAt : Number) : Json :=
  .obj [("event_id", .str envelope.eventId), ("event_type", .str envelope.eventType.text),
    ("occurred_at", .str envelope.occurredAt), ("received_at", .num receivedAt),
    ("data", .obj envelope.data)]

end WebhookEnvelope

/-- What a request is answered: 202, 503 with a text, or the exception of `orjson.dumps`. -/
inductive Answer
  | accepted (eventId : String)
  | unavailable (detail : String)
  | raised (e : PyError)
  deriving DecidableEq

/-- What the environment does during one request. -/
structure RequestEnv where
  ready : Bool
  time : Number
  /-- The producer's check of a key and a value against its `max_request_size`. -/
  admits : String → ByteArray → Bool
  /-- The exception `send_and_wait` raises, if any. -/
  send : Option PyError

/-- What the receiver reads and writes: the records the producer takes to send, and its two counters. -/
structure Receiver where
  sent : List Send
  received : List EventType
  failures : ℕ

/-- `receive_webhook`; a key that is not a text has no `encode`, and a record that is too large is
refused by `send_and_wait` before it is sent. -/
def receiveWebhook (dumps : Json → Except PyError ByteArray) (env : RequestEnv)
    (envelope : WebhookEnvelope) (r : Receiver) : Answer × Receiver :=
  let unavailable : Answer := .unavailable "event broker unavailable, retry later"
  if !env.ready then (.unavailable "producer not ready", r)
  else
    match dumps (envelope.body env.time) with
    | .error e => (.raised e, r)
    | .ok value =>
      match envelope.partitionKey with
      | .str key =>
        if env.admits key value then
          match env.send with
          | none => (.accepted envelope.eventId, { r with
              sent := r.sent ++ [⟨key, value, true⟩]
              received := r.received ++ [envelope.eventType] })
          | some _ => (unavailable, { r with
              sent := r.sent ++ [⟨key, value, false⟩]
              failures := r.failures + 1 })
        else (unavailable, { r with failures := r.failures + 1 })
      | _ => (unavailable, { r with failures := r.failures + 1 })

lemma sent_of_receiveWebhook {dumps : Json → Except PyError ByteArray} {env : RequestEnv}
    {envelope : WebhookEnvelope} {r : Receiver} {send : Send}
    (h : send ∈ (receiveWebhook dumps env envelope r).2.sent) :
    send ∈ r.sent ∨ (envelope.partitionKey = .str send.key ∧
      dumps (envelope.body env.time) = .ok send.value) := by
  simp only [receiveWebhook] at h
  split_ifs at h
  · exact .inl h
  · cases hvalue : dumps (envelope.body env.time) with
    | error e =>
      rw [hvalue] at h
      exact .inl h
    | ok value =>
      simp only [hvalue] at h
      cases hkey : envelope.partitionKey with
      | str key =>
        simp only [hkey] at h
        split_ifs at h
        · split at h
          · refine (List.mem_append.mp h).imp id fun hsend => ?_
            obtain rfl := List.mem_singleton.mp hsend
            exact ⟨rfl, rfl⟩
          · refine (List.mem_append.mp h).imp id fun hsend => ?_
            obtain rfl := List.mem_singleton.mp hsend
            exact ⟨rfl, rfl⟩
        · exact .inl h
      | null =>
        rw [hkey] at h
        exact .inl h
      | bool b =>
        rw [hkey] at h
        exact .inl h
      | num n =>
        rw [hkey] at h
        exact .inl h
      | arr items =>
        rw [hkey] at h
        exact .inl h
      | obj fields =>
        rw [hkey] at h
        exact .inl h

/-! ### What is published -/

/-- `orjson` on one value: it is read back as it is written, with the integers of 64 bits, unless it is
nested deeper than the recursion limit. -/
def Serializes (loads : ByteArray → Except PyError Json) (dumps : Json → Except PyError ByteArray)
    (limit : ℕ) (v : Json) : Prop :=
  v.within64 = true →
    (v.depth ≤ limit → ∃ value, dumps v = .ok value ∧ loads value = .ok v.written) ∧
      (limit < v.depth → ∃ e, dumps v = .error e)

/-- The request is answered 202, and one message was sent and accepted, whose value decodes to the
envelope. -/
def PublishedOnce (loads : ByteArray → Except PyError Json) (envelope : WebhookEnvelope)
    (r : Receiver) (result : Answer × Receiver) : Prop :=
  result.1 = .accepted envelope.eventId ∧ ∃ send event, result.2.sent = r.sent ++ [send] ∧
    send.accepted = true ∧ loads send.value = .ok event ∧
    event.getItem "event_id" = .ok (.str envelope.eventId) ∧
    event.getItem "event_type" = .ok (.str envelope.eventType.text) ∧
    event.getItem "occurred_at" = .ok (.str envelope.occurredAt) ∧
    event.getItem "data" = .ok (.obj envelope.data)

lemma depth_body (envelope : WebhookEnvelope) (time : Number) :
    (envelope.body time).depth = (Json.obj envelope.data).depth + 1 := by
  simp [WebhookEnvelope.body, Json.depth, Json.depthFields]

/-- The producer takes the record that is made of the request. -/
def Admitted (dumps : Json → Except PyError ByteArray) (env : RequestEnv) (envelope : WebhookEnvelope)
    (key : String) : Prop :=
  ∀ value, dumps (envelope.body env.time) = .ok value → env.admits key value = true

/-- A body that `orjson` writes, for an available broker. -/
lemma receiveWebhook_eq {dumps : Json → Except PyError ByteArray} {env : RequestEnv}
    {envelope : WebhookEnvelope} {r : Receiver} {value : ByteArray} (hready : env.ready = true)
    (hsend : env.send = none) (hvalue : dumps (envelope.body env.time) = .ok value) :
    (∃ key, envelope.partitionKey = .str key ∧ Admitted dumps env envelope key ∧
      receiveWebhook dumps env envelope r =
        (.accepted envelope.eventId, { r with
          sent := r.sent ++ [⟨key, value, true⟩]
          received := r.received ++ [envelope.eventType] })) ∨
      ((∀ key, envelope.partitionKey = .str key → ¬ Admitted dumps env envelope key) ∧
        receiveWebhook dumps env envelope r =
          (.unavailable "event broker unavailable, retry later",
            { r with failures := r.failures + 1 })) := by
  simp only [receiveWebhook, hready, Bool.not_true, Bool.false_eq_true, if_false, hvalue, hsend]
  cases envelope.partitionKey with
  | str key =>
    cases hadmits : env.admits key value with
    | true =>
      refine .inl ⟨key, rfl, fun value' hvalue' => ?_, by simp only [hadmits, if_true]⟩
      rwa [← Except.ok.inj (hvalue.symm.trans hvalue')]
    | false =>
      refine .inr ⟨fun key' hkey' hall => ?_, by simp [hadmits]⟩
      obtain rfl := Json.str.inj hkey'
      exact Bool.false_ne_true (hadmits.symm.trans (hall value hvalue))
  | null => exact .inr ⟨by simp, rfl⟩
  | bool b => exact .inr ⟨by simp, rfl⟩
  | num n => exact .inr ⟨by simp, rfl⟩
  | arr items => exact .inr ⟨by simp, rfl⟩
  | obj fields => exact .inr ⟨by simp, rfl⟩

/-- What is read of a body that was written. -/
lemma written_body (envelope : WebhookEnvelope) (time : Number) :
    (envelope.body time).written = .obj [("event_id", .str envelope.eventId),
      ("event_type", .str envelope.eventType.text), ("occurred_at", .str envelope.occurredAt),
      ("received_at", (Json.num time).written), ("data", (Json.obj envelope.data).written)] := rfl

/-- With an available producer and a broker that accepts what it is sent, a validated webhook is
published, and with them unavailable alone it is answered 503, if and only if its partition key is a
text, the record is not too large for the producer, and its data have finite floats and are not nested
too deep for `orjson`. -/
theorem webhook_published_iff (loads : ByteArray → Except PyError Json)
    (dumps : Json → Except PyError ByteArray) (limit : ℕ) (env : RequestEnv)
    (envelope : WebhookEnvelope) (r : Receiver)
    (h64 : (envelope.body env.time).within64 = true)
    (horjson : Serializes loads dumps limit (envelope.body env.time)) :
    (env.ready = true → env.send = none →
        PublishedOnce loads envelope r (receiveWebhook dumps env envelope r)) ∧
      (∀ detail, (receiveWebhook dumps env envelope r).1 = .unavailable detail →
        env.ready = false ∨ env.send ≠ none) ↔
    (env.ready = true → env.send = none →
      (∃ key, envelope.partitionKey = .str key ∧ Admitted dumps env envelope key) ∧
        (Json.obj envelope.data).finite = true ∧ (Json.obj envelope.data).depth < limit) := by
  obtain ⟨hshallow, hdeep⟩ := horjson h64
  rw [depth_body] at hshallow hdeep
  rw [written_body] at hshallow
  constructor
  · rintro ⟨hpublished, -⟩ hready hsend
    obtain ⟨hanswer, send, event, hsent, -, hloads, -, -, -, hdata⟩ := hpublished hready hsend
    by_cases hlimit : (Json.obj envelope.data).depth < limit
    · obtain ⟨value, hvalue, hwritten⟩ := hshallow hlimit
      rcases receiveWebhook_eq (r := r) hready hsend hvalue with ⟨key, hkey, hadmitted, heq⟩ | ⟨-, heq⟩
      · refine ⟨⟨key, hkey, hadmitted⟩, (Json.written_eq_iff _).mp ?_, hlimit⟩
        rw [heq] at hsent
        obtain rfl := List.singleton_inj.mp (List.append_cancel_left hsent)
        obtain rfl := Except.ok.inj (hwritten.symm.trans hloads)
        exact Except.ok.inj hdata
      · rw [heq] at hanswer
        cases hanswer
    · obtain ⟨e, he⟩ := hdeep (by omega)
      simp [receiveWebhook, hready, he] at hanswer
  · intro hcond
    constructor
    · intro hready hsend
      obtain ⟨⟨key, hkey, hadmitted⟩, hfinite, hlimit⟩ := hcond hready hsend
      obtain ⟨value, hvalue, hloads⟩ := hshallow hlimit
      rw [(Json.written_eq_iff _).mpr hfinite] at hloads
      rcases receiveWebhook_eq (r := r) hready hsend hvalue with ⟨key, -, -, heq⟩ | ⟨hnot, -⟩
      · rw [heq]
        exact ⟨rfl, ⟨key, value, true⟩, _, rfl, rfl, hloads, rfl, rfl, rfl, rfl⟩
      · exact absurd hadmitted (hnot key hkey)
    · intro detail hdetail
      by_contra havailable
      obtain ⟨hready, hsend⟩ : env.ready = true ∧ env.send = none := by simpa using havailable
      obtain ⟨⟨key, hkey, hadmitted⟩, -, hlimit⟩ := hcond hready hsend
      obtain ⟨value, hvalue, -⟩ := hshallow hlimit
      rcases receiveWebhook_eq (r := r) hready hsend hvalue with ⟨key, -, -, heq⟩ | ⟨hnot, -⟩
      · rw [heq] at hdetail
        cases hdetail
      · exact hnot key hkey hadmitted

/-- A request for the event of an order, when everything is available. -/
def orderEnvelope (externalOrderId : Json) : WebhookEnvelope where
  eventId := "e1"
  eventType := .paymentConfirmed
  occurredAt := "2026-01-01T00:00:00Z"
  data := [("external_order_id", externalOrderId)]
  length_eventId := by decide

def RequestEnv.healthy : RequestEnv where
  ready := true
  time := ⟨17672256005, 1⟩
  admits _ _ := true
  send := none

/-- The body of the request. -/
def orderBody (externalOrderId : Json) : Json :=
  (orderEnvelope externalOrderId).body RequestEnv.healthy.time

lemma finite_orderBody {externalOrderId : Json} (hfinite : externalOrderId.finite = true) :
    (orderBody externalOrderId).finite = true := by
  have htime : RequestEnv.healthy.time.infinite = false := Number.infinite_of_lt (by decide)
  simp [orderBody, WebhookEnvelope.body, orderEnvelope, Json.finite, Json.finiteFields, hfinite, htime]

lemma serializes_orderBody {externalOrderId : Json} (hdepth : (orderBody externalOrderId).depth ≤ 254)
    (hfinite : externalOrderId.finite = true) :
    Serializes (Externals.rendered [orderBody externalOrderId]).loads (fun v => .ok v.render.toUTF8) 254
      (orderBody externalOrderId) := by
  refine fun _ => ⟨fun _ => ⟨_, rfl, ?_⟩, fun hdeep => absurd hdepth (Nat.not_le_of_lt hdeep)⟩
  simp only [Externals.rendered, Externals.reading, fromUTF8?_toUTF8, Option.bind_some,
    List.map_cons, List.map_nil, lookup_head,
    (Json.written_eq_iff _).mpr (finite_orderBody hfinite)]

/-- The event of an order with a textual id is published. -/
theorem webhook_published_text :
    PublishedOnce (Externals.rendered [orderBody (.str "ORD-1")]).loads (orderEnvelope (.str "ORD-1"))
      ⟨[], [], 0⟩ (receiveWebhook (fun v => .ok v.render.toUTF8) .healthy
        (orderEnvelope (.str "ORD-1")) ⟨[], [], 0⟩) :=
  ((webhook_published_iff (Externals.rendered [orderBody (.str "ORD-1")]).loads
    (fun v => .ok v.render.toUTF8) 254 .healthy (orderEnvelope (.str "ORD-1")) ⟨[], [], 0⟩ (by decide)
    (serializes_orderBody (by decide) rfl)).mpr fun _ _ => ⟨⟨"ORD-1", rfl, fun _ _ => rfl⟩, rfl,
      by decide⟩).1 rfl rfl

/-- The event of an order with a numeric id is not published, and is answered 503 although producer
and broker are available. -/
theorem webhook_numeric_key :
    let result := receiveWebhook (fun v => .ok v.render.toUTF8) .healthy (orderEnvelope (.int 7))
      ⟨[], [], 0⟩
    RequestEnv.healthy.ready = true ∧ RequestEnv.healthy.send = none ∧
      (orderBody (.int 7)).within64 = true ∧
      Serializes (Externals.rendered [orderBody (.int 7)]).loads (fun v => .ok v.render.toUTF8) 254
        (orderBody (.int 7)) ∧
      result.1 = .unavailable "event broker unavailable, retry later" ∧ result.2.sent = [] :=
  ⟨rfl, rfl, by decide, serializes_orderBody (by decide) rfl, rfl, rfl⟩

/-! ### Partitions -/

variable {ext : Externals} {dumps : Json → Except PyError ByteArray} {partitioner : String → ℕ}
  {p : ℕ} {msg : Message} {o : String}

/-- The message is a record a receiver sent, in the partition of its key, and `orjson` reads
what it wrote. -/
def Published (ext : Externals) (dumps : Json → Except PyError ByteArray)
    (partitioner : String → ℕ) (p : ℕ) (msg : Message) : Prop :=
  ∃ env envelope, ∃ send ∈ (receiveWebhook dumps env envelope ⟨[], [], 0⟩).2.sent,
    send.value = msg.value ∧ p = partitioner send.key ∧
      ext.loads msg.value = .ok (envelope.body env.time)

/-- The event of the message names the order `o`. -/
def Message.names (ext : Externals) (o : String) (msg : Message) : Bool :=
  match decodeEvent ext msg.value with
  | .error _ => false
  | .ok (event, _) =>
    match event.getItem "data" with
    | .error _ => false
    | .ok data =>
      match data.getItem "external_order_id" with
      | .error _ => false
      | .ok v => v.isText o

lemma Message.names_iff : msg.names ext o = true ↔
    ∃ event eventId data, decodeEvent ext msg.value = .ok (event, eventId) ∧
      event.getItem "data" = .ok data ∧ data.getItem "external_order_id" = .ok (.str o) := by
  unfold Message.names
  constructor
  · intro h
    split at h
    · cases h
    · rename_i event eventId hdec
      split at h
      · cases h
      · rename_i data hdata
        split at h
        · cases h
        · rename_i v hv
          obtain rfl := Json.isText_iff.mp h
          exact ⟨event, eventId, data, hdec, hdata, hv⟩
  · rintro ⟨event, eventId, data, hdec, hdata, hv⟩
    simp [hdec, hdata, hv]

lemma loads_of_decodeEvent {value : ByteArray} {event eventId : Json}
    (h : decodeEvent ext value = .ok (event, eventId)) : ext.loads value = .ok event := by
  simp only [decodeEvent, bind_eq_ok, Except.ok.injEq, Prod.mk.injEq] at h
  obtain ⟨_, hloads, _, -, rfl, -⟩ := h
  exact hloads

/-- All events that name one order are published to one partition. -/
theorem Published.partition_eq (h : Published ext dumps partitioner p msg)
    (hnames : msg.names ext o = true) (ho : o ≠ "") : p = partitioner o := by
  obtain ⟨env, envelope, send, hsend, -, rfl, hloads⟩ := h
  obtain ⟨event, eventId, data, hdec, hdata, hv⟩ := Message.names_iff.mp hnames
  obtain hsend | ⟨hkey, -⟩ := sent_of_receiveWebhook hsend
  · cases hsend
  have hevent : event = envelope.body env.time :=
    Except.ok.inj ((loads_of_decodeEvent hdec).symm.trans hloads)
  have hfields : data = .obj envelope.data := by
    rw [hevent] at hdata
    exact (Except.ok.inj hdata).symm
  subst hfields
  have hlookup : envelope.data.lookup "external_order_id" = some (.str o) := by
    obtain ⟨fields, hobj, hlookup⟩ := Json.getItem_ok hv
    cases hobj
    exact hlookup
  have htruthy : (Json.str o).truthy = true := by simpa [Json.truthy] using ho
  simp only [WebhookEnvelope.partitionKey, hlookup, Option.getD_some, htruthy, if_true] at hkey
  cases hkey
  rfl

end EventPipeline

import EventPipeline.Library.Local
import EventPipeline.Library.Simulation
import EventPipeline.Shop

/-!
# The rows an event is about

An event names a client, an order, a payment or an invoice by external ids, and `Shop.event` reads
and writes the rows under these ids alone. With rows hidden that the server tells from every id of
the event, it does the same to the rest (`Shop.event_hide`); and it leaves everything but the rows
it names as it is (`Shop.event_unseen`).
-/

namespace EventPipeline

open Transaction

variable {sql : SqlServer}

/-! ### Ids -/

/-- What an event can name by an external id. -/
inductive Kind
  | event
  | client
  | order
  | payment
  | invoice
  deriving DecidableEq

namespace SqlServer

variable (sql)

/-- `x` is a text by which `v` finds a row. -/
def Matches (v : Json) (x : String) : Prop :=
  ∃ column, sql.compare column v x = .ok true

/-- `x` is a text by which `v` finds a row, or under which it stores one. -/
def Names (v : Json) (x : String) : Prop :=
  sql.Matches v x ∨
    ∃ (n : ℕ) (t : Varchar n), sql.TextOf v t ∧ sql.same t.text x = true

/-- The server can compare `v` with `x`, and finds them different. -/
def Tells (v : Json) (x : String) : Prop :=
  (∀ column, sql.compare column v x = .ok false) ∧
    ∀ (n : ℕ) (t : Varchar n), sql.TextOf v t → sql.same t.text x = false

/-- `v` is told from every text of a set. -/
def Clear (v : Json) (p : String → Bool) : Prop :=
  ∀ x, p x = true → sql.Tells v x

/-- Every text `v` names is in a set. -/
def Within (v : Json) (p : String → Bool) : Prop :=
  ∀ x, sql.Names v x → p x = true

variable {sql} {v : Json} {p : String → Bool} {n : ℕ} {column : String}

lemma names_of_textOf {t : Varchar n} (ht : sql.TextOf v t) : sql.Names v t.text :=
  .inr ⟨n, t, ht, sql.same_refl _⟩

lemma names_of_compare {x : String} (hx : sql.compare column v x = .ok true) : sql.Names v x :=
  .inl ⟨column, hx⟩

lemma Clear.compare (h : sql.Clear v p) {x : String} (hx : (!p x) = false) :
    sql.compare column v x = .ok false :=
  (h x (by simpa using hx)).1 column

lemma Clear.same (h : sql.Clear v p) {t : Varchar n} (ht : sql.TextOf v t) {x : String}
    (hx : (!p x) = false) : sql.same t.text x = false :=
  (h x (by simpa using hx)).2 n t ht

/-- What `v` names is not in the set. -/
lemma Clear.of_names (h : sql.Clear v p) {x : String} (hx : sql.Names v x) : p x = false := by
  by_contra hp
  obtain ⟨hcompare, hsame⟩ := h x (by simpa using hp)
  rcases hx with ⟨column, hx⟩ | ⟨n, t, ht, hx⟩
  · rw [hcompare column] at hx
    cases hx
  · rw [hsame n t ht] at hx
    cases hx

end SqlServer

/-- The types of event that name an order. -/
def orderEvents : List String :=
  ["ORDER_CREATED", "ORDER_STATUS_CHANGED", "PAYMENT_CONFIRMED", "INVOICE_ISSUED"]

/-- The ids in the payload of an event, where its branch of `process_event` reads them. -/
def payloadId (eventType data : Json) : Kind → Option Json
  | .event => none
  | .client =>
    if eventType.isText "ORDER_CREATED" then
      ((data.getItem "client").bind (·.getItem "external_client_id")).toOption
    else none
  | .order =>
    if orderEvents.any eventType.isText then (data.getItem "external_order_id").toOption else none
  | .payment =>
    if eventType.isText "PAYMENT_CONFIRMED" then (data.getItem "external_payment_id").toOption
    else none
  | .invoice =>
    if eventType.isText "INVOICE_ISSUED" then (data.getItem "external_invoice_id").toOption
    else none

/-- The ids of an event, by what they name. -/
def idOf (event : Json) : Kind → Option Json
  | .event => (event.getItem "event_id").toOption
  | kind => do
    let eventType ← (event.getItem "event_type").toOption
    let data ← (event.getItem "data").toOption
    payloadId eventType data kind

/-- A set of external ids of every kind, as the texts they are stored as. -/
abbrev Footprint := Kind → String → Bool

namespace Shop

variable {F : Footprint} {v eventId eventType data : Json} {s : Shop}

/-- What is left without the rows about the ids of `F`. -/
def hide (F : Footprint) (s : Shop) : Shop where
  clients := s.clients.filter fun c => !F .client c.ext.text
  address := s.address.filter fun a => !a.client.any (F .client ·.text)
  orders := s.orders.filter fun o => !F .order o.ext.text
  items := s.items.filter fun i => !i.order.any (F .order ·.text)
  history := s.history.filter fun h => !h.order.any (F .order ·.text)
  payments := s.payments.filter fun p => !F .payment p.ext.text
  invoices := s.invoices.filter fun i => !F .invoice i.ext.text
  ledger := s.ledger.filter fun e => !F .event e.eventId.text

/-! ### Hidden rows -/

lemma claim_hide (h : sql.Clear eventId (F .event)) :
    claim sql eventId eventType (s.hide F) = (claim sql eventId eventType s).map (hide F) := by
  unfold claim
  split_ifs
  · cases hid : sql.text 100 "event_id" eventId with
    | error e => rfl
    | ok id =>
      have htext := sql.text_eq_ok.mp hid
      have hany : (s.hide F).ledger.any (fun e => sql.same id.text e.eventId.text) =
          s.ledger.any fun e => sql.same id.text e.eventId.text :=
        any_filter_of fun e _ he => h.same htext he
      cases sql.text 50 "event_type" eventType with
      | error e => rfl
      | ok type =>
        simp only [Except.toOption, Option.bind_eq_bind, Option.bind_some, hany]
        split_ifs
        · rfl
        · simp [hide, h.of_names (sql.names_of_textOf htext)]
  · rfl

lemma mark_hide (h : sql.Clear eventId (F .event)) :
    mark sql eventId (s.hide F) = (mark sql eventId s).map (hide F) := by
  have hselect : selectRows (ledgerNamed sql eventId) (s.hide F).ledger =
      selectRows (ledgerNamed sql eventId) s.ledger :=
    selectRows_filter fun e _ he => h.compare he
  unfold mark
  split_ifs
  · rw [hselect]
    cases selectRows (ledgerNamed sql eventId) s.ledger with
    | error e => rfl
    | ok rows =>
      refine congrArg some (congrArg (fun ledger => { s.hide F with ledger }) ?_)
      refine (filter_update _ ?_ s.ledger).symm
      exact fun _ => rfl
  · rfl

/-- The result of an operation together with what it leaves, without the hidden rows. -/
abbrev hidden {β : Type} (F : Footprint) : β × Shop → β × Shop :=
  Prod.map id (hide F)

lemma newClient_hide (h : sql.Clear v (F .client)) :
    newClient sql v (s.hide F) = newClient sql v s := by
  unfold newClient
  cases hext : sql.text 64 "external_client_id" v with
  | error e => rfl
  | ok ext =>
    have hany : (s.hide F).clients.any (fun c => sql.same ext.text c.ext.text) =
        s.clients.any fun c => sql.same ext.text c.ext.text :=
      any_filter_of fun c _ hc => h.same (sql.text_eq_ok.mp hext) hc
    simp only [Except.toOption, Option.bind_eq_bind, Option.bind_some, hany]

lemma newClient_names {ext : Varchar 64} (h : newClient sql v s = some ext) :
    sql.Names v ext.text := by
  simp only [newClient, Option.bind_eq_bind, Option.bind_eq_some_iff, toOption_eq_some,
    Option.ite_none_left_eq_some, Option.some.injEq] at h
  obtain ⟨ext, hext, -, rfl⟩ := h
  exact sql.names_of_textOf (sql.text_eq_ok.mp hext)

lemma mergeClient_hide {p : ClientParams} (h : sql.Clear p.externalClientId (F .client)) :
    mergeClient sql p (s.hide F) = (mergeClient sql p s).map (hidden F) := by
  have hselect : selectRows (clientNamed sql p.externalClientId) (s.hide F).clients =
      selectRows (clientNamed sql p.externalClientId) s.clients :=
    selectRows_filter fun c _ hc => h.compare hc
  unfold mergeClient
  split_ifs
  · rw [hselect]
    refine bind_congr_map fun named _ => bind_congr_map fun name _ => bind_congr_map fun email _ =>
      bind_congr_map fun document _ => ?_
    cases named with
    | nil =>
      simp only [newClient_hide h]
      refine bind_congr_map fun ext hext => ?_
      simp [hide, h.of_names (newClient_names hext)]
    | cons c rest =>
      refine congrArg (fun clients => some (c.ext, { s.hide F with clients })) ?_
      refine (filter_update _ ?_ s.clients).symm
      exact fun _ => rfl
  · rfl

lemma mergeClient_names {p : ClientParams} {r : Varchar 64 × Shop}
    (h : mergeClient sql p s = some r) : sql.Names p.externalClientId r.1.text := by
  simp only [mergeClient, Option.ite_none_right_eq_some, Option.bind_eq_bind,
    Option.bind_eq_some_iff, toOption_eq_some] at h
  obtain ⟨-, named, hnamed, name, -, email, -, document, -, h⟩ := h
  cases named with
  | nil =>
    obtain ⟨ext, hext, h⟩ := Option.bind_eq_some_iff.mp h
    cases h
    exact newClient_names hext
  | cons c rest =>
    cases h
    have hmem : c ∈ s.clients.filter fun c => holds (clientNamed sql p.externalClientId c) :=
      (selectRows_eq_ok.mp hnamed).2 ▸ List.mem_cons_self
    exact sql.names_of_compare (holds_iff.mp (List.mem_filter.mp hmem).2)

variable {client order : Varchar 64}

lemma addressOf_hide {client : Option (Varchar 64)}
    (hclient : ∀ c, client = some c → F .client c.text = false) :
    ((s.hide F).address.filter fun a => a.client = client) =
      s.address.filter fun a => a.client = client := by
  simp only [hide, List.filter_filter]
  refine List.filter_congr fun a _ => ?_
  by_cases ha : a.client = client
  · cases hc : client with
    | none => simp [ha, hc]
    | some c => simp [ha, hc, hclient c hc]
  · simp [ha]

lemma insertAddress_hide (hclient : F .client client.text = false) {ext : Json}
    {content : AddressField → Json} :
    insertAddress sql client ext content (s.hide F) =
      (insertAddress sql client ext content s).map (hidden F) := by
  unfold insertAddress
  split_ifs
  · refine bind_congr_map fun ext _ => bind_congr_map fun content _ => ?_
    have hany : ((s.hide F).address.any fun a => a.isCurrent && a.client = some client &&
          sql.same ext.text a.ext.text) =
        s.address.any fun a => a.isCurrent && a.client = some client &&
          sql.same ext.text a.ext.text := by
      refine any_filter_of fun a _ ha => ?_
      have hne : a.client ≠ some client := by
        rintro heq
        simp [heq, hclient] at ha
      simp [hne]
    rw [hany]
    split_ifs
    · rfl
    · simp [hide, hclient]
  · rfl

lemma expire_hide (a : AddressInfo) : (s.hide F).expire a = (s.expire a).hide F := by
  refine congrArg (fun address => { s.hide F with address }) ?_
  refine (filter_map_of (fun a' => ?_) s.address).symm
  split_ifs <;> rfl

lemma upsertAddress_hide (hclient : F .client client.text = false) {address : Json} :
    upsertAddress sql client address (s.hide F) =
      (upsertAddress sql client address s).map (hidden F) := by
  have hversions : ∀ ext, currentVersions sql client ext (s.hide F) =
      currentVersions sql client ext s := fun ext => by
    have haddress := @addressOf_hide F s (some client) (by simpa using hclient)
    simp only [currentVersions, haddress]
  unfold upsertAddress
  refine bind_congr_map fun ext _ => ?_
  rw [hversions]
  refine bind_congr_map fun versions _ => ?_
  cases versions with
  | nil => exact insertAddress_hide hclient
  | cons a rest =>
    simp only
    split_ifs
    · rfl
    · rw [expire_hide]
      exact insertAddress_hide hclient

lemma insertOrder_hide {address : AddressKey} {v data : Json}
    (hv : data.getItem "external_order_id" = .ok v) (h : sql.Clear v (F .order)) :
    insertOrder sql client address data (s.hide F) =
      (insertOrder sql client address data s).map (hidden F) := by
  unfold insertOrder
  refine bind_congr_map fun p hp => ?_
  obtain rfl : p.externalOrderId = v := by
    simp only [toOption_eq_some, orderParams, bind_eq_ok, hv, Except.ok.injEq] at hp
    obtain ⟨_, rfl, _, -, _, -, _, -, rfl⟩ := hp
    rfl
  unfold addOrder
  split_ifs
  · refine bind_congr_map fun ext hext => bind_congr_map fun total _ => bind_congr_map fun currency _ =>
      bind_congr_map fun date _ => ?_
    have htext := sql.text_eq_ok.mp (toOption_eq_some.mp hext)
    have hany : ((s.hide F).orders.any fun o => sql.same ext.text o.ext.text) =
        s.orders.any fun o => sql.same ext.text o.ext.text :=
      any_filter_of fun o _ ho => h.same htext ho
    rw [hany]
    split_ifs
    · rfl
    · simp [hide, h.of_names (sql.names_of_textOf htext)]
  · rfl

lemma insertOrder_named {address : AddressKey} {data : Json} {r : Varchar 64 × Shop}
    (h : insertOrder sql client address data s = some r) :
    ∃ v, data.getItem "external_order_id" = .ok v ∧ sql.Names v r.1.text := by
  simp only [insertOrder, addOrder, orderParams, Option.ite_none_right_eq_some,
    Option.ite_none_left_eq_some, Option.bind_eq_bind, Option.bind_eq_some_iff, toOption_eq_some,
    bind_eq_ok, Except.ok.injEq] at h
  obtain ⟨_, ⟨v, hv, _, -, _, -, _, -, rfl⟩, -, ext, hext, _, -, _, -, _, -, -, h⟩ := h
  cases h
  exact ⟨v, hv, sql.names_of_textOf (sql.text_eq_ok.mp hext)⟩

lemma insertItems_hide (horder : F .order order.text = false) {items : Json} :
    insertItems sql order items (s.hide F) = (insertItems sql order items s).map (hide F) := by
  unfold insertItems
  split_ifs
  · refine bind_congr_map fun mappings _ => ?_
    split_ifs
    · refine bind_congr_map fun rows hrows => ?_
      have hshown : rows.filter (fun i => !i.order.any (F .order ·.text)) = rows := by
        refine List.filter_eq_self.mpr fun i hi => ?_
        obtain ⟨item, -, hitem⟩ := exists_of_mem_right (collect_eq_ok.mp (toOption_eq_some.mp hrows)) hi
        simp only [itemInfo, bind_eq_ok, Except.ok.injEq] at hitem
        obtain ⟨_, -, _, -, _, -, _, -, _, -, _, -, _, -, _, -, rfl⟩ := hitem
        simp [horder]
      simp [hide, hshown]
    · rfl
  · rfl

lemma recordHistory_hide (horder : F .order order.text = false) {previous : Option (Varchar 20)}
    {new source : Json} : recordHistory sql order previous new source (s.hide F) =
      (recordHistory sql order previous new source s).map (hide F) := by
  unfold recordHistory
  split_ifs
  · refine bind_congr_map fun new _ => bind_congr_map fun source _ => ?_
    simp [hide, horder]
  · rfl

lemma ordersNamed_hide (h : sql.Clear v (F .order)) :
    selectRows (orderNamed sql v) (s.hide F).orders = selectRows (orderNamed sql v) s.orders :=
  selectRows_filter fun _ _ ho => h.compare ho

lemma names_of_mem {o : OrderInfo} {named : List OrderInfo}
    (h : selectRows (orderNamed sql v) s.orders = .ok named) (ho : o ∈ named) :
    sql.Names v o.ext.text := by
  rw [(selectRows_eq_ok.mp h).2] at ho
  exact sql.names_of_compare (holds_iff.mp (List.mem_filter.mp ho).2)

lemma updateOrder_hide {newStatus : Json} (h : sql.Clear v (F .order)) :
    updateOrder sql v newStatus (s.hide F) = (updateOrder sql v newStatus s).map (hidden F) := by
  unfold updateOrder
  split_ifs
  · rw [ordersNamed_hide h]
    refine bind_congr_map fun named hnamed => ?_
    cases named with
    | nil => rfl
    | cons o rest =>
      refine bind_congr_map fun closing _ => bind_congr_map fun status _ => ?_
      split_ifs
      · rfl
      · refine congrArg (fun orders => some (some (o.ext, o.status), { s.hide F with orders })) ?_
        refine (filter_update _ ?_ s.orders).symm
        exact fun _ => rfl
  · rfl

lemma updateOrder_names {newStatus : Json} {r : Varchar 64 × Varchar 20} {t : Shop}
    (h : updateOrder sql v newStatus s = some (some r, t)) : sql.Names v r.1.text := by
  simp only [updateOrder, Option.ite_none_right_eq_some, Option.bind_eq_bind,
    Option.bind_eq_some_iff, toOption_eq_some] at h
  obtain ⟨-, named, hnamed, h⟩ := h
  cases named with
  | nil => cases h
  | cons o rest =>
    simp only [Option.bind_eq_some_iff, Option.ite_none_left_eq_some] at h
    obtain ⟨_, -, _, -, -, h⟩ := h
    cases h
    exact names_of_mem hnamed List.mem_cons_self

lemma resolveOrder_hide (h : sql.Clear v (F .order)) :
    resolveOrder sql v (s.hide F) = resolveOrder sql v s := by
  unfold resolveOrder
  rw [ordersNamed_hide h]

lemma newPayment_hide {p : PaymentParams} (h : sql.Clear p.externalPaymentId (F .payment)) :
    newPayment sql p (s.hide F) = newPayment sql p s := by
  unfold newPayment
  cases hext : sql.text 64 "external_payment_id" p.externalPaymentId with
  | error e => rfl
  | ok ext =>
    have hany : (s.hide F).payments.any (fun q => sql.same ext.text q.ext.text) =
        s.payments.any fun q => sql.same ext.text q.ext.text :=
      any_filter_of fun q _ hq => h.same (sql.text_eq_ok.mp hext) hq
    simp only [Except.toOption, Option.bind_eq_bind, Option.bind_some, hany]

lemma newPayment_names {p : PaymentParams} {r : Varchar 64 × Varchar 30}
    (h : newPayment sql p s = some r) : sql.Names p.externalPaymentId r.1.text := by
  simp only [newPayment, Option.bind_eq_bind, Option.bind_eq_some_iff, toOption_eq_some,
    Option.ite_none_left_eq_some] at h
  obtain ⟨ext, hext, _, -, -, h⟩ := h
  cases h
  exact sql.names_of_textOf (sql.text_eq_ok.mp hext)

lemma mergePayment_hide {p : PaymentParams} (h : sql.Clear p.externalPaymentId (F .payment)) :
    mergePayment sql order p (s.hide F) = (mergePayment sql order p s).map (hide F) := by
  have hselect : selectRows (paymentNamed sql p.externalPaymentId) (s.hide F).payments =
      selectRows (paymentNamed sql p.externalPaymentId) s.payments :=
    selectRows_filter fun q _ hq => h.compare hq
  unfold mergePayment
  split_ifs
  · rw [hselect]
    refine bind_congr_map fun named _ => bind_congr_map fun status _ => bind_congr_map fun amount _ =>
      bind_congr_map fun paidAt _ => ?_
    split_ifs
    · rw [newPayment_hide h]
      refine bind_congr_map fun r hr => ?_
      simp [hide, h.of_names (newPayment_names hr)]
    · refine congrArg (fun payments => some { s.hide F with payments }) ?_
      refine (filter_update _ ?_ s.payments).symm
      exact fun _ => rfl
  · rfl

lemma newInvoice_hide {p : InvoiceParams} (h : sql.Clear p.externalInvoiceId (F .invoice)) :
    newInvoice sql p (s.hide F) = newInvoice sql p s := by
  unfold newInvoice
  cases hext : sql.text 64 "external_invoice_id" p.externalInvoiceId with
  | error e => rfl
  | ok ext =>
    have hany : (s.hide F).invoices.any (fun i => sql.same ext.text i.ext.text) =
        s.invoices.any fun i => sql.same ext.text i.ext.text :=
      any_filter_of fun i _ hi => h.same (sql.text_eq_ok.mp hext) hi
    simp only [Except.toOption, Option.bind_eq_bind, Option.bind_some, hany]

lemma newInvoice_names {p : InvoiceParams} {r : Varchar 64 × Varchar 50 × Int}
    (h : newInvoice sql p s = some r) : sql.Names p.externalInvoiceId r.1.text := by
  simp only [newInvoice, Option.bind_eq_bind, Option.bind_eq_some_iff, toOption_eq_some,
    Option.ite_none_left_eq_some] at h
  obtain ⟨ext, hext, _, -, _, -, -, h⟩ := h
  cases h
  exact sql.names_of_textOf (sql.text_eq_ok.mp hext)

lemma mergeInvoice_hide {p : InvoiceParams} (h : sql.Clear p.externalInvoiceId (F .invoice)) :
    mergeInvoice sql order p (s.hide F) = (mergeInvoice sql order p s).map (hide F) := by
  have hselect : selectRows (invoiceNamed sql p.externalInvoiceId) (s.hide F).invoices =
      selectRows (invoiceNamed sql p.externalInvoiceId) s.invoices :=
    selectRows_filter fun i _ hi => h.compare hi
  unfold mergeInvoice
  split_ifs
  · rw [hselect]
    refine bind_congr_map fun named _ => bind_congr_map fun status _ => bind_congr_map fun amount _ =>
      bind_congr_map fun pdfUrl _ => ?_
    split_ifs
    · rw [newInvoice_hide h]
      refine bind_congr_map fun r hr => ?_
      simp [hide, h.of_names (newInvoice_names hr)]
    · refine congrArg (fun invoices => some { s.hide F with invoices }) ?_
      refine (filter_update _ ?_ s.invoices).symm
      exact fun _ => rfl
  · rfl

/-! ### Events and hidden rows -/

lemma upsertClient_hide {client v : Json} (hv : client.getItem "external_client_id" = .ok v)
    (h : sql.Clear v (F .client)) :
    upsertClient sql client (s.hide F) = (upsertClient sql client s).map (hidden F) := by
  refine bind_congr_map fun p hp => mergeClient_hide ?_
  simp only [toOption_eq_some, clientParams, bind_eq_ok, hv, Except.ok.injEq] at hp
  obtain ⟨_, rfl, _, -, _, -, _, -, rfl⟩ := hp
  exact h

lemma upsertClient_names {client : Json} {r : Varchar 64 × Shop}
    (h : upsertClient sql client s = some r) :
    ∃ v, client.getItem "external_client_id" = .ok v ∧ sql.Names v r.1.text := by
  obtain ⟨p, hp, h⟩ := Option.bind_eq_some_iff.mp h
  simp only [toOption_eq_some, clientParams, bind_eq_ok, Except.ok.injEq] at hp
  obtain ⟨v, hv, _, -, _, -, _, -, rfl⟩ := hp
  exact ⟨v, hv, mergeClient_names h⟩

lemma orderCreated_hide
    (hclient : ∀ client v, data.getItem "client" = .ok client →
      client.getItem "external_client_id" = .ok v → sql.Clear v (F .client))
    (horder : ∀ v, data.getItem "external_order_id" = .ok v → sql.Clear v (F .order)) :
    orderCreated sql eventId data (s.hide F) = (orderCreated sql eventId data s).map (hide F) := by
  refine bind_congr_map fun client hc => ?_
  have hc := toOption_eq_some.mp hc
  cases hv : client.getItem "external_client_id" with
  | error e =>
    have hnone : ∀ s, upsertClient sql client s = none := fun s => by
      simp [upsertClient, clientParams, hv, Except.toOption, bind, Except.bind]
    rw [hnone, hnone]
    rfl
  | ok v =>
    refine bind_eq_map (upsertClient_hide hv (hclient client v hc hv)) fun r hr => ?_
    obtain ⟨v', hv', hnames⟩ := upsertClient_names hr
    have hkey := (hclient client v' hc hv').of_names hnames
    refine bind_congr_map fun address _ => ?_
    refine bind_eq_map (upsertAddress_hide hkey) fun r₂ _ => ?_
    cases ho : data.getItem "external_order_id" with
    | error e =>
      have hnone : ∀ s, insertOrder sql r.1 r₂.1 data s = none := fun s => by
        simp [insertOrder, orderParams, ho, Except.toOption, bind, Except.bind]
      simp only [Prod.map, id, hnone]
      rfl
    | ok o =>
      refine bind_eq_map (insertOrder_hide ho (horder o ho)) fun r₃ hr₃ => ?_
      obtain ⟨o', ho', hnames'⟩ := insertOrder_named hr₃
      have horder' := (horder o' ho').of_names hnames'
      refine bind_congr_map fun items _ => ?_
      refine bind_eq_map (insertItems_hide horder') fun s₄ _ => ?_
      exact recordHistory_hide horder'

lemma orderStatusChanged_hide
    (horder : ∀ v, data.getItem "external_order_id" = .ok v → sql.Clear v (F .order)) :
    orderStatusChanged sql eventId data (s.hide F) =
      (orderStatusChanged sql eventId data s).map (hide F) := by
  refine bind_congr_map fun ext hext => bind_congr_map fun newStatus _ => ?_
  have hclear := horder ext (toOption_eq_some.mp hext)
  refine bind_eq_map (updateOrder_hide hclear) fun r hr => ?_
  obtain ⟨o, s₁⟩ := r
  cases o with
  | none => rfl
  | some o => exact recordHistory_hide (hclear.of_names (updateOrder_names hr))

lemma paymentConfirmed_hide
    (horder : ∀ v, data.getItem "external_order_id" = .ok v → sql.Clear v (F .order))
    (hpayment : ∀ v, data.getItem "external_payment_id" = .ok v → sql.Clear v (F .payment)) :
    paymentConfirmed sql data (s.hide F) = (paymentConfirmed sql data s).map (hide F) := by
  refine bind_congr_map fun ext hext => ?_
  rw [resolveOrder_hide (horder ext (toOption_eq_some.mp hext))]
  refine bind_congr_map fun o _ => ?_
  cases o with
  | none => rfl
  | some order =>
    refine bind_congr_map fun p hp => mergePayment_hide (hpayment _ ?_)
    simp only [toOption_eq_some, paymentParams, bind_eq_ok, Except.ok.injEq] at hp
    obtain ⟨v, hv, _, -, _, -, _, -, _, -, rfl⟩ := hp
    exact hv

lemma invoiceIssued_hide
    (horder : ∀ v, data.getItem "external_order_id" = .ok v → sql.Clear v (F .order))
    (hinvoice : ∀ v, data.getItem "external_invoice_id" = .ok v → sql.Clear v (F .invoice)) :
    invoiceIssued sql data (s.hide F) = (invoiceIssued sql data s).map (hide F) := by
  refine bind_congr_map fun ext hext => ?_
  rw [resolveOrder_hide (horder ext (toOption_eq_some.mp hext))]
  refine bind_congr_map fun o _ => ?_
  cases o with
  | none => rfl
  | some order =>
    refine bind_congr_map fun p hp => mergeInvoice_hide (hinvoice _ ?_)
    simp only [toOption_eq_some, invoiceParams, bind_eq_ok, Except.ok.injEq] at hp
    obtain ⟨v, hv, _, -, _, -, _, -, _, -, _, -, rfl⟩ := hp
    exact hv

lemma effect_hide (h : ∀ kind v, payloadId eventType data kind = some v → sql.Clear v (F kind)) :
    effect sql eventId eventType data (s.hide F) =
      (effect sql eventId eventType data s).map (hide F) := by
  have horder : orderEvents.any eventType.isText = true →
      ∀ v, data.getItem "external_order_id" = .ok v → sql.Clear v (F .order) := by
    intro htype v hv
    exact h .order v (by simp [payloadId, htype, hv, Except.toOption])
  unfold effect
  split_ifs with hcreated hchanged hpaid hinvoiced
  · refine orderCreated_hide (fun client v hc hv => h .client v ?_)
      (horder (by simp [orderEvents, hcreated]))
    simp [payloadId, hcreated, hc, hv, Except.bind, Except.toOption]
  · exact orderStatusChanged_hide (horder (by simp [orderEvents, hchanged]))
  · refine paymentConfirmed_hide (horder (by simp [orderEvents, hpaid])) fun v hv => h .payment v ?_
    simp [payloadId, hpaid, hv, Except.toOption]
  · refine invoiceIssued_hide (horder (by simp [orderEvents, hinvoiced])) fun v hv =>
      h .invoice v ?_
    simp [payloadId, hinvoiced, hv, Except.toOption]
  · rfl

/-- With rows hidden that the server tells from every id of the event, the event does the same to
the others. -/
theorem event_hide {event : Json} (hid : event.getItem "event_id" = .ok eventId)
    (h : ∀ kind v, idOf event kind = some v → sql.Clear v (F kind)) :
    Shop.event sql event eventId (s.hide F) = (Shop.event sql event eventId s).map (hide F) := by
  have hclear : sql.Clear eventId (F .event) := h .event eventId (by simp [idOf, hid, Except.toOption])
  refine bind_eq_map ?_ fun s₁ _ => mark_hide hclear
  refine bind_congr_map fun id hid' => bind_congr_map fun eventType htype =>
    bind_congr_map fun data hdata => ?_
  obtain rfl : eventId = id := Except.ok.inj (hid.symm.trans (toOption_eq_some.mp hid'))
  refine bind_eq_map (claim_hide hclear) fun s₁ _ => effect_hide fun kind v hv => h kind v ?_
  cases kind with
  | event => cases hv
  | _ => simp [idOf, htype, hdata, hv]

/-! ### What an event does not name -/

variable {s' : Shop}

lemma claim_unseen (h : sql.Within eventId (F .event)) (hs : claim sql eventId eventType s = some s') :
    s'.hide F = s.hide F := by
  simp only [claim, Option.ite_none_right_eq_some, Option.ite_none_left_eq_some,
    Option.bind_eq_bind, Option.bind_eq_some_iff, toOption_eq_some] at hs
  obtain ⟨-, id, hid, type, -, -, hs⟩ := hs
  cases hs
  simp [hide, h _ (sql.names_of_textOf (sql.text_eq_ok.mp hid))]

lemma mark_unseen (h : sql.Within eventId (F .event)) (hs : mark sql eventId s = some s') :
    s'.hide F = s.hide F := by
  simp only [mark, Option.ite_none_right_eq_some, Option.bind_eq_bind, Option.bind_eq_some_iff] at hs
  obtain ⟨-, _, -, hs⟩ := hs
  cases hs
  refine congrArg (fun ledger => { s.hide F with ledger })
    (filter_update_hidden ?_ (fun e hmatch => ?_) _)
  · exact fun _ => rfl
  · simp [h _ (sql.names_of_compare hmatch)]

lemma mergeClient_unseen {p : ClientParams} (h : sql.Within p.externalClientId (F .client))
    {r : Varchar 64 × Shop} (hs : mergeClient sql p s = some r) : r.2.hide F = s.hide F := by
  simp only [mergeClient, Option.ite_none_right_eq_some, Option.bind_eq_bind,
    Option.bind_eq_some_iff] at hs
  obtain ⟨-, named, -, name, -, email, -, document, -, hs⟩ := hs
  cases named with
  | nil =>
    obtain ⟨ext, hext, hs⟩ := Option.bind_eq_some_iff.mp hs
    cases hs
    simp [hide, h _ (newClient_names hext)]
  | cons c rest =>
    cases hs
    refine congrArg (fun clients => { s.hide F with clients })
      (filter_update_hidden ?_ (fun c hmatch => ?_) _)
    · exact fun _ => rfl
    · simp [h _ (sql.names_of_compare hmatch)]

lemma insertAddress_unseen (hclient : F .client client.text = true) {ext : Json}
    {content : AddressField → Json} {r : AddressKey × Shop}
    (hs : insertAddress sql client ext content s = some r) : r.2.hide F = s.hide F := by
  simp only [insertAddress, Option.ite_none_right_eq_some, Option.ite_none_left_eq_some,
    Option.bind_eq_bind, Option.bind_eq_some_iff] at hs
  obtain ⟨-, ext, -, content, -, -, hs⟩ := hs
  cases hs
  simp [hide, hclient]

lemma upsertAddress_unseen (hclient : F .client client.text = true) {address : Json}
    {r : AddressKey × Shop} (hs : upsertAddress sql client address s = some r) :
    r.2.hide F = s.hide F := by
  simp only [upsertAddress, Option.bind_eq_bind, Option.bind_eq_some_iff] at hs
  obtain ⟨ext, -, versions, hversions, hs⟩ := hs
  cases versions with
  | nil => exact insertAddress_unseen hclient hs
  | cons a rest =>
    simp only at hs
    split_ifs at hs
    · cases hs
      rfl
    · -- the version that expires is one of the client's
      have ha : a.client = some client := by
        simp only [currentVersions, Option.ite_none_right_eq_some, Option.bind_eq_bind,
          Option.bind_eq_some_iff, toOption_eq_some, Option.some.injEq] at hversions
        obtain ⟨-, named, hnamed, hrows⟩ := hversions
        have hmem : a ∈ named.filter (·.isCurrent) := hrows ▸ List.mem_cons_self
        rw [(selectRows_eq_ok.mp hnamed).2] at hmem
        simpa using (List.mem_filter.mp (List.mem_filter.mp (List.mem_filter.mp hmem).1).1).2
      rw [insertAddress_unseen hclient hs]
      refine congrArg (fun address => { s.hide F with address })
        (filter_map_hidden (fun a' => ?_) _ fun a' _ ha' => ?_)
      · split_ifs <;> rfl
      · refine if_neg ?_
        rintro ⟨heq, -⟩
        simp [heq, ha, hclient] at ha'

lemma insertOrder_unseen {address : AddressKey} {r : Varchar 64 × Shop}
    (h : F .order r.1.text = true) (hs : insertOrder sql client address data s = some r) :
    r.2.hide F = s.hide F := by
  simp only [insertOrder, addOrder, Option.ite_none_right_eq_some,
    Option.ite_none_left_eq_some, Option.bind_eq_bind, Option.bind_eq_some_iff] at hs
  obtain ⟨_, -, -, ext, -, _, -, _, -, _, -, -, hs⟩ := hs
  cases hs
  have hkey : F .order ext.text = true := h
  simp [hide, hkey]

lemma insertItems_unseen (horder : F .order order.text = true) {items : Json}
    (hs : insertItems sql order items s = some s') : s'.hide F = s.hide F := by
  unfold insertItems at hs
  split_ifs at hs
  · simp only [Option.ite_none_right_eq_some, Option.bind_eq_bind, Option.bind_eq_some_iff,
      toOption_eq_some] at hs
    obtain ⟨_, -, -, rows, hrows, hs⟩ := hs
    cases hs
    have hhidden : rows.filter (fun i => !i.order.any (F .order ·.text)) = [] := by
      refine List.filter_eq_nil_iff.mpr fun i hi => ?_
      obtain ⟨item, -, hitem⟩ := exists_of_mem_right (collect_eq_ok.mp hrows) hi
      simp only [itemInfo, bind_eq_ok, Except.ok.injEq] at hitem
      obtain ⟨_, -, _, -, _, -, _, -, _, -, _, -, _, -, _, -, rfl⟩ := hitem
      simp [horder]
    simp [hide, hhidden]
  · cases hs
    rfl

lemma recordHistory_unseen (horder : F .order order.text = true) {previous : Option (Varchar 20)}
    {new source : Json} (hs : recordHistory sql order previous new source s = some s') :
    s'.hide F = s.hide F := by
  simp only [recordHistory, Option.ite_none_right_eq_some, Option.bind_eq_bind,
    Option.bind_eq_some_iff] at hs
  obtain ⟨-, _, -, _, -, hs⟩ := hs
  cases hs
  simp [hide, horder]

lemma updateOrder_unseen (h : sql.Within v (F .order)) {newStatus : Json}
    {r : Option (Varchar 64 × Varchar 20) × Shop} (hs : updateOrder sql v newStatus s = some r) :
    r.2.hide F = s.hide F := by
  simp only [updateOrder, Option.ite_none_right_eq_some, Option.bind_eq_bind,
    Option.bind_eq_some_iff] at hs
  obtain ⟨-, named, -, hs⟩ := hs
  cases named with
  | nil =>
    cases hs
    rfl
  | cons o rest =>
    simp only [Option.bind_eq_some_iff, Option.ite_none_left_eq_some] at hs
    obtain ⟨_, -, _, -, -, hs⟩ := hs
    cases hs
    refine congrArg (fun orders => { s.hide F with orders })
      (filter_update_hidden ?_ (fun o hmatch => ?_) _)
    · exact fun _ => rfl
    · simp [h _ (sql.names_of_compare hmatch)]

lemma mergePayment_unseen {p : PaymentParams} (h : sql.Within p.externalPaymentId (F .payment))
    (hs : mergePayment sql order p s = some s') : s'.hide F = s.hide F := by
  simp only [mergePayment, Option.ite_none_right_eq_some, Option.bind_eq_bind,
    Option.bind_eq_some_iff] at hs
  obtain ⟨-, named, -, _, -, _, -, _, -, hs⟩ := hs
  split_ifs at hs
  · obtain ⟨r, hr, hs⟩ := Option.bind_eq_some_iff.mp hs
    cases hs
    simp [hide, h _ (newPayment_names hr)]
  · cases hs
    refine congrArg (fun payments => { s.hide F with payments })
      (filter_update_hidden ?_ (fun q hmatch => ?_) _)
    · exact fun _ => rfl
    · simp [h _ (sql.names_of_compare hmatch)]

lemma mergeInvoice_unseen {p : InvoiceParams} (h : sql.Within p.externalInvoiceId (F .invoice))
    (hs : mergeInvoice sql order p s = some s') : s'.hide F = s.hide F := by
  simp only [mergeInvoice, Option.ite_none_right_eq_some, Option.bind_eq_bind,
    Option.bind_eq_some_iff] at hs
  obtain ⟨-, named, -, _, -, _, -, _, -, hs⟩ := hs
  split_ifs at hs
  · obtain ⟨r, hr, hs⟩ := Option.bind_eq_some_iff.mp hs
    cases hs
    simp [hide, h _ (newInvoice_names hr)]
  · cases hs
    refine congrArg (fun invoices => { s.hide F with invoices })
      (filter_update_hidden ?_ (fun i hmatch => ?_) _)
    · exact fun _ => rfl
    · simp [h _ (sql.names_of_compare hmatch)]

lemma upsertClient_unseen {client : Json} {r : Varchar 64 × Shop}
    (h : ∀ v, client.getItem "external_client_id" = .ok v → sql.Within v (F .client))
    (hs : upsertClient sql client s = some r) : r.2.hide F = s.hide F := by
  obtain ⟨p, hp, hs⟩ := Option.bind_eq_some_iff.mp hs
  simp only [toOption_eq_some, clientParams, bind_eq_ok, Except.ok.injEq] at hp
  obtain ⟨v, hv, _, -, _, -, _, -, rfl⟩ := hp
  exact mergeClient_unseen (h v hv) hs

lemma orderCreated_unseen
    (hclient : ∀ client v, data.getItem "client" = .ok client →
      client.getItem "external_client_id" = .ok v → sql.Within v (F .client))
    (horder : ∀ v, data.getItem "external_order_id" = .ok v → sql.Within v (F .order))
    (hs : orderCreated sql eventId data s = some s') : s'.hide F = s.hide F := by
  simp only [orderCreated, Option.bind_eq_bind, Option.bind_eq_some_iff, toOption_eq_some] at hs
  obtain ⟨client, hc, r₁, h₁, address, -, r₂, h₂, r₃, h₃, items, -, s₄, h₄, h₅⟩ := hs
  obtain ⟨v, hv, hnames⟩ := upsertClient_names h₁
  obtain ⟨o, ho, hordernames⟩ := insertOrder_named h₃
  have hkey := horder o ho _ hordernames
  rw [recordHistory_unseen hkey h₅, insertItems_unseen hkey h₄, insertOrder_unseen hkey h₃,
    upsertAddress_unseen (hclient client v hc hv _ hnames) h₂,
    upsertClient_unseen (fun v => hclient client v hc) h₁]

lemma orderStatusChanged_unseen
    (horder : ∀ v, data.getItem "external_order_id" = .ok v → sql.Within v (F .order))
    (hs : orderStatusChanged sql eventId data s = some s') : s'.hide F = s.hide F := by
  simp only [orderStatusChanged, Option.bind_eq_bind, Option.bind_eq_some_iff, toOption_eq_some] at hs
  obtain ⟨v, hv, newStatus, -, ⟨o, s₁⟩, h₁, h₂⟩ := hs
  have hupdate := updateOrder_unseen (horder v hv) h₁
  cases o with
  | none =>
    cases h₂
    exact hupdate
  | some o => exact (recordHistory_unseen (horder v hv _ (updateOrder_names h₁)) h₂).trans hupdate

lemma paymentConfirmed_unseen
    (hpayment : ∀ v, data.getItem "external_payment_id" = .ok v → sql.Within v (F .payment))
    (hs : paymentConfirmed sql data s = some s') : s'.hide F = s.hide F := by
  simp only [paymentConfirmed, Option.bind_eq_bind, Option.bind_eq_some_iff, toOption_eq_some] at hs
  obtain ⟨_, -, o, -, hs⟩ := hs
  cases o with
  | none =>
    cases hs
    rfl
  | some order =>
    obtain ⟨p, hp, hs⟩ := Option.bind_eq_some_iff.mp hs
    simp only [toOption_eq_some, paymentParams, bind_eq_ok, Except.ok.injEq] at hp
    obtain ⟨v, hv, _, -, _, -, _, -, _, -, rfl⟩ := hp
    exact mergePayment_unseen (hpayment v hv) hs

lemma invoiceIssued_unseen
    (hinvoice : ∀ v, data.getItem "external_invoice_id" = .ok v → sql.Within v (F .invoice))
    (hs : invoiceIssued sql data s = some s') : s'.hide F = s.hide F := by
  simp only [invoiceIssued, Option.bind_eq_bind, Option.bind_eq_some_iff, toOption_eq_some] at hs
  obtain ⟨_, -, o, -, hs⟩ := hs
  cases o with
  | none =>
    cases hs
    rfl
  | some order =>
    obtain ⟨p, hp, hs⟩ := Option.bind_eq_some_iff.mp hs
    simp only [toOption_eq_some, invoiceParams, bind_eq_ok, Except.ok.injEq] at hp
    obtain ⟨v, hv, _, -, _, -, _, -, _, -, _, -, rfl⟩ := hp
    exact mergeInvoice_unseen (hinvoice v hv) hs

lemma effect_unseen (h : ∀ kind v, payloadId eventType data kind = some v → sql.Within v (F kind))
    (hs : effect sql eventId eventType data s = some s') : s'.hide F = s.hide F := by
  have horder : orderEvents.any eventType.isText = true →
      ∀ v, data.getItem "external_order_id" = .ok v → sql.Within v (F .order) := by
    intro htype v hv
    exact h .order v (by simp [payloadId, htype, hv, Except.toOption])
  unfold effect at hs
  split_ifs at hs with hcreated hchanged hpaid hinvoiced
  · refine orderCreated_unseen (fun client v hc hv => h .client v ?_)
      (horder (by simp [orderEvents, hcreated])) hs
    simp [payloadId, hcreated, hc, hv, Except.bind, Except.toOption]
  · exact orderStatusChanged_unseen (horder (by simp [orderEvents, hchanged])) hs
  · refine paymentConfirmed_unseen (fun v hv => h .payment v ?_) hs
    simp [payloadId, hpaid, hv, Except.toOption]
  · refine invoiceIssued_unseen (fun v hv => h .invoice v ?_) hs
    simp [payloadId, hinvoiced, hv, Except.toOption]
  · cases hs
    rfl

/-- An event leaves the rows it does not name as they are. -/
theorem event_unseen {event : Json} (hid : event.getItem "event_id" = .ok eventId)
    (h : ∀ kind v, idOf event kind = some v → sql.Within v (F kind))
    (hs : Shop.event sql event eventId s = some s') : s'.hide F = s.hide F := by
  have hwithin : sql.Within eventId (F .event) :=
    h .event eventId (by simp [idOf, hid, Except.toOption])
  simp only [Shop.event, process, Option.bind_eq_bind, Option.bind_eq_some_iff, toOption_eq_some] at hs
  obtain ⟨s₂, ⟨id, hid', eventType, htype, data, hdata, s₁, hclaim, heffect⟩, hmark⟩ := hs
  obtain rfl : eventId = id := Except.ok.inj (hid.symm.trans hid')
  refine (mark_unseen hwithin hmark).trans ((effect_unseen (fun kind v hv => h kind v ?_) heffect).trans
    (claim_unseen hwithin hclaim))
  cases kind with
  | event => cases hv
  | _ => simp [idOf, htype, hdata, hv, Except.toOption]

/-! ### Orders -/

/-- An order an event has created: it is under the order id of the event, and belongs to the
client of the event. -/
structure CreatedBy (sql : SqlServer) (event : Json) (o : OrderInfo) : Prop where
  order : ∃ v, idOf event .order = some v ∧ sql.Names v o.ext.text
  client : ∃ v c, idOf event .client = some v ∧ o.client = some c ∧ sql.Names v c.text

lemma upsertClient_orders {client : Json} {r : Varchar 64 × Shop}
    (hs : upsertClient sql client s = some r) : r.2.orders = s.orders := by
  obtain ⟨p, -, hs⟩ := Option.bind_eq_some_iff.mp hs
  simp only [mergeClient, Option.ite_none_right_eq_some, Option.bind_eq_bind,
    Option.bind_eq_some_iff] at hs
  obtain ⟨-, named, -, _, -, _, -, _, -, hs⟩ := hs
  cases named with
  | nil =>
    obtain ⟨_, -, hs⟩ := Option.bind_eq_some_iff.mp hs
    cases hs
    rfl
  | cons c rest =>
    cases hs
    rfl

lemma insertAddress_orders {ext : Json} {content : AddressField → Json} {r : AddressKey × Shop}
    (hs : insertAddress sql client ext content s = some r) : r.2.orders = s.orders := by
  simp only [insertAddress, Option.ite_none_right_eq_some, Option.ite_none_left_eq_some,
    Option.bind_eq_bind, Option.bind_eq_some_iff] at hs
  obtain ⟨-, _, -, _, -, -, hs⟩ := hs
  cases hs
  rfl

lemma upsertAddress_orders {address : Json} {r : AddressKey × Shop}
    (hs : upsertAddress sql client address s = some r) : r.2.orders = s.orders := by
  simp only [upsertAddress, Option.bind_eq_bind, Option.bind_eq_some_iff] at hs
  obtain ⟨_, -, versions, -, hs⟩ := hs
  cases versions with
  | nil => exact insertAddress_orders hs
  | cons a rest =>
    simp only at hs
    split_ifs at hs
    · cases hs
      rfl
    · exact (insertAddress_orders hs).trans rfl

/-- The order that is inserted. -/
lemma insertOrder_orders {address : AddressKey} {r : Varchar 64 × Shop}
    (hs : insertOrder sql client address data s = some r) :
    ∃ o, r.2 = { s with orders := s.orders ++ [o] } ∧ o.ext = r.1 ∧ o.client = some client ∧
      o.address = some address := by
  simp only [insertOrder, addOrder, Option.ite_none_right_eq_some,
    Option.ite_none_left_eq_some, Option.bind_eq_bind, Option.bind_eq_some_iff] at hs
  obtain ⟨_, -, -, _, -, _, -, _, -, _, -, -, hs⟩ := hs
  cases hs
  exact ⟨_, rfl, rfl, rfl, rfl⟩

lemma insertItems_rows {items : Json} (hs : insertItems sql order items s = some s') :
    ∃ rows, s' = { s with items := s.items ++ rows } := by
  unfold insertItems at hs
  split_ifs at hs
  · simp only [Option.ite_none_right_eq_some, Option.bind_eq_bind, Option.bind_eq_some_iff] at hs
    obtain ⟨_, -, -, rows, -, hs⟩ := hs
    cases hs
    exact ⟨rows, rfl⟩
  · cases hs
    exact ⟨[], by simp⟩

lemma recordHistory_rows {previous : Option (Varchar 20)} {new source : Json}
    (hs : recordHistory sql order previous new source s = some s') :
    ∃ row, s' = { s with history := s.history ++ [row] } := by
  simp only [recordHistory, Option.ite_none_right_eq_some, Option.bind_eq_bind,
    Option.bind_eq_some_iff] at hs
  obtain ⟨-, _, -, _, -, hs⟩ := hs
  cases hs
  exact ⟨_, rfl⟩

lemma updateOrder_orders {newStatus : Json} {r : Option (Varchar 64 × Varchar 20) × Shop}
    (hs : updateOrder sql v newStatus s = some r) : ∃ f : OrderInfo → OrderInfo,
      r.2 = { s with orders := s.orders.map f } ∧
        ∀ o, (f o).ext = o.ext ∧ (f o).client = o.client := by
  simp only [updateOrder, Option.ite_none_right_eq_some, Option.bind_eq_bind,
    Option.bind_eq_some_iff] at hs
  obtain ⟨-, named, -, hs⟩ := hs
  cases named with
  | nil =>
    cases hs
    exact ⟨id, by simp, fun _ => ⟨rfl, rfl⟩⟩
  | cons o rest =>
    simp only [Option.bind_eq_some_iff, Option.ite_none_left_eq_some] at hs
    obtain ⟨_, -, _, -, -, hs⟩ := hs
    cases hs
    refine ⟨_, rfl, fun o => ?_⟩
    split_ifs <;> exact ⟨rfl, rfl⟩

lemma upsertPayment_orders (hs : upsertPayment sql order data s = some s') :
    s'.orders = s.orders := by
  obtain ⟨p, -, hs⟩ := Option.bind_eq_some_iff.mp hs
  simp only [mergePayment, Option.ite_none_right_eq_some, Option.bind_eq_bind,
    Option.bind_eq_some_iff] at hs
  obtain ⟨-, _, -, _, -, _, -, _, -, hs⟩ := hs
  split_ifs at hs
  · obtain ⟨_, -, hs⟩ := Option.bind_eq_some_iff.mp hs
    cases hs
    rfl
  · cases hs
    rfl

lemma upsertInvoice_orders (hs : upsertInvoice sql order data s = some s') :
    s'.orders = s.orders := by
  obtain ⟨p, -, hs⟩ := Option.bind_eq_some_iff.mp hs
  simp only [mergeInvoice, Option.ite_none_right_eq_some, Option.bind_eq_bind,
    Option.bind_eq_some_iff] at hs
  obtain ⟨-, _, -, _, -, _, -, _, -, hs⟩ := hs
  split_ifs at hs
  · obtain ⟨_, -, hs⟩ := Option.bind_eq_some_iff.mp hs
    cases hs
    rfl
  · cases hs
    rfl

/-- What an event that changes the tables does to the orders. -/
def KeepsOrders (sql : SqlServer) (event : Json) (orders orders' : List OrderInfo) : Prop :=
  ∃ (f : OrderInfo → OrderInfo) (new : List OrderInfo), orders' = orders.map f ++ new ∧
    (∀ o, (f o).ext = o.ext ∧ (f o).client = o.client) ∧ ∀ o ∈ new, CreatedBy sql event o

lemma KeepsOrders.refl (event : Json) (orders : List OrderInfo) :
    KeepsOrders sql event orders orders :=
  ⟨id, [], by simp, fun _ => ⟨rfl, rfl⟩, by simp⟩

/-- An event keeps the orders, with their clients, and adds those it creates. -/
lemma orders_of_event {event : Json} (hs : Shop.event sql event eventId s = some s') :
    KeepsOrders sql event s.orders s'.orders := by
  simp only [Shop.event, process, Option.bind_eq_bind, Option.bind_eq_some_iff, toOption_eq_some,
    claim, mark, Option.ite_none_right_eq_some, Option.ite_none_left_eq_some] at hs
  obtain ⟨s₂, ⟨_, -, eventType, htype, data, hdata, s₁, ⟨-, _, -, _, -, -, hclaim⟩, heffect⟩, -, _,
    -, hmark⟩ := hs
  cases hclaim
  cases hmark
  unfold effect at heffect
  split_ifs at heffect with hcreated hchanged hpaid hinvoiced
  · simp only [orderCreated, Option.bind_eq_bind, Option.bind_eq_some_iff, toOption_eq_some] at heffect
    obtain ⟨client, hc, r₁, h₁, address, -, r₂, h₂, r₃, h₃, items, -, s₄, h₄, h₅⟩ := heffect
    obtain ⟨v, hv, hnames⟩ := upsertClient_names h₁
    obtain ⟨o, hr₃, hext, hclient, -⟩ := insertOrder_orders h₃
    obtain ⟨rows, rfl⟩ := insertItems_rows h₄
    obtain ⟨row, rfl⟩ := recordHistory_rows h₅
    refine ⟨id, [o], ?_, fun _ => ⟨rfl, rfl⟩, fun o' ho' => ?_⟩
    · simp [hr₃, upsertAddress_orders h₂, upsertClient_orders h₁]
    obtain rfl := List.mem_singleton.mp ho'
    obtain ⟨w, hw, horder⟩ := insertOrder_named h₃
    refine ⟨⟨w, ?_, ?_⟩, v, r₁.1, ?_, hclient, hnames⟩
    · simp [idOf, htype, hdata, payloadId, orderEvents, hcreated, hw, Except.toOption]
    · exact hext ▸ horder
    · simp [idOf, htype, hdata, payloadId, hcreated, hc, hv, Except.bind, Except.toOption]
  · simp only [orderStatusChanged, Option.bind_eq_bind, Option.bind_eq_some_iff,
      toOption_eq_some] at heffect
    obtain ⟨v, hv, newStatus, -, ⟨o, s₁⟩, h₁, h₂⟩ := heffect
    obtain ⟨f, rfl, hf⟩ := updateOrder_orders h₁
    refine ⟨f, [], ?_, hf, by simp⟩
    cases o with
    | none =>
      cases h₂
      simp
    | some o =>
      obtain ⟨row, rfl⟩ := recordHistory_rows h₂
      simp
  · simp only [paymentConfirmed, Option.bind_eq_bind, Option.bind_eq_some_iff] at heffect
    obtain ⟨_, -, o, -, heffect⟩ := heffect
    cases o with
    | none =>
      cases heffect
      exact .refl _ _
    | some order =>
      rw [upsertPayment_orders heffect]
      exact .refl _ _
  · simp only [invoiceIssued, Option.bind_eq_bind, Option.bind_eq_some_iff] at heffect
    obtain ⟨_, -, o, -, heffect⟩ := heffect
    cases o with
    | none =>
      cases heffect
      exact .refl _ _
    | some order =>
      rw [upsertInvoice_orders heffect]
      exact .refl _ _
  · cases heffect
    exact .refl _ _

end Shop

end EventPipeline

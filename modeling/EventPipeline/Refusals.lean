import EventPipeline.Growth

/-!
# Refused now, accepted later

An event that was refused is not in the ledger, and is processed again when it is redelivered.
It is refused again (`Shop.event_later`), except by the four statements that insert where they
find no row and otherwise update or reuse the one they find: the insert checks columns the
other branch does not look at.
-/

namespace EventPipeline

open Transaction

namespace Shop

variable {sql : SqlServer} {s s' t' : Shop}

/-! ### Inserts that are refused -/

/-- No client has the external id, and none can be stored under it. -/
def ClientRefused (sql : SqlServer) (ext : Json) (s : Shop) : Prop :=
  (s.clients.filter fun c => holds (clientNamed sql ext c)) = [] ∧ newClient sql ext s = none

/-- The address has to be stored, and cannot be. -/
def AddressRefused (sql : SqlServer) (client : Varchar 64) (ext : Json)
    (content : AddressField → Json) (s : Shop) : Prop :=
  ∃ versions, currentVersions sql client ext s = some versions ∧
    (∀ a, versions.head? = some a → sameContent a.content content = false) ∧
    insertAddress sql client ext content (versions.head?.elim s s.expire) = none

def PaymentRefused (sql : SqlServer) (p : PaymentParams) (s : Shop) : Prop :=
  (s.payments.filter fun q => holds (paymentNamed sql p.externalPaymentId q)) = [] ∧
    newPayment sql p s = none

def InvoiceRefused (sql : SqlServer) (p : InvoiceParams) (s : Shop) : Prop :=
  (s.invoices.filter fun i => holds (invoiceNamed sql p.externalInvoiceId i)) = [] ∧
    newInvoice sql p s = none

/-- The event, met in the state `s`, takes the insert branch of a statement that has another
one, and that branch refuses it. -/
inductive InsertRefused (sql : SqlServer) (data : Json) (s : Shop) : Json → Prop
  | client {client : Json} {p : ClientParams} (hclient : data.getItem "client" = .ok client)
      (hp : clientParams client = .ok p) (hr : ClientRefused sql p.externalClientId s) :
      InsertRefused sql data s (.str "ORDER_CREATED")
  | address {client address ext : Json} {key : Varchar 64} {s₁ : Shop}
      (hclient : data.getItem "client" = .ok client)
      (hkey : upsertClient sql client s = some (key, s₁))
      (haddress : data.getItem "address" = .ok address)
      (hext : address.getItem "external_address_id" = .ok ext)
      (hr : AddressRefused sql key ext (addressContent address) s₁) :
      InsertRefused sql data s (.str "ORDER_CREATED")
  | payment {ext : Json} {order : Varchar 64} {p : PaymentParams}
      (hext : data.getItem "external_order_id" = .ok ext)
      (horder : resolveOrder sql ext s = some (some order)) (hp : paymentParams data = .ok p)
      (hr : PaymentRefused sql p s) : InsertRefused sql data s (.str "PAYMENT_CONFIRMED")
  | invoice {ext : Json} {order : Varchar 64} {p : InvoiceParams}
      (hext : data.getItem "external_order_id" = .ok ext)
      (horder : resolveOrder sql ext s = some (some order)) (hp : invoiceParams data = .ok p)
      (hr : InvoiceRefused sql p s) : InsertRefused sql data s (.str "INVOICE_ISSUED")

/-- The event can be claimed in both states, and an insert refuses it in the first only. -/
def Fragile (sql : SqlServer) (event : Json) (s s' : Shop) : Prop :=
  ∃ id eventType data s₀ s₀', event.getItem "event_id" = .ok id ∧
    event.getItem "event_type" = .ok eventType ∧ event.getItem "data" = .ok data ∧
    claim sql id eventType s = some s₀ ∧ claim sql id eventType s' = some s₀' ∧
    InsertRefused sql data s₀ eventType ∧ ¬ InsertRefused sql data s₀' eventType

/-! ### Accepted later, accepted now -/

/-- What the MERGE into `clients` leaves alone. -/
lemma mergeClient_frame {p : ClientParams} {r : Varchar 64 × Shop}
    (h : mergeClient sql p s = some r) :
    r.2.address = s.address ∧ r.2.orders = s.orders ∧ r.2.ledger = s.ledger := by
  simp only [mergeClient, Option.ite_none_right_eq_some, Option.bind_eq_bind,
    Option.bind_eq_some_iff] at h
  obtain ⟨-, named, -, name, -, email, -, document, -, h⟩ := h
  cases named with
  | nil =>
    obtain ⟨ext, -, h⟩ := Option.bind_eq_some_iff.mp h
    cases h
    exact ⟨rfl, rfl, rfl⟩
  | cons c rest =>
    cases h
    exact ⟨rfl, rfl, rfl⟩

lemma mergeClient_later (hl : Later sql s s') {p : ClientParams} {r' : Varchar 64 × Shop}
    (h : mergeClient sql p s' = some r') (hr : ¬ ClientRefused sql p.externalClientId s) :
    ∃ r, mergeClient sql p s = some r ∧ (r.1 = r'.1 ∨ ∀ a ∈ s.address, a.client ≠ some r.1) := by
  simp only [mergeClient, Option.ite_none_right_eq_some, Option.bind_eq_bind,
    Option.bind_eq_some_iff, toOption_eq_some] at h
  obtain ⟨hbind, named', hnamed', name, hname, email, hemail, document, hdocument, h⟩ := h
  obtain ⟨hnamed, hgrows⟩ := hl.clients.selectRows (p := clientNamed sql p.externalClientId)
    (fun c c' hc => by simp only [clientNamed, hc]) hnamed'
  simp only [mergeClient, hbind, if_true, hnamed, hname, hemail, hdocument, Except.toOption,
    Option.bind_eq_bind, Option.bind_some]
  cases hrows : s.clients.filter fun c => holds (clientNamed sql p.externalClientId c) with
  | nil =>
    obtain ⟨ext, hnew⟩ : ∃ ext, newClient sql p.externalClientId s = some ext :=
      Option.ne_none_iff_exists'.mp fun hnone => hr ⟨hrows, hnone⟩
    simp only [hnew, Option.bind_some]
    refine ⟨_, rfl, .inr fun a ha hclient => ?_⟩
    -- an address of that name would belong to a client of that name
    obtain ⟨c, hc, hkey⟩ := hl.owned a ha
    simp only [newClient, Option.bind_eq_bind, Option.bind_eq_some_iff,
      Option.ite_none_left_eq_some] at hnew
    obtain ⟨v, -, hfresh, hv⟩ := hnew
    cases hv
    rw [hclient] at hkey
    cases hkey
    exact hfresh (List.any_eq_true.mpr ⟨c, hc, sql.same_refl _⟩)
  | cons c rest =>
    rw [hrows] at hgrows
    cases hgrows with
    | cons hc _ =>
      cases h
      exact ⟨_, rfl, .inl hc.symm⟩

lemma currentVersions_later {key key' : Varchar 64} {ext : Json} {versions : List AddressInfo}
    (hl : Grows (fun a a' => a'.client = a.client ∧ a'.ext = a.ext) s.address s'.address)
    (hkey : key = key' ∨ ∀ a ∈ s.address, a.client ≠ some key)
    (h : currentVersions sql key' ext s' = some versions) :
    ∃ versions, currentVersions sql key ext s = some versions := by
  simp only [currentVersions, Option.ite_none_right_eq_some, Option.bind_eq_bind,
    Option.bind_eq_some_iff, toOption_eq_some] at h ⊢
  obtain ⟨hbind, named', hnamed', -⟩ := h
  suffices hselect : ∃ named, selectRows (addressNamed sql ext)
      (s.address.filter fun a => a.client = some key) = .ok named by
    obtain ⟨named, hnamed⟩ := hselect
    exact ⟨_, hbind, named, hnamed, rfl⟩
  rcases hkey with rfl | hnone
  · have hclient : Grows (fun a a' => a'.client = a.client ∧ a'.ext = a.ext)
        (s.address.filter fun a => a.client = some key)
        (s'.address.filter fun a => a.client = some key) :=
      hl.filter fun a a' ha => by rw [ha.1]
    exact ⟨_, (hclient.selectRows (p := addressNamed sql ext)
      (fun a a' ha => by simp only [addressNamed, ha.2]) hnamed').1⟩
  · have hempty : (s.address.filter fun a => a.client = some key) = [] :=
      List.filter_eq_nil_iff.mpr fun a ha => by simpa using hnone a ha
    rw [hempty]
    exact ⟨[], rfl⟩

lemma insertAddress_frame {client : Varchar 64} {ext : Json} {content : AddressField → Json}
    {r : AddressKey × Shop} (h : insertAddress sql client ext content s = some r) :
    r.2.orders = s.orders ∧ r.2.ledger = s.ledger := by
  simp only [insertAddress, Option.ite_none_right_eq_some, Option.ite_none_left_eq_some,
    Option.bind_eq_bind, Option.bind_eq_some_iff] at h
  obtain ⟨-, ext, -, content, -, -, h⟩ := h
  cases h
  exact ⟨rfl, rfl⟩

lemma upsertAddress_frame {client : Varchar 64} {address : Json} {r : AddressKey × Shop}
    (h : upsertAddress sql client address s = some r) :
    r.2.orders = s.orders ∧ r.2.ledger = s.ledger := by
  simp only [upsertAddress, Option.bind_eq_bind, Option.bind_eq_some_iff] at h
  obtain ⟨ext, -, versions, -, h⟩ := h
  cases versions with
  | nil => exact insertAddress_frame h
  | cons a rest =>
    simp only at h
    split_ifs at h
    · cases h
      exact ⟨rfl, rfl⟩
    · obtain ⟨horders, hledger⟩ := insertAddress_frame h
      exact ⟨horders, hledger⟩

/-- The address is found as it is, or it can be stored. -/
lemma upsertAddress_later {key key' : Varchar 64} {address : Json} {r' : AddressKey × Shop}
    (hl : Grows (fun a a' => a'.client = a.client ∧ a'.ext = a.ext) s.address s'.address)
    (hkey : key = key' ∨ ∀ a ∈ s.address, a.client ≠ some key)
    (h : upsertAddress sql key' address s' = some r')
    (hr : ∀ ext, address.getItem "external_address_id" = .ok ext →
      ¬ AddressRefused sql key ext (addressContent address) s) :
    ∃ r, upsertAddress sql key address s = some r := by
  simp only [upsertAddress, Option.bind_eq_bind, Option.bind_eq_some_iff, toOption_eq_some] at h
  obtain ⟨ext, hext, versions', hversions', -⟩ := h
  obtain ⟨versions, hversions⟩ := currentVersions_later hl hkey hversions'
  have hinsert : (∀ a, versions.head? = some a →
      sameContent a.content (addressContent address) = false) →
      ∃ r, insertAddress sql key ext (addressContent address)
        (versions.head?.elim s s.expire) = some r := fun hchanged =>
    Option.ne_none_iff_exists'.mp fun hnone =>
      hr ext hext ⟨versions, hversions, hchanged, hnone⟩
  simp only [upsertAddress, hext, hversions, Except.toOption, Option.bind_eq_bind,
    Option.bind_some]
  cases versions with
  | nil => exact hinsert (by simp)
  | cons a rest =>
    simp only
    by_cases hsame : sameContent a.content (addressContent address) = true
    · rw [if_pos hsame]
      exact ⟨_, rfl⟩
    · rw [if_neg hsame]
      exact hinsert (by simpa using hsame)

lemma insertOrder_later {client client' : Varchar 64} {address address' : AddressKey}
    {order : Json} {r' : Varchar 64 × Shop}
    (hl : Grows (fun o o' => o'.ext = o.ext ∧
      (isTerminal sql o = true → isTerminal sql o' = true)) s.orders s'.orders)
    (h : insertOrder sql client' address' order s' = some r') :
    ∃ r, insertOrder sql client address order s = some r := by
  simp only [insertOrder, addOrder, Option.ite_none_right_eq_some, Option.ite_none_left_eq_some,
    Option.bind_eq_bind, Option.bind_eq_some_iff, toOption_eq_some] at h ⊢
  obtain ⟨p, hp, hbind, ext, hext, total, htotal, currency, hcurrency, date, hdate, hfresh, -⟩ := h
  refine ⟨_, p, hp, hbind, ext, hext, total, htotal, currency, hcurrency, date, hdate,
    fun hany => hfresh ?_, rfl⟩
  obtain ⟨o, ho, hsame⟩ := List.any_eq_true.mp hany
  obtain ⟨o', ho', hgrown⟩ := hl.exists_of_mem ho
  exact List.any_eq_true.mpr ⟨o', ho', by rw [hgrown.1]; exact hsame⟩

/-- Whether items are stored depends on nothing but themselves. -/
lemma insertItems_later {order order' : Varchar 64} {items : Json}
    (h : insertItems sql order' items s' = some t') :
    ∃ t, insertItems sql order items s = some t := by
  unfold insertItems at h ⊢
  split_ifs at h ⊢ with htruthy
  · simp only [Option.ite_none_right_eq_some, Option.bind_eq_bind, Option.bind_eq_some_iff,
      toOption_eq_some] at h ⊢
    obtain ⟨mappings, hmappings, hbind, rows, hrows, -⟩ := h
    have hcollect : collect (itemInfo sql order) mappings =
        (collect (itemInfo sql order') mappings).map
          (List.map fun i => { i with order := some order }) := by
      rw [collect_map]
      refine collect_congr fun item _ => ?_
      simp only [itemInfo, map_bind_except]
      rfl
    rw [hrows] at hcollect
    exact ⟨_, mappings, hmappings, hbind, _, hcollect, rfl⟩
  · exact ⟨s, rfl⟩

lemma recordHistory_later {order order' : Varchar 64} {previous previous' : Option (Varchar 20)}
    {new source : Json} (h : recordHistory sql order' previous' new source s' = some t') :
    ∃ t, recordHistory sql order previous new source s = some t := by
  simp only [recordHistory, Option.ite_none_right_eq_some, Option.bind_eq_bind,
    Option.bind_eq_some_iff, toOption_eq_some] at h ⊢
  obtain ⟨hbind, new, hnew, source, hsource, -⟩ := h
  exact ⟨_, hbind, new, hnew, source, hsource, rfl⟩

lemma orderCreated_later (hl : Later sql s s') {eventId data : Json}
    (h : orderCreated sql eventId data s' = some t')
    (hr : ¬ InsertRefused sql data s (.str "ORDER_CREATED")) :
    ∃ t, orderCreated sql eventId data s = some t := by
  simp only [orderCreated, Option.bind_eq_bind, Option.bind_eq_some_iff, toOption_eq_some] at h ⊢
  obtain ⟨client, hclient, r₁', hupsert', address, haddress, r₂', haddress', r₃', horder', items,
    hitems, s₄', hinsert', hrecord'⟩ := h
  obtain ⟨p, hp, hmerge'⟩ : ∃ p, clientParams client = .ok p ∧ mergeClient sql p s' = some r₁' := by
    simpa [upsertClient, Option.bind_eq_some_iff] using hupsert'
  obtain ⟨r₁, hmerge, hkey⟩ := mergeClient_later hl hmerge' fun hrefused =>
    hr (.client hclient hp hrefused)
  have hupsert : upsertClient sql client s = some r₁ := by
    simp [upsertClient, hp, Except.toOption, hmerge]
  obtain ⟨haddress₁, horders₁, -⟩ := mergeClient_frame hmerge
  obtain ⟨haddress₁', horders₁', -⟩ := mergeClient_frame hmerge'
  obtain ⟨r₂, haddr⟩ := upsertAddress_later (by rw [haddress₁, haddress₁']; exact hl.address)
    (by rw [haddress₁]; exact hkey) haddress' fun ext hext hrefused =>
      hr (.address hclient hupsert haddress hext hrefused)
  have horders : r₂.2.orders = s.orders := (upsertAddress_frame haddr).1.trans horders₁
  have horders' : r₂'.2.orders = s'.orders := (upsertAddress_frame haddress').1.trans horders₁'
  obtain ⟨r₃, horder⟩ := insertOrder_later (by rw [horders, horders']; exact hl.orders) horder'
  obtain ⟨s₄, hinsert⟩ := insertItems_later hinsert'
  obtain ⟨t, hrecord⟩ := recordHistory_later hrecord'
  exact ⟨t, client, hclient, r₁, hupsert, address, haddress, r₂, haddr, r₃, horder, items, hitems,
    s₄, hinsert, hrecord⟩

/-- Orders that are not terminal now were not terminal before. -/
lemma updateOrder_later (hl : Later sql s s') {ext newStatus : Json}
    {r' : Option (Varchar 64 × Varchar 20) × Shop}
    (h : updateOrder sql ext newStatus s' = some r') :
    ∃ r, updateOrder sql ext newStatus s = some r ∧ (r.1.isSome = true → r'.1.isSome = true) := by
  simp only [updateOrder, Option.ite_none_right_eq_some, Option.bind_eq_bind,
    Option.bind_eq_some_iff, toOption_eq_some] at h ⊢
  obtain ⟨hbind, named', hnamed', hupdate⟩ := h
  obtain ⟨hnamed, hgrows⟩ := hl.orders.selectRows (p := orderNamed sql ext)
    (fun o o' ho => by simp only [orderNamed, ho.1]) hnamed'
  cases hrows : s.orders.filter fun o => holds (orderNamed sql ext o) with
  | nil =>
    rw [hrows] at hnamed
    exact ⟨_, ⟨hbind, _, hnamed, rfl⟩, by simp⟩
  | cons o rest =>
    rw [hrows] at hgrows hnamed
    obtain ⟨o', rest', rfl⟩ : ∃ o' rest', named' = o' :: rest' := by
      cases hgrows with
      | cons => exact ⟨_, _, rfl⟩
    simp only [Option.bind_eq_some_iff, toOption_eq_some, Option.ite_none_left_eq_some] at hupdate
    obtain ⟨closing, hclosing, status, hstatus, hterminal, hupdated⟩ := hupdate
    cases hupdated
    have hnone : ¬ ((o :: rest).any (isTerminal sql) = true) := by
      intro hany
      obtain ⟨o₁, ho₁, ht⟩ := List.any_eq_true.mp hany
      obtain ⟨o₂, ho₂, hgrown⟩ := hgrows.exists_of_mem ho₁
      exact hterminal (List.any_eq_true.mpr ⟨o₂, ho₂, hgrown.2 ht⟩)
    exact ⟨_, ⟨hbind, _, hnamed, Option.bind_eq_some_iff.mpr ⟨closing,
      toOption_eq_some.mpr hclosing, Option.bind_eq_some_iff.mpr ⟨status,
        toOption_eq_some.mpr hstatus, if_neg hnone⟩⟩⟩, fun _ => rfl⟩

lemma orderStatusChanged_later (hl : Later sql s s') {eventId data : Json}
    (h : orderStatusChanged sql eventId data s' = some t') :
    ∃ t, orderStatusChanged sql eventId data s = some t := by
  simp only [orderStatusChanged, Option.bind_eq_bind, Option.bind_eq_some_iff,
    toOption_eq_some] at h ⊢
  obtain ⟨ext, hext, newStatus, hnew, ⟨o', s₁'⟩, hupdate', h⟩ := h
  obtain ⟨⟨o, s₁⟩, hupdate, hsome⟩ := updateOrder_later hl hupdate'
  cases o with
  | none => exact ⟨s₁, ext, hext, newStatus, hnew, _, hupdate, rfl⟩
  | some o =>
    obtain ⟨o', rfl⟩ := Option.isSome_iff_exists.mp (hsome rfl)
    obtain ⟨t, hrecord⟩ := recordHistory_later h
    exact ⟨t, ext, hext, newStatus, hnew, _, hupdate, hrecord⟩

/-! ### Payments and invoices -/

lemma resolveOrder_later (hl : Later sql s s') {ext : Json} {o' : Option (Varchar 64)}
    (h : resolveOrder sql ext s' = some o') :
    ∃ o, resolveOrder sql ext s = some o ∧ (o.isSome = true → o'.isSome = true) := by
  simp only [resolveOrder, Option.ite_none_right_eq_some, Option.bind_eq_bind,
    Option.bind_eq_some_iff, toOption_eq_some] at h ⊢
  obtain ⟨hbind, named', hnamed', h⟩ := h
  cases h
  obtain ⟨hnamed, hgrows⟩ := hl.orders.selectRows (p := orderNamed sql ext)
    (fun o o' ho => by simp only [orderNamed, ho.1]) hnamed'
  refine ⟨_, ⟨hbind, _, hnamed, rfl⟩, fun hsome => ?_⟩
  rw [Option.isSome_map] at hsome ⊢
  obtain ⟨o, ho⟩ := Option.isSome_iff_exists.mp hsome
  obtain ⟨o', ho', -⟩ := hgrows.head? ho
  rw [ho', Option.isSome_some]

lemma mergePayment_later (hl : Later sql s s') {order order' : Varchar 64} {p : PaymentParams}
    (h : mergePayment sql order' p s' = some t') (hr : ¬ PaymentRefused sql p s) :
    ∃ t, mergePayment sql order p s = some t := by
  simp only [mergePayment, Option.ite_none_right_eq_some, Option.bind_eq_bind,
    Option.bind_eq_some_iff, toOption_eq_some] at h ⊢
  obtain ⟨hbind, named', hnamed', status, hstatus, amount, hamount, paidAt, hpaid, -⟩ := h
  obtain ⟨hnamed, -⟩ := hl.payments.selectRows (p := paymentNamed sql p.externalPaymentId)
    (fun q q' hq => by simp only [paymentNamed, hq]) hnamed'
  suffices hmerged : ∃ t, (if (s.payments.filter fun q =>
      holds (paymentNamed sql p.externalPaymentId q)).isEmpty = true then _ else _) = some t from
    hmerged.imp fun t ht => ⟨hbind, _, hnamed, status, hstatus, amount, hamount, paidAt, hpaid, ht⟩
  split_ifs with hempty
  · obtain ⟨new, hnew⟩ := Option.ne_none_iff_exists'.mp fun hnone =>
      hr ⟨List.isEmpty_iff.mp hempty, hnone⟩
    simp [hnew]
  · exact ⟨_, rfl⟩

lemma mergeInvoice_later (hl : Later sql s s') {order order' : Varchar 64} {p : InvoiceParams}
    (h : mergeInvoice sql order' p s' = some t') (hr : ¬ InvoiceRefused sql p s) :
    ∃ t, mergeInvoice sql order p s = some t := by
  simp only [mergeInvoice, Option.ite_none_right_eq_some, Option.bind_eq_bind,
    Option.bind_eq_some_iff, toOption_eq_some] at h ⊢
  obtain ⟨hbind, named', hnamed', status, hstatus, amount, hamount, url, hurl, -⟩ := h
  obtain ⟨hnamed, -⟩ := hl.invoices.selectRows (p := invoiceNamed sql p.externalInvoiceId)
    (fun i i' hi => by simp only [invoiceNamed, hi]) hnamed'
  suffices hmerged : ∃ t, (if (s.invoices.filter fun i =>
      holds (invoiceNamed sql p.externalInvoiceId i)).isEmpty = true then _ else _) = some t from
    hmerged.imp fun t ht => ⟨hbind, _, hnamed, status, hstatus, amount, hamount, url, hurl, ht⟩
  split_ifs with hempty
  · obtain ⟨new, hnew⟩ := Option.ne_none_iff_exists'.mp fun hnone =>
      hr ⟨List.isEmpty_iff.mp hempty, hnone⟩
    simp [hnew]
  · exact ⟨_, rfl⟩

/-! ### Events -/

lemma effect_later (hl : Later sql s s') {eventId eventType data : Json}
    (h : effect sql eventId eventType data s' = some t')
    (hr : ¬ InsertRefused sql data s eventType) :
    ∃ t, effect sql eventId eventType data s = some t := by
  unfold effect at h ⊢
  split_ifs at h ⊢ with hcreated hchanged hpaid hinvoiced
  · rw [Json.isText_iff.mp hcreated] at hr
    exact orderCreated_later hl h hr
  · exact orderStatusChanged_later hl h
  · rw [Json.isText_iff.mp hpaid] at hr
    simp only [paymentConfirmed, upsertPayment, Option.bind_eq_bind, Option.bind_eq_some_iff,
      toOption_eq_some] at h ⊢
    obtain ⟨ext, hext, o', hresolve', h⟩ := h
    obtain ⟨o, hresolve, hsome⟩ := resolveOrder_later hl hresolve'
    cases o with
    | none => exact ⟨s, ext, hext, none, hresolve, rfl⟩
    | some order =>
      obtain ⟨order', rfl⟩ := Option.isSome_iff_exists.mp (hsome rfl)
      obtain ⟨p, hp, h⟩ := Option.bind_eq_some_iff.mp h
      rw [toOption_eq_some] at hp
      obtain ⟨t, ht⟩ := mergePayment_later hl h fun hrefused => 
        hr (.payment hext hresolve hp hrefused)
      exact ⟨t, ext, hext, some order, hresolve,
        Option.bind_eq_some_iff.mpr ⟨p, toOption_eq_some.mpr hp, ht⟩⟩
  · rw [Json.isText_iff.mp hinvoiced] at hr
    simp only [invoiceIssued, upsertInvoice, Option.bind_eq_bind, Option.bind_eq_some_iff,
      toOption_eq_some] at h ⊢
    obtain ⟨ext, hext, o', hresolve', h⟩ := h
    obtain ⟨o, hresolve, hsome⟩ := resolveOrder_later hl hresolve'
    cases o with
    | none => exact ⟨s, ext, hext, none, hresolve, rfl⟩
    | some order =>
      obtain ⟨order', rfl⟩ := Option.isSome_iff_exists.mp (hsome rfl)
      obtain ⟨p, hp, h⟩ := Option.bind_eq_some_iff.mp h
      rw [toOption_eq_some] at hp
      obtain ⟨t, ht⟩ := mergeInvoice_later hl h fun hrefused => 
        hr (.invoice hext hresolve hp hrefused)
      exact ⟨t, ext, hext, some order, hresolve,
        Option.bind_eq_some_iff.mpr ⟨p, toOption_eq_some.mpr hp, ht⟩⟩
  · exact ⟨s, rfl⟩

lemma ClientRefused.mergeClient {p : ClientParams}
    (h : ClientRefused sql p.externalClientId s) (r : Varchar 64 × Shop) :
    Shop.mergeClient sql p s ≠ some r := by
  intro hr
  simp only [Shop.mergeClient, Option.ite_none_right_eq_some, Option.bind_eq_bind,
    Option.bind_eq_some_iff, toOption_eq_some, selectRows_eq_ok] at hr
  obtain ⟨-, named, ⟨-, rfl⟩, name, -, email, -, document, -, hr⟩ := hr
  simp [h.1, h.2] at hr

lemma AddressRefused.upsertAddress {client : Varchar 64} {address ext : Json}
    (hext : address.getItem "external_address_id" = .ok ext)
    (h : AddressRefused sql client ext (addressContent address) s) (r : AddressKey × Shop) :
    Shop.upsertAddress sql client address s ≠ some r := by
  intro hr
  obtain ⟨versions, hversions, hchanged, hinsert⟩ := h
  simp only [Shop.upsertAddress, hext, hversions, Except.toOption, Option.bind_eq_bind,
    Option.bind_some] at hr
  cases versions with
  | nil =>
    simp only [List.head?_nil, Option.elim_none] at hinsert
    rw [hinsert] at hr
    cases hr
  | cons a rest =>
    simp only [List.head?_cons, Option.elim_some] at hinsert
    simp only [hchanged a rfl, Bool.false_eq_true, if_false] at hr
    rw [hinsert] at hr
    cases hr

lemma PaymentRefused.mergePayment {order : Varchar 64} {p : PaymentParams}
    (h : PaymentRefused sql p s) (t : Shop) : Shop.mergePayment sql order p s ≠ some t := by
  intro ht
  simp only [Shop.mergePayment, Option.ite_none_right_eq_some, Option.bind_eq_bind,
    Option.bind_eq_some_iff, toOption_eq_some, selectRows_eq_ok] at ht
  obtain ⟨-, named, ⟨-, rfl⟩, status, -, amount, -, paidAt, -, ht⟩ := ht
  simp [h.1, h.2] at ht

lemma InvoiceRefused.mergeInvoice {order : Varchar 64} {p : InvoiceParams}
    (h : InvoiceRefused sql p s) (t : Shop) : Shop.mergeInvoice sql order p s ≠ some t := by
  intro ht
  simp only [Shop.mergeInvoice, Option.ite_none_right_eq_some, Option.bind_eq_bind,
    Option.bind_eq_some_iff, toOption_eq_some, selectRows_eq_ok] at ht
  obtain ⟨-, named, ⟨-, rfl⟩, status, -, amount, -, url, -, ht⟩ := ht
  simp [h.1, h.2] at ht

/-- An event that an insert refuses is refused. -/
lemma InsertRefused.effect {eventId eventType data : Json}
    (h : InsertRefused sql data s eventType) : Shop.effect sql eventId eventType data s ≠ some t' := by
  intro ht
  unfold Shop.effect at ht
  cases h with
  | client hclient hp hr =>
    rw [if_pos (by simp)] at ht
    simp only [orderCreated, hclient, upsertClient, hp, Except.toOption, Option.bind_eq_bind,
      Option.bind_some, Option.bind_eq_some_iff] at ht
    obtain ⟨r, hmerge, -⟩ := ht
    exact hr.mergeClient r hmerge
  | address hclient hkey haddress hext hr =>
    rw [if_pos (by simp)] at ht
    simp only [orderCreated, hclient, hkey, haddress, Except.toOption, Option.bind_eq_bind,
      Option.bind_some, Option.bind_eq_some_iff] at ht
    obtain ⟨r, hupsert, -⟩ := ht
    exact hr.upsertAddress hext r hupsert
  | payment hext horder hp hr =>
    rw [if_neg (by simp), if_neg (by simp), if_pos (by simp)] at ht
    simp only [paymentConfirmed, hext, horder, upsertPayment, hp, Except.toOption,
      Option.bind_eq_bind, Option.bind_some] at ht
    exact hr.mergePayment _ ht
  | invoice hext horder hp hr =>
    rw [if_neg (by simp), if_neg (by simp), if_neg (by simp), if_pos (by simp)] at ht
    simp only [invoiceIssued, hext, horder, upsertInvoice, hp, Except.toOption,
      Option.bind_eq_bind, Option.bind_some] at ht
    exact hr.mergeInvoice _ ht

/-! ### The ledger -/

lemma insertOrder_frame {client : Varchar 64} {address : AddressKey} {order : Json}
    {r : Varchar 64 × Shop} (h : insertOrder sql client address order s = some r) :
    r.2.ledger = s.ledger := by
  simp only [insertOrder, addOrder, Option.ite_none_right_eq_some, Option.ite_none_left_eq_some,
    Option.bind_eq_bind, Option.bind_eq_some_iff] at h
  obtain ⟨_, -, -, _, -, _, -, _, -, _, -, -, h⟩ := h
  cases h
  rfl

lemma insertItems_frame {order : Varchar 64} {items : Json}
    (h : insertItems sql order items s = some t') : t'.ledger = s.ledger := by
  unfold insertItems at h
  split_ifs at h
  · simp only [Option.ite_none_right_eq_some, Option.bind_eq_bind, Option.bind_eq_some_iff] at h
    obtain ⟨_, -, -, _, -, h⟩ := h
    cases h
    rfl
  · cases h
    rfl

lemma recordHistory_frame {order : Varchar 64} {previous : Option (Varchar 20)}
    {new source : Json} (h : recordHistory sql order previous new source s = some t') :
    t'.ledger = s.ledger := by
  simp only [recordHistory, Option.ite_none_right_eq_some, Option.bind_eq_bind,
    Option.bind_eq_some_iff] at h
  obtain ⟨-, _, -, _, -, h⟩ := h
  cases h
  rfl

lemma updateOrder_frame {ext newStatus : Json} {r : Option (Varchar 64 × Varchar 20) × Shop}
    (h : updateOrder sql ext newStatus s = some r) : r.2.ledger = s.ledger := by
  simp only [updateOrder, Option.ite_none_right_eq_some, Option.bind_eq_bind,
    Option.bind_eq_some_iff] at h
  obtain ⟨-, named, -, h⟩ := h
  cases named with
  | nil =>
    cases h
    rfl
  | cons o rest =>
    simp only [Option.bind_eq_some_iff, Option.ite_none_left_eq_some] at h
    obtain ⟨_, -, _, -, -, h⟩ := h
    cases h
    rfl

lemma mergePayment_frame {order : Varchar 64} {p : PaymentParams}
    (h : mergePayment sql order p s = some t') : t'.ledger = s.ledger := by
  simp only [mergePayment, Option.ite_none_right_eq_some, Option.bind_eq_bind,
    Option.bind_eq_some_iff] at h
  obtain ⟨-, named, -, _, -, _, -, _, -, h⟩ := h
  split_ifs at h
  · obtain ⟨_, -, h⟩ := Option.bind_eq_some_iff.mp h
    cases h
    rfl
  · cases h
    rfl

lemma mergeInvoice_frame {order : Varchar 64} {p : InvoiceParams}
    (h : mergeInvoice sql order p s = some t') : t'.ledger = s.ledger := by
  simp only [mergeInvoice, Option.ite_none_right_eq_some, Option.bind_eq_bind,
    Option.bind_eq_some_iff] at h
  obtain ⟨-, named, -, _, -, _, -, _, -, h⟩ := h
  split_ifs at h
  · obtain ⟨_, -, h⟩ := Option.bind_eq_some_iff.mp h
    cases h
    rfl
  · cases h
    rfl

/-- Beside claiming and marking, an event does not touch the ledger. -/
lemma effect_ledger {eventId eventType data : Json}
    (h : effect sql eventId eventType data s = some t') : t'.ledger = s.ledger := by
  unfold effect at h
  split_ifs at h
  · simp only [orderCreated, Option.bind_eq_bind, Option.bind_eq_some_iff] at h
    obtain ⟨client, -, r₁, hclient, address, -, r₂, haddress, r₃, horder, items, -, s₄, hitems,
      hrecord⟩ := h
    obtain ⟨p, -, hmerge⟩ := Option.bind_eq_some_iff.mp hclient
    rw [recordHistory_frame hrecord, insertItems_frame hitems, insertOrder_frame horder,
      (upsertAddress_frame haddress).2, (mergeClient_frame hmerge).2.2]
  · simp only [orderStatusChanged, Option.bind_eq_bind, Option.bind_eq_some_iff] at h
    obtain ⟨ext, -, new, -, ⟨o, s₁⟩, hupdate, h⟩ := h
    have hs₁ : s₁.ledger = s.ledger := updateOrder_frame hupdate
    cases o with
    | none =>
      cases h
      exact hs₁
    | some o => exact (recordHistory_frame h).trans hs₁
  · simp only [paymentConfirmed, Option.bind_eq_bind, Option.bind_eq_some_iff] at h
    obtain ⟨ext, -, o, -, h⟩ := h
    cases o with
    | none =>
      cases h
      rfl
    | some order =>
      obtain ⟨p, -, h⟩ := Option.bind_eq_some_iff.mp h
      exact mergePayment_frame h
  · simp only [invoiceIssued, Option.bind_eq_bind, Option.bind_eq_some_iff] at h
    obtain ⟨ext, -, o, -, h⟩ := h
    cases o with
    | none =>
      cases h
      rfl
    | some order =>
      obtain ⟨p, -, h⟩ := Option.bind_eq_some_iff.mp h
      exact mergeInvoice_frame h
  · cases h
    rfl

/-- An event not claimed now was not claimed before. -/
lemma claim_later (hl : Later sql s s')
    (hledger : Grows (fun e e' => e'.eventId = e.eventId) s.ledger s'.ledger)
    {eventId eventType : Json} (h : claim sql eventId eventType s' = some t') :
    ∃ t row, claim sql eventId eventType s = some t ∧ Later sql t t' ∧
      t.ledger = s.ledger ++ [row] ∧ t'.ledger = s'.ledger ++ [row] := by
  simp only [claim, Option.ite_none_right_eq_some, Option.ite_none_left_eq_some,
    Option.bind_eq_bind, Option.bind_eq_some_iff, toOption_eq_some] at h ⊢
  obtain ⟨hbind, id, hid, type, htype, hfresh, h⟩ := h
  cases h
  refine ⟨_, _, ⟨hbind, id, hid, type, htype, fun hany => hfresh ?_, rfl⟩,
    ⟨hl.clients, hl.address, hl.orders, hl.payments, hl.invoices, hl.owned⟩, rfl, rfl⟩
  obtain ⟨e, he, hsame⟩ := List.any_eq_true.mp hany
  obtain ⟨e', he', hgrown⟩ := hledger.exists_of_mem he
  exact List.any_eq_true.mpr ⟨e', he', by rw [hgrown]; exact hsame⟩

/-- An event accepted later would have been accepted before, unless an insert refused it then
and does not now. -/
theorem event_later (hl : Later sql s s')
    (hledger : Grows (fun e e' => e'.eventId = e.eventId) s.ledger s'.ledger) {e eventId : Json}
    (h : event sql e eventId s' = some t') (hf : ¬ Fragile sql e s s') :
    ∃ t, event sql e eventId s = some t := by
  simp only [event, process, Option.bind_eq_bind, Option.bind_eq_some_iff,
    toOption_eq_some] at h ⊢
  obtain ⟨s₁', ⟨id, hid, eventType, htype, data, hdata, s₀', hclaim', heffect'⟩, hmark'⟩ := h
  obtain ⟨s₀, row, hclaim, hl₀, hs₀, hs₀'⟩ := claim_later hl hledger hclaim'
  have hr : ¬ InsertRefused sql data s₀ eventType := fun hr =>
    hf ⟨id, eventType, data, s₀, s₀', hid, htype, hdata, hclaim, hclaim', hr,
      fun hr' => hr'.effect heffect'⟩
  obtain ⟨s₁, heffect⟩ := effect_later hl₀ heffect' hr
  simp only [mark, Option.ite_none_right_eq_some, Option.bind_eq_bind, Option.bind_eq_some_iff,
    toOption_eq_some, selectRows_eq_ok] at hmark' ⊢
  obtain ⟨hbind, named', ⟨hall, -⟩, -⟩ := hmark'
  refine ⟨_, s₁, ⟨id, hid, eventType, htype, data, hdata, s₀, hclaim, heffect⟩, hbind, _,
    ⟨fun row' hrow => ?_, rfl⟩, rfl⟩
  rw [effect_ledger heffect, hs₀] at hrow
  rw [effect_ledger heffect', hs₀'] at hall
  rcases List.mem_append.mp hrow with hrow | hrow
  · obtain ⟨e', he', hgrown⟩ := hledger.exists_of_mem hrow
    obtain ⟨b, hb⟩ := hall e' (List.mem_append_left _ he')
    exact ⟨b, by rw [← hb]; simp only [ledgerNamed, hgrown]⟩
  · exact hall row' (List.mem_append_right _ hrow)

end Shop

end EventPipeline

import EventPipeline.Consistency

/-!
# The payments and invoices of an order

The MERGEs into `payments` and `invoices` match on the external id alone, while the order is
resolved from `external_order_id`. A payment that another order owns is therefore updated in
place, and the order that is named gets no row. `own_rows_iff` says when this does not happen.
-/

namespace EventPipeline

open Transaction Prog

variable {sql : SqlServer} {db db' : Database} {orderId : ℕ} {event eventId eventType data : Json}
  {outbox : Option Outbox} {key : Json} {o : Order}

/-! ### Commits that differ in what was written -/

/-- The commits of an event from a state differ in what `applyEvent` did. -/
lemma eventTxn_inv (h : Runs sql.engine (eventTxn event eventId) db outbox db')
    (htype : event.getItem "event_type" = .ok eventType) (hdata : event.getItem "data" = .ok data) :
    ∃ id row now db₁, db' = db₁.marked sql eventId now ∧
      Runs sql.engine (applyEvent id eventType data)
        { db with processedEvents := db.processedEvents ++ [row] } outbox db₁ ∧
      ∀ outbox' db₂, Runs sql.engine (applyEvent id eventType data)
        { db with processedEvents := db.processedEvents ++ [row] } outbox' db₂ →
        db₂.processedEvents = db₁.processedEvents →
        ∃ now, Runs sql.engine (eventTxn event eventId) db outbox'
          (db₂.marked sql eventId now) := by
  simp only [eventTxn, processEvent, runs_bind, runs_item, Program.pure_eq, runs_ret] at h
  obtain ⟨_, db₁, ⟨id, _, ⟨hid, rfl⟩, _, _, ⟨htype', rfl⟩, _, _, ⟨hdata', rfl⟩, u, db₀,
    hclaim, happly⟩, v, _, hmark, rfl, rfl⟩ := h
  obtain rfl := Except.ok.inj (htype.symm.trans htype')
  obtain rfl := Except.ok.inj (hdata.symm.trans hdata')
  obtain ⟨row, -, rfl⟩ := runs_claimEvent hclaim
  obtain ⟨now, rfl⟩ := runs_markEventProcessed hmark
  refine ⟨id, row, now, db₁, rfl, happly, fun outbox' db₂ happly' hledger => ?_⟩
  obtain ⟨t, ws, hb, hp, -⟩ := runs_execute.mp hmark
  have hmark' : Runs sql.engine (markEventProcessed eventId) db₂ ()
      (sql.engine.applyAll db₂ ws) := by
    refine runs_execute.mpr ⟨t, ws, hb, ?_, rfl⟩
    simp only [SqlServer.perform, SqlServer.markEvent] at hp ⊢
    rw [hledger]
    exact hp
  obtain ⟨now', hdb⟩ := runs_markEventProcessed hmark'
  refine ⟨now', ?_⟩
  simp only [eventTxn, processEvent, runs_bind, runs_item, Program.pure_eq, runs_ret]
  rw [hdb] at hmark'
  exact ⟨_, db₂, ⟨id, _, ⟨hid, rfl⟩, _, _, ⟨htype, rfl⟩, _, _, ⟨hdata, rfl⟩, u, _, hclaim,
    happly'⟩, (), _, hmark', rfl, rfl⟩

lemma paymentConfirmed_inv (h : Runs sql.engine (paymentConfirmed data) db outbox db')
    (hkey : data.getItem "external_order_id" = .ok key)
    (ho : (db.ordersNamed sql key).head? = some o) :
    Runs sql.engine (upsertPayment o.orderId data) db () db' ∧
      ∀ db'', Runs sql.engine (upsertPayment o.orderId data) db () db'' →
        Runs sql.engine (paymentConfirmed data) db none db'' := by
  simp only [paymentConfirmed, runs_bind, runs_item] at h ⊢
  obtain ⟨_, _, ⟨hext, rfl⟩, result, db₁, hresolve, h⟩ := h
  obtain rfl := Except.ok.inj (hkey.symm.trans hext)
  obtain ⟨rfl, rfl⟩ := runs_resolveOrderId hresolve
  simp only [ho, Option.map_some, runs_bind, Program.pure_eq, runs_ret] at h hresolve
  obtain ⟨u, _, hupsert, rfl, rfl⟩ := h
  refine ⟨hupsert, fun db'' h'' => ⟨key, _, ⟨hkey, rfl⟩, _, _, hresolve, ?_⟩⟩
  simp only [runs_bind, Program.pure_eq, runs_ret]
  exact ⟨(), db'', h'', trivial, rfl⟩

lemma invoiceIssued_inv (h : Runs sql.engine (invoiceIssued data) db outbox db')
    (hkey : data.getItem "external_order_id" = .ok key)
    (ho : (db.ordersNamed sql key).head? = some o) :
    Runs sql.engine (upsertInvoice o.orderId data) db () db' := by
  simp only [invoiceIssued, runs_bind, runs_item] at h
  obtain ⟨_, _, ⟨hext, rfl⟩, result, db₁, hresolve, h⟩ := h
  obtain rfl := Except.ok.inj (hkey.symm.trans hext)
  obtain ⟨rfl, rfl⟩ := runs_resolveOrderId hresolve
  simp only [ho, Option.map_some, runs_bind, Program.pure_eq, runs_ret] at h
  obtain ⟨u, _, hupsert, rfl, rfl⟩ := h
  exact hupsert

/-- An update of payments is one at every reading of the clock. -/
lemma upsertPayment_updates {payment : Json} {p : PaymentParams}
    (h : Runs sql.engine (upsertPayment orderId payment) db () db')
    (hp : paymentParams payment = .ok p)
    (hnamed : db.paymentsNamed sql p.externalPaymentId ≠ []) :
    ∃ status amount paidAt, ∀ now, Runs sql.engine (upsertPayment orderId payment) db ()
      { db with
        payments := updateByIds (·.paymentId)
          ((db.paymentsNamed sql p.externalPaymentId).map (·.paymentId))
          (·.update status amount paidAt now) db.payments } := by
  simp only [upsertPayment, runs_bind, runs_eval] at h ⊢
  obtain ⟨_, _, ⟨hp', rfl⟩, h⟩ := h
  obtain rfl := Except.ok.inj (hp.symm.trans hp')
  obtain ⟨t, ws, hb, hperform, -⟩ := runs_execute.mp h
  simp only [SqlServer.perform, SqlServer.silent, SqlServer.mergePayment, bind_eq_ok] at hperform
  obtain ⟨_, ⟨rows, hrows, status, hstatus, amount, hamount, paidAt, hpaidAt, -⟩, -⟩ := hperform
  obtain ⟨-, hfilter⟩ := selectRows_eq_ok.mp hrows
  obtain rfl : rows = _ := hfilter
  refine ⟨status, amount, paidAt, fun now => ⟨p, _, ⟨hp, rfl⟩, runs_execute.mpr
    ⟨⟨now, 0⟩, _, hb, ?_, (applyAll_updatePayment sql _ status amount paidAt now _).symm⟩⟩⟩
  simp only [SqlServer.perform, SqlServer.silent, SqlServer.mergePayment, bind_eq_ok]
  refine ⟨_, ⟨_, hrows, status, hstatus, amount, hamount, paidAt, hpaidAt, ?_⟩, rfl⟩
  split
  · rename_i hempty
    exact absurd (List.isEmpty_iff.mp hempty) hnamed
  · rw [List.map_map]
    rfl

/-! ### Rows of their own -/

/-- After an event of order `o`, the order owns a payment with the external id, the status and the
amount of the event, and what other orders own is as before. -/
structure OwnPayment (sql : SqlServer) (o : Order) (p : PaymentParams) (db db' : Database) :
    Prop where
  owned : ∃ q ∈ db'.payments, q.orderId = o.orderId ∧
    (sql.matchesPayment p.externalPaymentId q = .ok true ∨
      db.paymentsNamed sql p.externalPaymentId = [] ∧
        sql.TextOf p.externalPaymentId q.externalPaymentId) ∧
    sql.checked "ck_payment_status" paymentStatuses p.status = .ok q.status ∧
    sql.numeric "amount" p.amount = .ok q.amount
  payments : (db'.payments.filter fun q => q.orderId ≠ o.orderId) =
    db.payments.filter fun q => q.orderId ≠ o.orderId
  invoices : (db'.invoices.filter fun i => i.orderId ≠ o.orderId) =
    db.invoices.filter fun i => i.orderId ≠ o.orderId

/-- The same for an invoice. -/
structure OwnInvoice (sql : SqlServer) (o : Order) (p : InvoiceParams) (db db' : Database) :
    Prop where
  owned : ∃ i ∈ db'.invoices, i.orderId = o.orderId ∧
    (sql.matchesInvoice p.externalInvoiceId i = .ok true ∨
      db.invoicesNamed sql p.externalInvoiceId = [] ∧
        sql.TextOf p.externalInvoiceId i.externalInvoiceId) ∧
    sql.checked "ck_invoice_status" invoiceStatuses p.status = .ok i.status ∧
    sql.numeric "amount" p.amount = .ok i.amount
  payments : (db'.payments.filter fun q => q.orderId ≠ o.orderId) =
    db.payments.filter fun q => q.orderId ≠ o.orderId
  invoices : (db'.invoices.filter fun i => i.orderId ≠ o.orderId) =
    db.invoices.filter fun i => i.orderId ≠ o.orderId

/-- Every payment the external id names is one of the order. -/
def PaymentsOf (sql : SqlServer) (o : Order) (p : PaymentParams) (db : Database) : Prop :=
  ∀ q ∈ db.paymentsNamed sql p.externalPaymentId, q.orderId = o.orderId

/-- Where the external id names invoices, one of them is the order's, and those of other orders
already say what the event does. -/
def InvoicesOf (sql : SqlServer) (o : Order) (p : InvoiceParams) (db : Database) : Prop :=
  (db.invoicesNamed sql p.externalInvoiceId ≠ [] →
    ∃ i ∈ db.invoicesNamed sql p.externalInvoiceId, i.orderId = o.orderId) ∧
  ∀ i ∈ db.invoicesNamed sql p.externalInvoiceId, i.orderId ≠ o.orderId →
    sql.checked "ck_invoice_status" invoiceStatuses p.status = .ok i.status ∧
    sql.numeric "amount" p.amount = .ok i.amount ∧
    sql.varchar 500 "pdf_url" p.pdfUrl = .ok i.pdfUrl

lemma mem_paymentsNamed {ext : Json} {q : Payment} : q ∈ db.paymentsNamed sql ext ↔
    q ∈ db.payments ∧ sql.matchesPayment ext q = .ok true := by
  simp [Database.paymentsNamed]

lemma mem_invoicesNamed {ext : Json} {i : Invoice} : i ∈ db.invoicesNamed sql ext ↔
    i ∈ db.invoices ∧ sql.matchesInvoice ext i = .ok true := by
  simp [Database.invoicesNamed]

/-- The payments of other orders survive an update that leaves those it names as they are. -/
lemma Consistent.payments_iff (hc : Consistent sql db) (ext : Json) (o : Order)
    {f : Payment → Payment} (hf : ∀ q, (f q).orderId = q.orderId) :
    ((updateByIds (·.paymentId) ((db.paymentsNamed sql ext).map (·.paymentId)) f
        db.payments).filter fun q => q.orderId ≠ o.orderId) =
      (db.payments.filter fun q => q.orderId ≠ o.orderId) ↔
      ∀ q ∈ db.paymentsNamed sql ext, q.orderId ≠ o.orderId → f q = q := by
  unfold Database.paymentsNamed
  rw [updateByIds_filter _ _ _ fun _ ha _ hb hid => by rw [hc.paymentIds.eq_of_key_eq ha hb hid],
    filter_update_eq_iff fun q => by rw [hf]]
  simp only [List.mem_filter, decide_eq_true_eq]
  exact ⟨fun h q hq ho => h q hq.1 ho hq.2, fun h q hq ho hnamed => h q ⟨hq, hnamed⟩ ho⟩

lemma Consistent.invoices_iff (hc : Consistent sql db) (ext : Json) (o : Order)
    {f : Invoice → Invoice} (hf : ∀ i, (f i).orderId = i.orderId) :
    ((updateByIds (·.invoiceId) ((db.invoicesNamed sql ext).map (·.invoiceId)) f
        db.invoices).filter fun i => i.orderId ≠ o.orderId) =
      (db.invoices.filter fun i => i.orderId ≠ o.orderId) ↔
      ∀ i ∈ db.invoicesNamed sql ext, i.orderId ≠ o.orderId → f i = i := by
  unfold Database.invoicesNamed
  rw [updateByIds_filter _ _ _ fun _ ha _ hb hid => by rw [hc.invoiceIds.eq_of_key_eq ha hb hid],
    filter_update_eq_iff fun i => by rw [hf]]
  simp only [List.mem_filter, decide_eq_true_eq]
  exact ⟨fun h i hi ho => h i hi.1 ho hi.2, fun h i hi ho hnamed => h i ⟨hi, hnamed⟩ ho⟩

lemma PaymentUpserted.own {p : PaymentParams} (hupsert : PaymentUpserted sql o.orderId p db db')
    (hc : Consistent sql db) (h : PaymentsOf sql o p db) : OwnPayment sql o p db db' := by
  cases hupsert with
  | @updated status amount paidAt now named status_eq amount_eq =>
    obtain ⟨q, hq⟩ := List.exists_mem_of_ne_nil _ named
    obtain ⟨hmem, hmatch⟩ := mem_paymentsNamed.mp hq
    refine ⟨⟨q.update status amount paidAt now, ?_, h q hq, .inl hmatch, status_eq, amount_eq⟩, ?_,
      rfl⟩
    · exact mem_updateByIds.mpr ⟨q, hmem, .inl ⟨List.mem_map_of_mem hq, rfl⟩⟩
    · exact (hc.payments_iff p.externalPaymentId o (f := (·.update status amount paidAt now))
        fun _ => rfl).mpr fun a ha hother => absurd (h a ha) hother
  | @inserted row named ext orderId_eq order fresh id_le status_eq amount_eq =>
    refine ⟨⟨row, by simp, orderId_eq, .inr ⟨named, ext⟩, status_eq, amount_eq⟩, ?_, rfl⟩
    simp [List.filter_append, orderId_eq]

lemma InvoiceUpserted.own {p : InvoiceParams} (hupsert : InvoiceUpserted sql o.orderId p db db')
    (hc : Consistent sql db) (h : InvoicesOf sql o p db) : OwnInvoice sql o p db db' := by
  cases hupsert with
  | @updated status amount pdfUrl named status_eq amount_eq pdfUrl_eq =>
    obtain ⟨i, hi, horder⟩ := h.1 named
    obtain ⟨hmem, hmatch⟩ := mem_invoicesNamed.mp hi
    refine ⟨⟨i.update status amount pdfUrl, ?_, horder, .inl hmatch, status_eq, amount_eq⟩, rfl, ?_⟩
    · exact mem_updateByIds.mpr ⟨i, hmem, .inl ⟨List.mem_map_of_mem hi, rfl⟩⟩
    · refine (hc.invoices_iff p.externalInvoiceId o (f := (·.update status amount pdfUrl))
        fun _ => rfl).mpr fun a ha hother => ?_
      obtain ⟨hstatus, hamount, hpdfUrl⟩ := h.2 a ha hother
      obtain rfl := Except.ok.inj (status_eq.symm.trans hstatus)
      obtain rfl := Except.ok.inj (amount_eq.symm.trans hamount)
      obtain rfl := Except.ok.inj (pdfUrl_eq.symm.trans hpdfUrl)
      rfl
  | @inserted row named ext orderId_eq order fresh id_le status_eq amount_eq =>
    refine ⟨⟨row, by simp, orderId_eq, .inr ⟨named, ext⟩, status_eq, amount_eq⟩, rfl, ?_⟩
    simp [List.filter_append, orderId_eq]

/-- An invoice that the MERGE updates and that is as it was says what the event does. -/
lemma InvoiceUpserted.invoicesOf {p : InvoiceParams}
    (hupsert : InvoiceUpserted sql o.orderId p db db') (hc : Consistent sql db)
    (h : OwnInvoice sql o p db db') : InvoicesOf sql o p db := by
  cases hupsert with
  | @updated status amount pdfUrl named status_eq amount_eq pdfUrl_eq =>
    obtain ⟨⟨i, hi, horder, hnamed, -, -⟩, -, hothers⟩ := h
    have hothers := (hc.invoices_iff p.externalInvoiceId o (f := (·.update status amount pdfUrl))
      fun _ => rfl).mp hothers
    constructor
    · rintro -
      rcases hnamed with hmatch | ⟨hnone, -⟩
      · obtain ⟨a, ha, ⟨hid, rfl⟩ | ⟨-, rfl⟩⟩ := mem_updateByIds.mp hi
        · obtain ⟨b, hb, hid⟩ := List.mem_map.mp hid
          obtain rfl := hc.invoiceIds.eq_of_key_eq (mem_invoicesNamed.mp hb).1 ha hid
          exact ⟨b, hb, horder⟩
        · exact ⟨i, mem_invoicesNamed.mpr ⟨ha, hmatch⟩, horder⟩
      · exact absurd hnone named
    · intro a ha hother
      rw [← hothers a ha hother]
      exact ⟨status_eq, amount_eq, pdfUrl_eq⟩
  | inserted named => simp [InvoicesOf, named]

/-! ### Commits -/

lemma own_payment_iff {p : PaymentParams} (hc : Consistent sql db)
    (htype : event.getItem "event_type" = .ok (.str "PAYMENT_CONFIRMED"))
    (hdata : event.getItem "data" = .ok data) (hkey : data.getItem "external_order_id" = .ok key)
    (ho : (db.ordersNamed sql key).head? = some o) (hp : paymentParams data = .ok p)
    (hrun : Runs sql.engine (eventTxn event eventId) db outbox db') :
    (∀ outbox db', Runs sql.engine (eventTxn event eventId) db outbox db' →
      OwnPayment sql o p db db') ↔ PaymentsOf sql o p db := by
  constructor
  · intro hown q hq
    by_contra hother
    obtain ⟨id, row, now, db₁, -, happly, hagain⟩ := eventTxn_inv hrun htype hdata
    obtain ⟨hupsert, hconfirmed⟩ := paymentConfirmed_inv happly hkey ho
    obtain ⟨status, amount, paidAt, hupdates⟩ := upsertPayment_updates hupsert hp
      (List.ne_nil_of_mem hq)
    -- a commit at another time than the one the row was last updated at
    obtain ⟨now', hcommit⟩ := hagain none _ (hconfirmed _ (hupdates (q.updatedAt + 1))) <| by
      obtain ⟨p', -, hupserted⟩ := runs_upsertPayment hupsert
      cases hupserted <;> rfl
    have hsame := (hc.payments_iff p.externalPaymentId o
      (f := (·.update status amount paidAt (q.updatedAt + 1))) fun _ => rfl).mp
      (hown none _ hcommit).payments q hq hother
    have hupdated := congrArg Payment.updatedAt hsame
    simp [Payment.update] at hupdated
  · intro hall outbox db' hrun
    obtain ⟨id, row, now, db₁, rfl, happly, -⟩ := eventTxn_inv hrun htype hdata
    obtain ⟨p', hp', hupserted⟩ := runs_upsertPayment (paymentConfirmed_inv happly hkey ho).1
    obtain rfl := Except.ok.inj (hp.symm.trans hp')
    obtain ⟨howned, hpayments, hinvoices⟩ := hupserted.own (hc.ledger _) hall
    exact ⟨howned, hpayments, hinvoices⟩

lemma own_invoice_iff {p : InvoiceParams} (hc : Consistent sql db)
    (htype : event.getItem "event_type" = .ok (.str "INVOICE_ISSUED"))
    (hdata : event.getItem "data" = .ok data) (hkey : data.getItem "external_order_id" = .ok key)
    (ho : (db.ordersNamed sql key).head? = some o) (hp : invoiceParams data = .ok p)
    (hrun : Runs sql.engine (eventTxn event eventId) db outbox db') :
    (∀ outbox db', Runs sql.engine (eventTxn event eventId) db outbox db' →
      OwnInvoice sql o p db db') ↔ InvoicesOf sql o p db := by
  constructor
  · intro hown
    obtain ⟨id, row, now, db₁, rfl, happly, -⟩ := eventTxn_inv hrun htype hdata
    obtain ⟨p', hp', hupserted⟩ := runs_upsertInvoice (invoiceIssued_inv happly hkey ho)
    obtain rfl := Except.ok.inj (hp.symm.trans hp')
    obtain ⟨howned, hpayments, hinvoices⟩ := hown outbox _ hrun
    exact hupserted.invoicesOf (hc.ledger _) ⟨howned, hpayments, hinvoices⟩
  · intro hall outbox db' hrun
    obtain ⟨id, row, now, db₁, rfl, happly, -⟩ := eventTxn_inv hrun htype hdata
    obtain ⟨p', hp', hupserted⟩ := runs_upsertInvoice (invoiceIssued_inv happly hkey ho)
    obtain rfl := Except.ok.inj (hp.symm.trans hp')
    obtain ⟨howned, hpayments, hinvoices⟩ := hupserted.own (hc.ledger _) hall
    exact ⟨howned, hpayments, hinvoices⟩

/-- The order named owns what the event is about, and the other orders keep their payments and
invoices, exactly when the external id names no payment of another order, or only invoices that say
the same. -/
theorem own_rows_iff (ext : Externals) {f : Fleet} (h : Fleet.Reachable ext (fun _ _ => True) f)
    (hdata : event.getItem "data" = .ok data) (hkey : data.getItem "external_order_id" = .ok key)
    (ho : (f.world.db.ordersNamed ext.sql key).head? = some o)
    (hrun : Runs ext.sql.engine (eventTxn event eventId) f.world.db outbox db') :
    (event.getItem "event_type" = .ok (.str "PAYMENT_CONFIRMED") →
      ∃ p, paymentParams data = .ok p ∧
        ((∀ outbox db', Runs ext.sql.engine (eventTxn event eventId) f.world.db outbox db' →
          OwnPayment ext.sql o p f.world.db db') ↔ PaymentsOf ext.sql o p f.world.db)) ∧
    (event.getItem "event_type" = .ok (.str "INVOICE_ISSUED") →
      ∃ p, invoiceParams data = .ok p ∧
        ((∀ outbox db', Runs ext.sql.engine (eventTxn event eventId) f.world.db outbox db' →
          OwnInvoice ext.sql o p f.world.db db') ↔ InvoicesOf ext.sql o p f.world.db)) := by
  have hc := h.consistent
  constructor
  · intro htype
    obtain ⟨id, row, now, db₁, -, happly, -⟩ := eventTxn_inv hrun htype hdata
    obtain ⟨p, hp, -⟩ := runs_upsertPayment (paymentConfirmed_inv happly hkey ho).1
    exact ⟨p, hp, own_payment_iff hc htype hdata hkey ho hp hrun⟩
  · intro htype
    obtain ⟨id, row, now, db₁, -, happly, -⟩ := eventTxn_inv hrun htype hdata
    obtain ⟨p, hp, -⟩ := runs_upsertInvoice (invoiceIssued_inv happly hkey ho)
    exact ⟨p, hp, own_invoice_iff hc htype hdata hkey ho hp hrun⟩

/-- A `PAYMENT_CONFIRMED` event. -/
def paymentOf (eventId order payment : String) : Json :=
  .obj [("event_id", .str eventId), ("event_type", .str "PAYMENT_CONFIRMED"),
    ("data", .obj [("external_order_id", .str order), ("external_payment_id", .str payment),
      ("method", .str "PIX"), ("amount", .int 10)])]

/-- Two orders, the first of them paid. -/
def paidOrders : List (Json × Json) :=
  [(orderCreatedEvent "e1" "o1" "c1" "a1" (.str "Rua A"), .str "e1"),
    (orderCreatedEvent "e2" "o2" "c2" "a2" (.str "Rua B"), .str "e2"),
    (paymentOf "e3" "o1" "p1", .str "e3")]

lemma paidOrders_ids : ∀ event ∈ paidOrders, event.1.getItem "event_id" = .ok event.2 := by
  simp [paidOrders, orderCreatedEvent, paymentOf, Json.getItem]

/-- A payment of the second order under an id of its own. -/
theorem own_rows_second :
    ∃ (o : Order) (p : PaymentParams) (db db' : Database), db'.payments.length = 2 ∧
      OwnPayment .plain o p db db' := by
  obtain ⟨w, hreach, hdb⟩ := exists_reachable paidOrders (fun _ _ _ _ _ => trivial) (by decide)
    paidOrders_ids
  obtain ⟨outbox, hrun⟩ := @exists_runs .plain w.db .healthy (paymentOf "e4" "o2" "p2")
    (.str "e4") (by rw [hdb]; decide)
  obtain ⟨o, ho⟩ : ∃ o, (w.db.ordersNamed .plain (.str "o2")).head? = some o := by
    rw [← Option.isSome_iff_exists, hdb]
    decide
  obtain ⟨p, hp, hiff⟩ := (own_rows_iff _ hreach rfl rfl ho hrun).1 rfl
  cases hp
  refine ⟨o, _, w.db, _, ?_, hiff.mpr ?_ outbox _ hrun⟩
  · rw [hdb]
    decide
  · intro q hq
    have hnone : w.db.paymentsNamed .plain (.str "p2") = [] := by
      rw [hdb]
      decide
    have hq : q ∈ w.db.paymentsNamed .plain (.str "p2") := hq
    simp [hnone] at hq

/-- The payment of the first order is reported for the second one. -/
theorem own_rows_taken :
    ¬ ∀ (ext : Externals) (f : Fleet), Fleet.Reachable ext (fun _ _ => True) f →
      ∀ (event eventId data key : Json) (o : Order) (outbox : Option Outbox) (db' : Database),
      event.getItem "data" = .ok data → data.getItem "external_order_id" = .ok key →
      (f.world.db.ordersNamed ext.sql key).head? = some o →
      Runs ext.sql.engine (eventTxn event eventId) f.world.db outbox db' →
      (event.getItem "event_type" = .ok (.str "PAYMENT_CONFIRMED") →
        ∀ p, paymentParams data = .ok p → OwnPayment ext.sql o p f.world.db db') ∧
      (event.getItem "event_type" = .ok (.str "INVOICE_ISSUED") →
        ∀ p, invoiceParams data = .ok p → OwnInvoice ext.sql o p f.world.db db') := by
  intro h
  obtain ⟨w, hreach, hdb⟩ := exists_reachable paidOrders (fun _ _ _ _ _ => trivial) (by decide)
    paidOrders_ids
  obtain ⟨outbox, hrun⟩ := @exists_runs .plain w.db .healthy (paymentOf "e4" "o2" "p1")
    (.str "e4") (by rw [hdb]; decide)
  obtain ⟨o, ho, hnone⟩ : ∃ o, (w.db.ordersNamed .plain (.str "o2")).head? = some o ∧
      ∀ q ∈ (runInTxn .plain .healthy (paymentOf "e4" "o2" "p1") (.str "e4") w.db).2.payments,
        q.orderId ≠ o.orderId := by
    obtain ⟨o, ho⟩ : ∃ o ∈ (w.db.ordersNamed .plain (.str "o2")).head?,
        ∀ q ∈ (runInTxn .plain .healthy (paymentOf "e4" "o2" "p1") (.str "e4") w.db).2.payments,
          q.orderId ≠ o.orderId := by
      rw [hdb]
      decide
    exact ⟨o, ho⟩
  obtain ⟨q, hq, horder, -⟩ := ((h _ _ hreach _ _ _ _ o outbox _ rfl rfl ho hrun).1 rfl _ rfl).owned
  exact hnone q hq horder

end EventPipeline

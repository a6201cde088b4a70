import EventPipeline.Fleet

/-!
# The idempotency ledger

`processed_webhook_events` is claimed and marked in the transaction of the event, and the
history is the one table every effect of which carries the id of its event. The invariant
`LedgerInv` ties the two tables, and holds however the attempts of the consumers end, where the
ids of the events are found under what the ledger stores of them (`exactlyOnce`).
-/

namespace EventPipeline

open Transaction

variable {sql : SqlServer} {db db' : Database} {eventId eventType data : Json}
  {outbox : Option Outbox}

/-! ### Tables a step leaves alone -/

lemma ClientUpserted.frame {p : ClientParams} {id : ℕ} (h : ClientUpserted sql p db id db') :
    db' = { db with clients := db'.clients, next := db'.next } := by
  cases h <;> rfl

lemma AddressUpserted.frame {clientId id : ℕ} {ext : Json} {content : AddressField → Json}
    (h : AddressUpserted sql clientId ext content db id db') :
    db' = { db with address := db'.address, next := db'.next } := by
  cases h <;> rfl

lemma ItemsInserted.frame {orderId : ℕ} {items : Json} (h : ItemsInserted sql orderId items db db') :
    db' = { db with orderItems := db'.orderItems, next := db'.next } := by
  cases h <;> rfl

lemma PaymentUpserted.frame {orderId : ℕ} {p : PaymentParams}
    (h : PaymentUpserted sql orderId p db db') :
    db' = { db with payments := db'.payments, next := db'.next } := by
  cases h <;> rfl

lemma InvoiceUpserted.frame {orderId : ℕ} {p : InvoiceParams}
    (h : InvoiceUpserted sql orderId p db db') :
    db' = { db with invoices := db'.invoices, next := db'.next } := by
  cases h <;> rfl

/-- The order of an `ORDER_CREATED` event is the only order written before its history. -/
lemma created_frame {p : ClientParams} {ext items : Json} {content : AddressField → Json}
    {clientId addressId : ℕ} {order : Order} {db₁ db₂ db₃ : Database}
    (hclient : ClientUpserted sql p db clientId db₁)
    (haddress : AddressUpserted sql clientId ext content db₁ addressId db₂)
    (hitems : ItemsInserted sql order.orderId items (db₂.addOrder order) db₃) :
    db₃ = { db with
      clients := db₁.clients
      address := db₂.address
      orders := db.orders ++ [order]
      orderItems := db₃.orderItems
      next := db₃.next } := by
  cases hclient <;> cases haddress <;> cases hitems <;> rfl

lemma next_order_eq {p : ClientParams} {ext : Json} {content : AddressField → Json}
    {clientId addressId : ℕ} {db₁ db₂ : Database} (hclient : ClientUpserted sql p db clientId db₁)
    (haddress : AddressUpserted sql clientId ext content db₁ addressId db₂) :
    db₂.next.order = db.next.order := by
  cases hclient <;> cases haddress <;> rfl

lemma Processed.processedEvents_eq (h : Processed sql eventId eventType data db outbox db') :
    db'.processedEvents = db.processedEvents := by
  cases h with
  | created _ _ _ _ _ hclient _ haddress _ _ hitems _ =>
    exact congrArg (·.processedEvents) (created_frame hclient haddress hitems)
  | statusChanged => rfl
  | paid _ _ _ _ hpayment => exact congrArg (·.processedEvents) hpayment.frame
  | invoiced _ _ _ _ hinvoice => exact congrArg (·.processedEvents) hinvoice.frame
  | unknownOrder => rfl
  | unknownType => rfl

/-- An event adds at most one row to the history, under its own id. -/
lemma Processed.statusHistory_cases (h : Processed sql eventId eventType data db outbox db') :
    db'.statusHistory = db.statusHistory ∨
      ∃ row, db'.statusHistory = db.statusHistory ++ [row] ∧
        sql.varchar 100 "source_event_id" eventId = .ok row.sourceEventId := by
  cases h with
  | created _ _ _ _ _ hclient _ haddress _ _ hitems hhistory =>
    refine .inr ⟨_, ?_, hhistory.source_eq⟩
    exact congrArg (·.statusHistory ++ [_]) (created_frame hclient haddress hitems)
  | statusChanged _ _ _ _ _ hhistory => exact .inr ⟨_, rfl, hhistory.source_eq⟩
  | paid _ _ _ _ hpayment => exact .inl (congrArg (·.statusHistory) hpayment.frame)
  | invoiced _ _ _ _ hinvoice => exact .inl (congrArg (·.statusHistory) hinvoice.frame)
  | unknownOrder => exact .inl rfl
  | unknownType => exact .inl rfl

/-! ### The invariant -/

/-- What the ledger and the history owe to each other: every claimed event has its own id and
is marked as processed, and every row of the history belongs to an event of its own. -/
structure LedgerInv (sql : SqlServer) (db : Database) : Prop where
  distinct : db.processedEvents.Pairwise fun e e' =>
    sql.same e.eventId.text e'.eventId.text = false
  marked : ∀ e ∈ db.processedEvents, e.processedAt.isSome = true
  sources : ∀ h ∈ db.statusHistory, ∃ e ∈ db.processedEvents, h.sourceEventId = some e.eventId
  sources_distinct : db.statusHistory.Pairwise fun h h' => ∀ id id',
    h.sourceEventId = some id → h'.sourceEventId = some id' → sql.same id.text id'.text = false

lemma SqlServer.same_comm (sql : SqlServer) (a b : String) : sql.same a b = sql.same b a := by
  simp [SqlServer.same, eq_comm]

lemma LedgerInv.empty (sql : SqlServer) : LedgerInv sql .empty :=
  ⟨.nil, by simp [Database.empty], by simp [Database.empty], .nil⟩

/-- Claiming an event that no row has, the row being unmarked so far. -/
lemma LedgerInv.claim {row : ProcessedEvent} (hinv : LedgerInv sql db)
    (hrow : Claimed sql eventId eventType db row) :
    (db.processedEvents ++ [row]).Pairwise fun e e' =>
      sql.same e.eventId.text e'.eventId.text = false := by
  refine List.pairwise_append.mpr ⟨hinv.distinct, List.pairwise_singleton _ _, ?_⟩
  intro e he e' he'
  rw [List.mem_singleton.mp he', sql.same_comm]
  exact hrow.fresh e he

/-- A row of the history added under an id no event had. -/
lemma LedgerInv.addHistory {row : ProcessedEvent} {history : StatusHistory}
    (hinv : LedgerInv sql db) (hrow : Claimed sql eventId eventType db row)
    (hsource : sql.varchar 100 "source_event_id" eventId = .ok history.sourceEventId) :
    history.sourceEventId = some row.eventId ∧
      (db.statusHistory ++ [history]).Pairwise fun h h' => ∀ id id',
        h.sourceEventId = some id → h'.sourceEventId = some id' →
          sql.same id.text id'.text = false := by
  have hsome : history.sourceEventId = some row.eventId := by
    obtain ⟨s, hs, -⟩ := hrow.eventId
    rcases sql.varchar_eq_ok.mp hsource with ⟨hnone, -⟩ | ⟨w, hw, htext⟩
    · rw [hs] at hnone
      cases hnone
    · rw [hw, sql.textOf_unique htext hrow.eventId]
  refine ⟨hsome, List.pairwise_append.mpr
    ⟨hinv.sources_distinct, List.pairwise_singleton _ _, ?_⟩⟩
  intro h hh h' hh' id id' hid hid'
  rw [List.mem_singleton.mp hh', hsome] at hid'
  cases hid'
  obtain ⟨e, he, hsrc⟩ := hinv.sources h hh
  rw [hid] at hsrc
  cases hsrc
  rw [sql.same_comm]
  exact hrow.fresh e he

/-- Marking keeps the ids of the ledger. -/
lemma exists_mem_marked {now : ℕ} {e : ProcessedEvent} (he : e ∈ db.processedEvents) :
    ∃ e' ∈ (db.marked sql eventId now).processedEvents, e'.eventId = e.eventId := by
  refine ⟨_, List.mem_map_of_mem he, ?_⟩
  split_ifs <;> rfl

lemma mem_marked {now : ℕ} {e' : ProcessedEvent}
    (he' : e' ∈ (db.marked sql eventId now).processedEvents) :
    ∃ e ∈ db.processedEvents, e'.eventId = e.eventId := by
  obtain ⟨e, he, rfl⟩ := List.mem_map.mp he'
  refine ⟨e, he, ?_⟩
  split_ifs <;> rfl

lemma marked_pairwise {now : ℕ} {R : Varchar 100 → Varchar 100 → Prop}
    (h : db.processedEvents.Pairwise fun e e' => R e.eventId e'.eventId) :
    (db.marked sql eventId now).processedEvents.Pairwise fun e e' => R e.eventId e'.eventId := by
  refine List.pairwise_map.mpr (h.imp fun {e e'} hR => ?_)
  split_ifs <;> exact hR

/-- One committed event, marking included. -/
lemma LedgerInv.step {event : Json} {s : String} (hinv : LedgerInv sql db)
    (hid : event.getItem "event_id" = .ok (.str s)) (hfinds : sql.Finds 100 s)
    (h : Runs sql.engine (eventTxn event (.str s)) db outbox db') : LedgerInv sql db' := by
  obtain ⟨id, eventType, data, row, db₁, now, hc, rfl⟩ := committed_of_runs h
  obtain rfl : Json.str s = id := Except.ok.inj (hid.symm.trans hc.eventId_eq)
  have hledger : db₁.processedEvents = db.processedEvents ++ [row] :=
    hc.processed.processedEvents_eq
  have hrow : row ∈ db₁.processedEvents := by simp [hledger]
  have hold : ∀ e ∈ db.processedEvents, e ∈ db₁.processedEvents := by
    intro e he
    simp [hledger, he]
  refine ⟨marked_pairwise (R := fun a b => sql.same a.text b.text = false)
    (hledger ▸ hinv.claim hc.claimed), ?_, ?_, ?_⟩
  · intro e' he'
    obtain ⟨e, he, rfl⟩ := List.mem_map.mp he'
    split_ifs with hm
    · rfl
    · rw [hledger] at he
      rcases List.mem_append.mp he with he | he
      · exact hinv.marked e he
      · -- the claimed row itself is matched by the event's own id
        rw [List.mem_singleton.mp he, SqlServer.matchesEvent, SqlServer.compare_str,
          hfinds _ (sql.textOf_str.mp hc.claimed.eventId)] at hm
        simp [holds] at hm
  · intro h hh
    have hkept : ∀ e ∈ db₁.processedEvents, h.sourceEventId = some e.eventId →
        ∃ e ∈ (db₁.marked sql (.str s) now).processedEvents, h.sourceEventId = some e.eventId := by
      intro e he hsrc
      obtain ⟨e', he', heq⟩ : ∃ e' ∈ (db₁.marked sql (.str s) now).processedEvents,
          e'.eventId = e.eventId := exists_mem_marked he
      exact ⟨e', he', heq ▸ hsrc⟩
    rcases hc.processed.statusHistory_cases with hsame | ⟨row', happend, hsource⟩
    · obtain ⟨e, he, hsrc⟩ := hinv.sources h (hsame ▸ hh)
      exact hkept e (hold e he) hsrc
    · have hmem : h ∈ db.statusHistory ++ [row'] := happend ▸ hh
      rcases List.mem_append.mp hmem with hmem | hmem
      · obtain ⟨e, he, hsrc⟩ := hinv.sources h hmem
        exact hkept e (hold e he) hsrc
      · rw [List.mem_singleton.mp hmem]
        rw [List.mem_singleton.mp hmem] at hkept
        exact hkept row hrow (hinv.addHistory hc.claimed hsource).1
  · change db₁.statusHistory.Pairwise _
    rcases hc.processed.statusHistory_cases with hsame | ⟨row', happend, hsource⟩
    · rw [hsame]
      exact hinv.sources_distinct
    · rw [happend]
      exact (hinv.addHistory hc.claimed hsource).2

/-! ### Events in the ledger -/

section InLedger

variable {event : Json}

/-- The event is in the ledger. -/
def InLedger (sql : SqlServer) (eventId : Json) (db : Database) : Prop :=
  ∃ row ∈ db.processedEvents, sql.TextOf eventId row.eventId

lemma inLedger_of_runs (hid : event.getItem "event_id" = .ok eventId)
    (h : Runs sql.engine (eventTxn event eventId) db outbox db') : InLedger sql eventId db' := by
  obtain ⟨id, eventType, data, row, db₁, now, hc, rfl⟩ := committed_of_runs h
  obtain rfl : eventId = id := Except.ok.inj (hid.symm.trans hc.eventId_eq)
  have hrow : row ∈ db₁.processedEvents := by simp [hc.processed.processedEvents_eq]
  obtain ⟨row', hrow', heq⟩ : ∃ e' ∈ (db₁.marked sql eventId now).processedEvents,
      e'.eventId = row.eventId := exists_mem_marked hrow
  exact ⟨row', hrow', heq ▸ hc.claimed.eventId⟩

lemma InLedger.not_runs (h : InLedger sql eventId db) (hid : event.getItem "event_id" = .ok eventId) :
    ¬ Runs sql.engine (eventTxn event eventId) db outbox db' := by
  intro hrun
  obtain ⟨id, eventType, data, row, db₁, now, hc, -⟩ := committed_of_runs hrun
  obtain rfl : eventId = id := Except.ok.inj (hid.symm.trans hc.eventId_eq)
  obtain ⟨row', hrow', htext⟩ := h
  have hfresh := hc.claimed.fresh row' hrow'
  rw [sql.textOf_unique hc.claimed.eventId htext, sql.same_refl] at hfresh
  cases hfresh

/-- No attempt at an event in the ledger returns. -/
lemma InLedger.runInTxn_error (h : InLedger sql eventId db)
    (hid : event.getItem "event_id" = .ok eventId) (env : Attempt) :
    ∃ x, (runInTxn sql env event eventId db).1 = .error x := by
  rcases heq : runInTxn sql env event eventId db with ⟨result, db'⟩
  cases result with
  | error x => exact ⟨x, rfl⟩
  | ok outbox => exact absurd (runInTxn_ok heq) (h.not_runs hid)

lemma InLedger.runInTxn (h : InLedger sql eventId db)
    (hid : event.getItem "event_id" = .ok eventId) (env : Attempt) :
    InLedger sql eventId (runInTxn sql env event eventId db).2 :=
  runInTxn_preserves (fun _ _ hrun => absurd hrun (h.not_runs hid)) env h

end InLedger

/-! ### Exactly-once effects -/

/-- Every call is about an event whose id is a text. -/
def TextIds (_ : Database) (call : Call) : Prop :=
  ∃ s, call.eventId = .str s

/-- The id is found under what the ledger stores of it, or what it stores is there already. -/
def FoundId (sql : SqlServer) (s : String) (db : Database) : Prop :=
  sql.Finds 100 s ∨ InLedger sql (.str s) db

/-- Every call is about an event whose id is such a text. -/
def FoundIds (sql : SqlServer) (db : Database) (call : Call) : Prop :=
  ∃ s, call.eventId = .str s ∧ FoundId sql s db

theorem Fleet.Reachable.ledgerInv {ext : Externals} {f : Fleet}
    (h : Fleet.Reachable ext (FoundIds ext.sql) f) : LedgerInv ext.sql f.world.db := by
  refine h.db_invariant (LedgerInv.empty _) fun call db outbox db' ha hinv hrun => ?_
  obtain ⟨s, hs, hfound⟩ := ha
  have hid : call.event.getItem "event_id" = .ok (.str s) := hs ▸ call.eventId_eq
  rw [hs] at hrun
  rcases hfound with hfinds | hledger
  · exact hinv.step hid hfinds hrun
  · exact absurd hrun (hledger.not_runs hid)

/-- The transaction of an event whose id is found in the ledger does not commit. -/
lemma not_runs_of_claimed {event : Json} {s : String}
    (hid : event.getItem "event_id" = .ok (.str s)) (hfound : FoundId sql s db)
    (hmem : InLedger sql (.str s) db ∨ ∃ e ∈ db.processedEvents, sql.same s e.eventId.text = true) :
    ¬ Runs sql.engine (eventTxn event (.str s)) db outbox db' := by
  intro h
  rcases hfound with hfinds | hledger
  · rcases hmem with hledger | ⟨e, he, hsame⟩
    · exact hledger.not_runs hid h
    · obtain ⟨id, eventType, data, row, db₁, now, hc, -⟩ := committed_of_runs h
      obtain rfl : Json.str s = id := Except.ok.inj (hid.symm.trans hc.eventId_eq)
      have hrow := hfinds _ (sql.textOf_str.mp hc.claimed.eventId)
      have hfresh := hc.claimed.fresh e he
      rw [sql.same_congr hrow, hsame] at hfresh
      cases hfresh
  · exact hledger.not_runs hid h

theorem handleMessage_claimed {ext : Externals} {msg : Message} {event : Json} {s : String}
    (env : CallEnv) {w : World} (hdec : decodeEvent ext msg.value = .ok (event, .str s))
    (hfound : FoundId ext.sql s w.db) (hmem : InLedger ext.sql (.str s) w.db ∨
      ∃ e ∈ w.db.processedEvents, ext.sql.same s e.eventId.text = true) :
    (handleMessage ext env msg w).2.db = w.db := by
  refine handleMessage_preserves (I := (· = w.db)) ?_ env rfl
  rintro event' eventId db outbox db' hdec' rfl hrun
  rw [hdec] at hdec'
  cases hdec'
  exact absurd hrun (not_runs_of_claimed (decodeEvent_eventId hdec) hfound hmem)

/-- However the attempts end, while the ids that are received are found under what the ledger stores
of them: the ids in the ledger are distinct and marked, every row of the history belongs to an
event of its own in the ledger, and a message whose event is in the ledger changes nothing. -/
theorem exactlyOnce (ext : Externals) {f : Fleet}
    (h : Fleet.Reachable ext (FoundIds ext.sql) f) :
    (f.world.db.processedEvents.Pairwise
        (fun e e' => ext.sql.same e.eventId.text e'.eventId.text = false) ∧
      ∀ e ∈ f.world.db.processedEvents, e.processedAt.isSome = true) ∧
    ((∀ h ∈ f.world.db.statusHistory, ∃ e ∈ f.world.db.processedEvents,
        h.sourceEventId = some e.eventId) ∧
      f.world.db.statusHistory.Pairwise fun h h' => ∀ id id', h.sourceEventId = some id →
        h'.sourceEventId = some id' → ext.sql.same id.text id'.text = false) ∧
    ∀ (env : CallEnv) (msg : Message) (event : Json) (s : String),
      decodeEvent ext msg.value = .ok (event, .str s) → FoundId ext.sql s f.world.db →
      (InLedger ext.sql (.str s) f.world.db ∨
        ∃ e ∈ f.world.db.processedEvents, ext.sql.same s e.eventId.text = true) →
      (handleMessage ext env msg f.world).2.db = f.world.db := by
  have hinv := h.ledgerInv
  refine ⟨⟨hinv.distinct, hinv.marked⟩, ⟨hinv.sources, hinv.sources_distinct⟩, ?_⟩
  intro env msg event s hdec hfound hmem
  exact handleMessage_claimed env hdec hfound hmem

/-- An order that was created and is delivered a second time. -/
theorem exactlyOnce_redelivered :
    ∃ w : World, w = (handleMessage sampleExternals .healthy sampleMessage .start).2 ∧
      w.db.statusHistory.length = 1 ∧
      (handleMessage sampleExternals .healthy sampleMessage w).2.db = w.db := by
  obtain ⟨w, hw⟩ : ∃ w, w = (handleMessage sampleExternals .healthy sampleMessage .start).2 :=
    ⟨_, rfl⟩
  have hfinds : sampleExternals.sql.Finds 100 "e1" :=
    (SqlServer.preserves_of_ascii (by decide) (by decide)).finds
  have hreach : Fleet.Reachable sampleExternals (FoundIds sampleExternals.sql) ⟨w, []⟩ := by
    rw [hw]
    refine Fleet.Reachable.start.trans (Fleet.handleMessage_reaches ?_ .healthy _ [])
    intro db call h
    rw [decodeEvent_sample] at h
    simp only [Except.ok.injEq, Prod.mk.injEq] at h
    exact ⟨"e1", h.2.symm, .inl hfinds⟩
  have hdb : w.db = (runAttempts .plain CallEnv.healthy.attempts sampleOrder (.str "e1")
      .empty).2 := by
    rw [hw]
    exact handleMessage_db decodeEvent_sample .healthy .start
  have hmem : ∃ e ∈ w.db.processedEvents, sampleExternals.sql.same "e1" e.eventId.text = true := by
    rw [hdb]
    decide
  have hhistory : w.db.statusHistory.length = 1 := by
    rw [hdb]
    decide
  have hsame := (exactlyOnce sampleExternals hreach).2.2 .healthy sampleMessage sampleOrder
    "e1" decodeEvent_sample (.inl hfinds) (.inr hmem)
  simp only at hsame
  exact ⟨w, hw, hhistory, hsame⟩

/-- An order event whose id the code page does not have. -/
def foreignEvent : Json :=
  orderCreatedEvent "日本" "o1" "c1" "a1" (.str "Rua A")

/-- Its row is stored as `??`, and the UPDATE that marks it does not find it. -/
theorem exactlyOnce_unmarked :
    ∃ f : Fleet, Fleet.Reachable (.rendered [foreignEvent]) TextIds f ∧
      ∃ e ∈ f.world.db.processedEvents, e.processedAt = none := by
  obtain ⟨msg, hmsg⟩ : ∃ msg : Message, msg = ⟨0, foreignEvent.render.toUTF8⟩ := ⟨_, rfl⟩
  have hdec : decodeEvent (.rendered [foreignEvent]) msg.value = .ok (foreignEvent, .str "日本") :=
    hmsg ▸ decodeEvent_rendered (by simp) (List.mem_singleton_self _) rfl
  refine ⟨⟨(handleMessage (.rendered [foreignEvent]) .healthy msg .start).2, []⟩, ?_, ?_⟩
  · refine Fleet.Reachable.start.trans (Fleet.handleMessage_reaches ?_ .healthy _ [])
    intro db call h
    rw [hdec] at h
    simp only [Except.ok.injEq, Prod.mk.injEq] at h
    exact ⟨"日本", h.2.symm⟩
  · have hdb := handleMessage_db hdec .healthy .start
    have hsql : (Externals.rendered [foreignEvent]).sql = .plain := rfl
    rw [hsql] at hdb
    simp only
    rw [hdb]
    decide

end EventPipeline

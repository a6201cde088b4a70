import EventPipeline.AuditTrail

/-!
# Terminal orders

The trigger looks at the rows as they were before the UPDATE, so once an order is delivered,
cancelled or closed no event writes it again: its row and its trail stay, nothing more is
published for it, and a change of its status is undone with the claim of its event
(`terminal_immutable`).
-/

namespace EventPipeline

open Transaction

variable {sql : SqlServer} {db db' : Database} {eventId eventType data : Json}
  {outbox : Option Outbox}

/-! ### One committed event -/

/-- An order that is stored, terminal, and has the rows `trail` as its history. -/
structure Frozen (sql : SqlServer) (o : Order) (trail : List StatusHistory) (db : Database) :
    Prop where
  consistent : Consistent sql db
  mem : o ∈ db.orders
  terminal : sql.isTerminal o = true
  trail_eq : db.historyOf o.orderId = trail

variable {o : Order} {trail : List StatusHistory}

/-- A status change that commits names orders that are not terminal. -/
lemma Frozen.not_named {ext newStatus : Json} {status : Varchar 20} {closing : Bool}
    (h : Frozen sql o trail db) (hupdate : StatusUpdate sql ext newStatus db status closing) :
    o ∉ db.ordersNamed sql ext := by
  intro hmem
  have hopen := hupdate.not_terminal o hmem
  rw [h.terminal] at hopen
  cases hopen

lemma Frozen.orderId_ne {ext : Json} (h : Frozen sql o trail db)
    (hnot : o ∉ db.ordersNamed sql ext) {o' : Order} (ho' : o' ∈ db.ordersNamed sql ext) :
    o'.orderId ≠ o.orderId := by
  intro heq
  have := h.consistent.orderIds.eq_of_key_eq (List.mem_filter.mp ho').1 h.mem heq
  exact hnot (this ▸ ho')

/-- What keeps the order and its history keeps it frozen. -/
lemma Frozen.of_eq (h : Frozen sql o trail db) (hc : Consistent sql db')
    (hmem : o ∈ db'.orders) (hhistory : db'.statusHistory = db.statusHistory) :
    Frozen sql o trail db' := by
  refine ⟨hc, hmem, h.terminal, ?_⟩
  rw [← h.trail_eq]
  simp only [Database.historyOf, hhistory]

lemma selectSnapshot_orderId {orderId : ℕ} {snapshot : SnapshotOrder}
    (h : (SqlServer.selectSnapshot db orderId).head? = some snapshot) :
    snapshot.orderId = orderId := by
  have hmem := List.mem_of_head? h
  simp only [SqlServer.selectSnapshot, List.mem_flatMap, List.mem_map, List.mem_filter] at hmem
  obtain ⟨o, ⟨-, ho⟩, c, -, a, -, rfl⟩ := hmem
  exact of_decide_eq_true ho

lemma Frozen.processed (h : Frozen sql o trail db)
    (hp : Processed sql eventId eventType data db outbox db') :
    Frozen sql o trail db' ∧ ∀ ob, outbox = some ob → ob.order.order.orderId ≠ o.orderId := by
  have hc := h.consistent.processed hp
  cases hp with
  | @created _ _ _ _ _ _ _ _ order history _ _ _ _ _ _ _ _ hclient _ haddress _ horder hitems hhistory =>
    have hframe := created_frame hclient haddress hitems
    have horders := congrArg (·.orders) hframe
    have hhistories := congrArg (·.statusHistory) hframe
    have hnext := next_order_eq hclient haddress ▸ horder.id_le
    refine ⟨⟨hc, ?_, h.terminal, ?_⟩, fun ob hob => by cases hob⟩
    · exact horders ▸ List.mem_append_left _ h.mem
    · have hne : order.orderId ≠ o.orderId := Ne.symm (h.consistent.orderIds.key_ne hnext h.mem)
      rw [historyOf_addHistory, hhistory.orderId_eq, if_neg hne, List.append_nil, ← h.trail_eq]
      simp only [Database.historyOf, hhistories]
  | @statusChanged ext newStatus o' status closing now history _ _ _ _ named hupdate hhistory houtbox =>
    have hnot := h.not_named hupdate
    have hne := h.orderId_ne hnot (List.mem_of_head? named)
    refine ⟨⟨hc, ?_, h.terminal, ?_⟩, ?_⟩
    · refine mem_updateByIds.mpr ⟨o, h.mem, .inr ⟨fun hid => ?_, rfl⟩⟩
      obtain ⟨b, hb, hid⟩ := List.mem_map.mp hid
      exact h.orderId_ne hnot hb hid
    · rw [historyOf_addHistory, hhistory.orderId_eq, if_neg hne, List.append_nil]
      exact h.trail_eq
    · rintro ob rfl
      split_ifs at houtbox with happroved
      obtain ⟨snapshot, hob, hselect, -⟩ := houtbox
      cases hob
      rw [selectSnapshot_orderId hselect]
      exact hne
  | paid _ _ _ _ hpayment =>
    refine ⟨h.of_eq hc ?_ (congrArg (·.statusHistory) hpayment.frame), fun ob hob => by cases hob⟩
    exact (congrArg (·.orders) hpayment.frame) ▸ h.mem
  | invoiced _ _ _ _ hinvoice =>
    refine ⟨h.of_eq hc ?_ (congrArg (·.statusHistory) hinvoice.frame), fun ob hob => by cases hob⟩
    exact (congrArg (·.orders) hinvoice.frame) ▸ h.mem
  | unknownOrder => exact ⟨h, fun ob hob => by cases hob⟩
  | unknownType => exact ⟨h, fun ob hob => by cases hob⟩

lemma Frozen.step {event : Json} (h : Frozen sql o trail db)
    (hrun : Runs sql.engine (eventTxn event eventId) db outbox db') :
    Frozen sql o trail db' ∧ ∀ ob, outbox = some ob → ob.order.order.orderId ≠ o.orderId := by
  have hc := h.consistent.step hrun
  obtain ⟨id, eventType, data, row, db₁, now, hcom, rfl⟩ := committed_of_runs hrun
  have hledger : Frozen sql o trail { db with processedEvents := db.processedEvents ++ [row] } :=
    h.of_eq (h.consistent.ledger _) h.mem rfl
  obtain ⟨h₁, hout⟩ := hledger.processed hcom.processed
  exact ⟨h₁.of_eq hc h₁.mem rfl, hout⟩

/-! ### Continuations -/

lemma toString_inj {a b : ℕ} (h : toString a = toString b) : a = b := by
  have hvalue := congrArg (fun s : String => Nat.ofDigitChars 10 s.toList 0) h
  simpa using hvalue

variable {ext : Externals}

/-- One call keeps a frozen order frozen, and publishes nothing for it. -/
lemma Frozen.handleMessage {w : World} (h : Frozen ext.sql o trail w.db) (env : CallEnv)
    (msg : Message) :
    Frozen ext.sql o trail (handleMessage ext env msg w).2.db ∧
      ∃ new, (EventPipeline.handleMessage ext env msg w).2.sent = w.sent ++ new ∧
        ∀ s ∈ new, s.key ≠ toString o.orderId := by
  refine ⟨handleMessage_preserves (fun event eventId db outbox db' _ hf hrun => (hf.step hrun).1)
    env h, ?_⟩
  unfold EventPipeline.handleMessage
  split
  · exact ⟨[], by simp [World.malformed, World.count, World.log], by simp⟩
  · rename_i event eventId heq
    rcases hattempts : runAttempts ext.sql env.attempts event eventId w.db with ⟨result, db⟩
    rcases conclude_sent ext env event eventId result { w with db } with hsent |
      ⟨ob, value, accepted, rfl, -, hsent⟩
    · exact ⟨[], by simpa using hsent, by simp⟩
    · refine ⟨_, hsent, fun s hs => ?_⟩
      obtain ⟨db₀, h₀, hrun⟩ := runAttempts_ok h (fun _ _ _ hf hrun => (hf.step hrun).1) hattempts
      rw [List.mem_singleton.mp hs]
      exact fun hkey => (h₀.step hrun).2 ob rfl (toString_inj hkey)

lemma Frozen.handleAll {w : World} (h : Frozen ext.sql o trail w.db)
    (calls : List (CallEnv × Message)) :
    Frozen ext.sql o trail (handleAll ext calls w).db ∧
      ∃ new, (EventPipeline.handleAll ext calls w).sent = w.sent ++ new ∧
        ∀ s ∈ new, s.key ≠ toString o.orderId := by
  induction calls generalizing w with
  | nil => exact ⟨h, [], by simp, by simp⟩
  | cons call calls ih =>
    obtain ⟨h₁, new₁, hsent₁, hnew₁⟩ := h.handleMessage call.1 call.2
    obtain ⟨h₂, new₂, hsent₂, hnew₂⟩ := ih h₁
    refine ⟨h₂, new₁ ++ new₂, ?_, fun s hs => ?_⟩
    · rw [← List.append_assoc, ← hsent₁]
      exact hsent₂
    · rcases List.mem_append.mp hs with hs | hs
      · exact hnew₁ s hs
      · exact hnew₂ s hs

/-- A change of the status of a frozen order does not commit. -/
lemma Frozen.not_runs {event data name : Json} (h : Frozen sql o trail db)
    (htype : event.getItem "event_type" = .ok (.str "ORDER_STATUS_CHANGED"))
    (hdata : event.getItem "data" = .ok data)
    (hname : data.getItem "external_order_id" = .ok name)
    (hmem : o ∈ db.ordersNamed sql name) :
    ¬ Runs sql.engine (eventTxn event eventId) db outbox db' := by
  intro hrun
  obtain ⟨id, eventType, data', row, db₁, now, hcom, -⟩ := committed_of_runs hrun
  obtain rfl : Json.str "ORDER_STATUS_CHANGED" = eventType :=
    Except.ok.inj (htype.symm.trans hcom.eventType_eq)
  obtain rfl : data = data' := Except.ok.inj (hdata.symm.trans hcom.data_eq)
  have hledger : Frozen sql o trail { db with processedEvents := db.processedEvents ++ [row] } :=
    h.of_eq (h.consistent.ledger _) h.mem rfl
  cases hcom.processed with
  | created type_eq => simp at type_eq
  | statusChanged _ hext _ _ hupdate _ _ =>
    obtain rfl := Except.ok.inj (hname.symm.trans hext)
    exact hledger.not_named hupdate hmem
  | paid type_eq => simp at type_eq
  | invoiced type_eq => simp at type_eq
  | unknownOrder hext named =>
    obtain rfl := Except.ok.inj (hname.symm.trans hext)
    change db.ordersNamed sql name = [] at named
    rw [named] at hmem
    cases hmem
  | unknownType _ not_changed => exact not_changed rfl

/-- After any further calls, an order that was terminal and its history are as they were and
nothing was published for it; and a change of its status, whatever happens to its attempts,
leaves every table as it is, its event not being in the ledger. -/
theorem terminal_immutable (ext : Externals) {f : Fleet}
    (h : Fleet.Reachable ext (fun _ _ => True) f) {o : Order} (ho : o ∈ f.world.db.orders)
    (hterminal : ext.sql.isTerminal o = true) (calls : List (CallEnv × Message)) :
    o ∈ (handleAll ext calls f.world).db.orders ∧
    (handleAll ext calls f.world).db.historyOf o.orderId = f.world.db.historyOf o.orderId ∧
    (∃ new, (handleAll ext calls f.world).sent = f.world.sent ++ new ∧
      ∀ s ∈ new, s.key ≠ toString o.orderId) ∧
    ∀ (env : CallEnv) (msg : Message) (event eventId data name : Json),
      decodeEvent ext msg.value = .ok (event, eventId) →
      event.getItem "event_type" = .ok (.str "ORDER_STATUS_CHANGED") →
      event.getItem "data" = .ok data → data.getItem "external_order_id" = .ok name →
      o ∈ (handleAll ext calls f.world).db.ordersNamed ext.sql name →
      (∀ e ∈ (handleAll ext calls f.world).db.processedEvents,
        holds (ext.sql.matchesEvent eventId e) = false) →
      (handleMessage ext env msg (handleAll ext calls f.world)).2.db =
          (handleAll ext calls f.world).db ∧
        ∀ e ∈ (handleMessage ext env msg (handleAll ext calls f.world)).2.db.processedEvents,
          holds (ext.sql.matchesEvent eventId e) = false := by
  have hfrozen : Frozen ext.sql o (f.world.db.historyOf o.orderId) f.world.db :=
    ⟨h.consistent, ho, hterminal, rfl⟩
  obtain ⟨hafter, hsent⟩ := hfrozen.handleAll calls
  refine ⟨hafter.mem, hafter.trail_eq, hsent, ?_⟩
  intro env msg event eventId data name hdec htype hdata hname hmem hfresh
  have hsame : (handleMessage ext env msg (handleAll ext calls f.world)).2.db =
      (handleAll ext calls f.world).db := by
    refine handleMessage_preserves (I := (· = (EventPipeline.handleAll ext calls f.world).db)) ?_
      env rfl
    rintro event' eventId' db outbox db' hdec' rfl hrun
    rw [hdec] at hdec'
    cases hdec'
    exact absurd hrun (hafter.not_runs htype hdata hname hmem)
  refine ⟨hsame, ?_⟩
  rw [hsame]
  exact hfresh

def closedCalls : List (CallEnv × Message × Json × Json) :=
  [(.healthy, sampleMessage, sampleOrder, .str "e1"),
    (.healthy, ⟨1, (statusChangedText "e2" "\"o1\"" "CLOSED").toUTF8⟩,
      statusChangedEvent "e2" (.str "o1") "CLOSED", .str "e2")]

def reopeningMessage : Message :=
  ⟨2, (statusChangedText "e3" "\"o1\"" "PENDING").toUTF8⟩

def closedExternals : Externals :=
  .reading
    [(sampleText, sampleOrder),
      (statusChangedText "e2" "\"o1\"" "CLOSED", statusChangedEvent "e2" (.str "o1") "CLOSED"),
      (statusChangedText "e3" "\"o1\"" "PENDING", statusChangedEvent "e3" (.str "o1") "PENDING")]

lemma decodeEvent_closed :
    ∀ call ∈ closedCalls, decodeEvent closedExternals call.2.1.value = .ok call.2.2 := by
  intro call hcall
  simp only [closedCalls, List.mem_cons, List.not_mem_nil, or_false] at hcall
  rcases hcall with rfl | rfl
  · exact decodeEvent_reading lookup_head rfl
  · exact decodeEvent_reading ((lookup_tail (by decide)).trans lookup_head) rfl

/-- An order that was closed, and an event that wants it pending again. -/
theorem terminal_immutable_reopening :
    ∃ w o, w = handleAll closedExternals (closedCalls.map fun call => (call.1, call.2.1)) .start ∧
      o.status.text = "CLOSED" ∧
      o ∈ (handleAll closedExternals [(.healthy, reopeningMessage)] w).db.orders := by
  obtain ⟨w, hw⟩ : ∃ w, w = handleAll closedExternals
      (closedCalls.map fun call => (call.1, call.2.1)) .start := ⟨_, rfl⟩
  have hreach : Fleet.Reachable closedExternals (fun _ _ => True) ⟨w, []⟩ := by
    rw [hw]
    exact Fleet.Reachable.start.trans (handleAll_reaches (fun _ _ => trivial) _ _)
  have hdb := handleAll_db closedCalls decodeEvent_closed .start
  rw [← hw] at hdb
  have hclosed : ∃ o ∈ w.db.orders, closedExternals.sql.isTerminal o = true ∧
      o.status.text = "CLOSED" := by
    rw [hdb]
    decide
  obtain ⟨o, ho, hterminal, hstatus⟩ := hclosed
  have hafter := (terminal_immutable closedExternals hreach ho hterminal
    [(.healthy, reopeningMessage)]).1
  simp only at hafter
  exact ⟨w, o, hw, hstatus, hafter⟩

end EventPipeline

import EventPipeline.Consistency

/-!
# The history of an order

`order_status_history` holds one row per status an order went through. The trail of every
order stays unbroken as long as an event that changes a status names one order, and its closing
date fits its status as long as the new status is stored as the UPDATE reads it (`auditTrail`). A
parameter that is a number can name several orders (`auditTrail_broken`), and a letter that the
column replaces can make the status a terminal one (`auditTrail_unclosed`).
-/

namespace EventPipeline

open Transaction

variable {sql : SqlServer} {db db' : Database} {eventId eventType data : Json}
  {outbox : Option Outbox}

/-- What the collation and the conversions make of the status literals. -/
structure SqlServer.ReadsStatuses (sql : SqlServer) : Prop where
  distinct : orderStatuses.Pairwise fun a b => sql.same a b = false
  not_numeric : ∀ v, ∀ s ∈ terminalStatuses, sql.converts v s = none

lemma SqlServer.ReadsStatuses.pending (h : sql.ReadsStatuses) :
    sql.isOneOf SqlServer.pending.text terminalStatuses = false := by
  have hpending : ∀ s ∈ terminalStatuses, sql.same "PENDING" s = false := by
    intro s hs
    refine (List.pairwise_cons.mp h.distinct).1 s ?_
    simp only [terminalStatuses, List.mem_cons, List.not_mem_nil, or_false] at hs
    rcases hs with rfl | rfl | rfl <;> simp
  simpa [SqlServer.isOneOf, SqlServer.pending] using hpending

lemma SqlServer.compareAny_str (sql : SqlServer) (column s : String) (literals : List String) :
    sql.compareAny column (.str s) literals = .ok (sql.isOneOf s literals) := by
  induction literals with
  | nil => rfl
  | cons literal literals ih =>
    simp only [SqlServer.compareAny, ih, SqlServer.compare_str]
    rfl

/-- Only a text compares with the terminal statuses. -/
lemma SqlServer.ReadsStatuses.eq_str (h : sql.ReadsStatuses) {newStatus : Json} {b : Bool}
    {status : Varchar 20} (htext : sql.TextOf newStatus status)
    (hany : sql.compareAny "status" newStatus terminalStatuses = .ok b) :
    ∃ s, newStatus = .str s ∧ sql.stored 20 (.text s) = some status := by
  have hnone : ∀ v, sql.converts v "DELIVERED" = none := fun v => h.not_numeric v _ (by decide)
  obtain ⟨v, hv, hvtext⟩ := htext
  cases newStatus with
  | str s =>
    cases hv
    exact ⟨s, rfl, hvtext⟩
  | bool b =>
    simp [SqlServer.compareAny, terminalStatuses, SqlServer.compare, Json.scalar, hnone] at hany
  | num n =>
    simp [SqlServer.compareAny, terminalStatuses, SqlServer.compare, Json.scalar, hnone] at hany
  | null => cases hv
  | arr items => cases hv
  | obj fields => cases hv

/-- The text is terminal as the UPDATE reads it exactly if it is as the column stores it. -/
def ClosesAlike (sql : SqlServer) (s : String) : Prop :=
  ∀ v : Varchar 20, sql.stored 20 (.text s) = some v →
    sql.isOneOf s terminalStatuses = sql.isOneOf v.text terminalStatuses

lemma SqlServer.Keeps.closesAlike {s : String} (h : sql.Keeps 20 s) : ClosesAlike sql s := by
  intro v hv
  obtain rfl := Option.some.inj (h.stored.symm.trans hv)
  rfl

/-- An update closes the orders it gives a terminal status. -/
lemma StatusUpdate.closing_eq_isOneOf {ext newStatus : Json} {status : Varchar 20}
    {closing : Bool} (hs : sql.ReadsStatuses) (ha : ∀ s, newStatus = .str s → ClosesAlike sql s)
    (h : StatusUpdate sql ext newStatus db status closing) :
    closing = sql.isOneOf status.text terminalStatuses := by
  obtain ⟨s, rfl, hstored⟩ := hs.eq_str h.status_eq h.closing_eq
  have heq := h.closing_eq
  rw [SqlServer.compareAny_str, ha s rfl status hstored] at heq
  exact (Except.ok.inj heq).symm

/-! ### Trails -/

/-- The rows of an order, in the order of `history_id`. -/
def Database.historyOf (db : Database) (orderId : ℕ) : List StatusHistory :=
  db.statusHistory.filter fun h => h.orderId = orderId

lemma historyOf_addHistory (db : Database) (row : StatusHistory) (orderId : ℕ) :
    (db.addHistory row).historyOf orderId =
      db.historyOf orderId ++ if row.orderId = orderId then [row] else [] := by
  simp only [Database.historyOf, Database.addHistory, List.filter_append]
  by_cases h : row.orderId = orderId <;> simp [h]

/-- An unbroken chain from `NULL → PENDING` to the status the order has. -/
structure AuditTrail (rows : List StatusHistory) (status : Varchar 20) : Prop where
  first : ∃ h, rows.head? = some h ∧ h.previousStatus = none ∧ h.newStatus = SqlServer.pending
  only_first : ∀ h ∈ rows.tail, h.previousStatus ≠ none
  chain : rows.IsChain fun h h' => h'.previousStatus = some h.newStatus
  last : ∃ h, rows.getLast? = some h ∧ h.newStatus = status

lemma AuditTrail.start {h : StatusHistory} (hprevious : h.previousStatus = none)
    (hnew : h.newStatus = SqlServer.pending) : AuditTrail [h] SqlServer.pending :=
  ⟨⟨h, rfl, hprevious, hnew⟩, by simp, List.isChain_singleton _, ⟨h, rfl, hnew⟩⟩

lemma AuditTrail.append {rows : List StatusHistory} {status : Varchar 20} {h : StatusHistory}
    (ht : AuditTrail rows status) (hprevious : h.previousStatus = some status) :
    AuditTrail (rows ++ [h]) h.newStatus := by
  obtain ⟨f, hf, hnone, hpending⟩ := ht.first
  obtain ⟨l, hl, hlast⟩ := ht.last
  obtain ⟨rest, rfl⟩ := List.head?_eq_some_iff.mp hf
  refine ⟨⟨f, rfl, hnone, hpending⟩, ?_, ?_, ⟨h, List.getLast?_concat, rfl⟩⟩
  · intro h' hh'
    rcases List.mem_append.mp (show h' ∈ rest ++ [h] from hh') with hh' | hh'
    · exact ht.only_first h' hh'
    · rw [List.mem_singleton.mp hh', hprevious]
      simp
  · refine List.isChain_append.mpr ⟨ht.chain, List.isChain_singleton _, ?_⟩
    intro x hx y hy
    rw [hl] at hx
    cases hx
    cases hy
    rw [hprevious, hlast]

/-- Every order has its trail. -/
def TrailInv (db : Database) : Prop :=
  ∀ o ∈ db.orders, AuditTrail (db.historyOf o.orderId) o.status

/-- An order has a closing date exactly in a terminal status. -/
def ClosedInv (sql : SqlServer) (db : Database) : Prop :=
  ∀ o ∈ db.orders, o.closedAt.isSome = sql.isTerminal o

/-- The event changes the status of at most one stored order. -/
def NamesOneOrder (sql : SqlServer) (db : Database) (call : Call) : Prop :=
  ∀ data ext, call.event.getItem "event_type" = .ok (.str "ORDER_STATUS_CHANGED") →
    call.event.getItem "data" = .ok data → data.getItem "external_order_id" = .ok ext →
    (db.ordersNamed sql ext).length ≤ 1

/-- The event stores no terminal status that the UPDATE does not take for one, nor the other way. -/
def ClosesOrders (sql : SqlServer) (call : Call) : Prop :=
  ∀ data s, call.event.getItem "event_type" = .ok (.str "ORDER_STATUS_CHANGED") →
    call.event.getItem "data" = .ok data → data.getItem "new_status" = .ok (.str s) →
    ClosesAlike sql s

/-- What keeps the trails: one order is named, and its closing date is set with its status. -/
def Trailed (sql : SqlServer) (db : Database) (call : Call) : Prop :=
  NamesOneOrder sql db call ∧ ClosesOrders sql call

namespace TrailInv

/-- A new order starts its trail. -/
lemma created {order : Order} {history : StatusHistory} {p : OrderParams} {clientId addressId : ℕ}
    {db₂ db₃ : Database} (h : TrailInv db) (hc : Consistent sql db)
    (horders : db₃.orders = db.orders ++ [order])
    (hhistories : db₃.statusHistory = db.statusHistory)
    (horder : OrderRow sql clientId addressId p db₂ order)
    (hnext : db.next.order ≤ order.orderId)
    (hhistory : HistoryRow sql order.orderId none (.str "PENDING") eventId db₃ history) :
    TrailInv (db₃.addHistory history) := by
  have hnew : history.newStatus = SqlServer.pending :=
    sql.textOf_unique hhistory.newStatus_eq
      (sql.textOf_str.mpr (SqlServer.stored_of_ascii (by decide) (by decide)))
  have hof : ∀ id, db₃.historyOf id = db.historyOf id := by
    intro id
    simp only [Database.historyOf, hhistories]
  intro o ho
  rw [historyOf_addHistory, hof, hhistory.orderId_eq]
  rcases List.mem_append.mp (horders ▸ ho : o ∈ db.orders ++ [order]) with ho | ho
  · rw [if_neg (Ne.symm (hc.orderIds.key_ne hnext ho)), List.append_nil]
    exact h o ho
  · rw [List.mem_singleton.mp ho, if_pos rfl, horder.status]
    -- no row of the history refers to an order that was not there
    have hnil : db.historyOf order.orderId = [] := by
      refine List.filter_eq_nil_iff.mpr fun r hr heq => ?_
      obtain ⟨o', ho', hid⟩ := hc.historyOrder r hr
      exact hc.orderIds.key_ne hnext ho' (hid.trans (by simpa using heq))
    rw [hnil]
    exact .start hhistory.previousStatus_eq hnew

/-- The one order named gets a new status and a row of history that continues its trail. -/
lemma statusChanged {ext newStatus : Json} {o : Order} {status : Varchar 20} {closing : Bool}
    {now : ℕ} {history : StatusHistory} (h : TrailInv db) (hc : Consistent sql db)
    (hone : (db.ordersNamed sql ext).length ≤ 1) (named : (db.ordersNamed sql ext).head? = some o)
    (hupdate : StatusUpdate sql ext newStatus db status closing)
    (hhistory : HistoryRow sql o.orderId (some o.status) newStatus eventId
      (db.setStatus sql ext status closing now) history) :
    TrailInv ((db.setStatus sql ext status closing now).addHistory history) := by
  have hnamed : db.ordersNamed sql ext = [o] := by
    obtain ⟨rest, hrest⟩ := List.head?_eq_some_iff.mp named
    rw [hrest] at hone ⊢
    cases rest with
    | nil => rfl
    | cons b rest => simp at hone
  have ho : o ∈ db.orders := (List.mem_filter.mp (hnamed ▸ List.mem_singleton_self o)).1
  have hnew : history.newStatus = status :=
    sql.textOf_unique hhistory.newStatus_eq hupdate.status_eq
  intro b hb
  rw [historyOf_addHistory, hhistory.orderId_eq]
  obtain ⟨a, ha, hcases⟩ := mem_updateByIds.mp hb
  simp only [hnamed, List.map_cons, List.map_nil, List.mem_singleton] at hcases
  rcases hcases with ⟨hid, rfl⟩ | ⟨hid, rfl⟩
  · obtain rfl := hc.orderIds.eq_of_key_eq ha ho hid
    have hself : a.orderId = (a.setStatus status closing now).orderId := rfl
    rw [if_pos hself]
    exact hnew ▸ (h a ha).append hhistory.previousStatus_eq
  · rw [if_neg (Ne.symm hid), List.append_nil]
    exact h b ha

/-- Events that write neither table. -/
lemma of_eq (h : TrailInv db) (horders : db'.orders = db.orders)
    (hhistory : db'.statusHistory = db.statusHistory) : TrailInv db' := by
  intro o ho
  simp only [Database.historyOf, hhistory]
  exact h o (horders ▸ ho)

lemma processed (h : TrailInv db) (hc : Consistent sql db)
    (hone : ∀ ext, eventType = .str "ORDER_STATUS_CHANGED" →
      data.getItem "external_order_id" = .ok ext → (db.ordersNamed sql ext).length ≤ 1)
    (hp : Processed sql eventId eventType data db outbox db') : TrailInv db' := by
  cases hp with
  | created _ _ _ _ _ hclient _ haddress _ horder hitems hhistory =>
    have hframe := created_frame hclient haddress hitems
    exact h.created hc (congrArg (·.orders) hframe) (congrArg (·.statusHistory) hframe) horder
      (next_order_eq hclient haddress ▸ horder.id_le) hhistory
  | statusChanged type_eq hext _ named hupdate hhistory =>
    exact h.statusChanged hc (hone _ type_eq hext) named hupdate hhistory
  | paid _ _ _ _ hpayment =>
    exact h.of_eq (congrArg (·.orders) hpayment.frame) (congrArg (·.statusHistory) hpayment.frame)
  | invoiced _ _ _ _ hinvoice =>
    exact h.of_eq (congrArg (·.orders) hinvoice.frame) (congrArg (·.statusHistory) hinvoice.frame)
  | unknownOrder => exact h
  | unknownType => exact h

/-- One committed event that keeps the trails. -/
lemma step {call : Call} (h : TrailInv db) (hc : Consistent sql db)
    (hone : NamesOneOrder sql db call)
    (hrun : Runs sql.engine (eventTxn call.event call.eventId) db outbox db') : TrailInv db' := by
  obtain ⟨id, eventType, data, row, db₁, now, hcom, rfl⟩ := committed_of_runs hrun
  have hledger : TrailInv { db with processedEvents := db.processedEvents ++ [row] } :=
    h.of_eq rfl rfl
  refine (hledger.processed (hc.ledger _) ?_ hcom.processed).of_eq rfl rfl
  rintro ext rfl hext
  exact hone data ext hcom.eventType_eq hcom.data_eq hext

lemma empty : TrailInv .empty := by
  simp [TrailInv, Database.empty]

lemma of_reachable {ext : Externals} {f : Fleet}
    (h : Fleet.Reachable ext (NamesOneOrder ext.sql) f) : TrailInv f.world.db :=
  (h.db_invariant (I := fun db => Consistent ext.sql db ∧ TrailInv db) ⟨.empty _, .empty⟩
    fun _ _ _ _ ha hinv hrun => ⟨hinv.1.step hrun, hinv.2.step hinv.1 ha hrun⟩).2

end TrailInv

namespace ClosedInv

/-- The orders that are updated were not terminal, so they had no closing date. -/
lemma statusChanged {ext newStatus : Json} {status : Varchar 20} {closing : Bool} {now : ℕ}
    {history : StatusHistory} (hs : sql.ReadsStatuses) (h : ClosedInv sql db)
    (hc : Consistent sql db) (halike : ∀ s, newStatus = .str s → ClosesAlike sql s)
    (hupdate : StatusUpdate sql ext newStatus db status closing) :
    ClosedInv sql ((db.setStatus sql ext status closing now).addHistory history) := by
  intro b hb
  obtain ⟨a, ha, ⟨hid, rfl⟩ | ⟨-, rfl⟩⟩ := mem_updateByIds.mp hb
  · obtain ⟨o, ho, hid⟩ := List.mem_map.mp hid
    obtain rfl := hc.orderIds.eq_of_key_eq (List.mem_filter.mp ho).1 ha hid
    have hnone := h o ha
    rw [hupdate.not_terminal o ho] at hnone
    have hclosing := hupdate.closing_eq_isOneOf hs halike
    simp only [SqlServer.isTerminal, Order.setStatus, ← hclosing]
    cases closing <;> simp [hnone]
  · exact h b ha

lemma of_eq (h : ClosedInv sql db) (horders : db'.orders = db.orders) : ClosedInv sql db' :=
  fun o ho => h o (horders ▸ ho)

lemma processed (hs : sql.ReadsStatuses) (h : ClosedInv sql db) (hc : Consistent sql db)
    (halike : ∀ s, eventType = .str "ORDER_STATUS_CHANGED" →
      data.getItem "new_status" = .ok (.str s) → ClosesAlike sql s)
    (hp : Processed sql eventId eventType data db outbox db') : ClosedInv sql db' := by
  cases hp with
  | @created _ _ _ _ _ _ _ _ order _ _ _ db₃ _ _ _ _ _ hclient _ haddress _ horder hitems _ =>
    have horders : db₃.orders = db.orders ++ [order] :=
      congrArg (·.orders) (created_frame hclient haddress hitems)
    intro o ho
    rcases List.mem_append.mp (horders ▸ ho : o ∈ db.orders ++ [order]) with ho | ho
    · exact h o ho
    · rw [List.mem_singleton.mp ho, horder.closedAt, SqlServer.isTerminal, horder.status, hs.pending]
      rfl
  | statusChanged type_eq _ hnew _ hupdate _ =>
    refine h.statusChanged hs hc ?_ hupdate
    rintro s rfl
    exact halike s type_eq hnew
  | paid _ _ _ _ hpayment => exact h.of_eq (congrArg (·.orders) hpayment.frame)
  | invoiced _ _ _ _ hinvoice => exact h.of_eq (congrArg (·.orders) hinvoice.frame)
  | unknownOrder => exact h
  | unknownType => exact h

lemma step {call : Call} (hs : sql.ReadsStatuses) (h : ClosedInv sql db) (hc : Consistent sql db)
    (ha : ClosesOrders sql call)
    (hrun : Runs sql.engine (eventTxn call.event call.eventId) db outbox db') :
    ClosedInv sql db' := by
  obtain ⟨id, eventType, data, row, db₁, now, hcom, rfl⟩ := committed_of_runs hrun
  have hledger : ClosedInv sql { db with processedEvents := db.processedEvents ++ [row] } :=
    h.of_eq rfl
  refine (hledger.processed hs (hc.ledger _) ?_ hcom.processed).of_eq rfl
  rintro s rfl hnew
  exact ha data s hcom.eventType_eq hcom.data_eq hnew

lemma empty : ClosedInv sql .empty := by
  simp [ClosedInv, Database.empty]

end ClosedInv

/-- A text names at most one order. -/
lemma Consistent.ordersNamed_str (h : Consistent sql db) (s : String) :
    (db.ordersNamed sql (.str s)).length ≤ 1 := by
  have hsame : ∀ o ∈ db.ordersNamed sql (.str s), sql.same s o.externalOrderId.text = true := by
    intro o ho
    have := (List.mem_filter.mp ho).2
    simpa [SqlServer.matchesOrder, SqlServer.compare_str] using this
  have hdistinct : Distinct sql (·.externalOrderId.text) (db.ordersNamed sql (.str s)) :=
    List.Pairwise.sublist List.filter_sublist h.orders
  match hnamed : db.ordersNamed sql (.str s) with
  | [] => simp
  | [o] => simp
  | a :: b :: rest =>
    rw [hnamed] at hsame hdistinct
    have ha := sql.same_iff.mp (hsame a (by simp))
    have hb := sql.same_iff.mp (hsame b (by simp))
    have hab := (List.pairwise_cons.mp hdistinct).1 b (by simp)
    rw [sql.same_iff.mpr (ha.symm.trans hb)] at hab
    cases hab

/-- Every event names its order by a text. -/
def TextOrderIds (_ : Database) (call : Call) : Prop :=
  ∀ data ext, call.event.getItem "data" = .ok data →
    data.getItem "external_order_id" = .ok ext → ∃ s, ext = .str s

/-- Every status is a text that the column keeps. -/
def KeptStatuses (sql : SqlServer) (call : Call) : Prop :=
  ∀ data v, call.event.getItem "data" = .ok data → data.getItem "new_status" = .ok v →
    ∃ s, v = .str s ∧ sql.Keeps 20 s

lemma KeptStatuses.closesOrders {call : Call} (h : KeptStatuses sql call) :
    ClosesOrders sql call := by
  intro data s _ hdata hnew
  obtain ⟨s', heq, hkeeps⟩ := h data _ hdata hnew
  cases heq
  exact hkeeps.closesAlike

theorem Fleet.Reachable.trailed {ext : Externals} {f : Fleet}
    (h : Fleet.Reachable ext (fun db call => TextOrderIds db call ∧ KeptStatuses ext.sql call) f) :
    Fleet.Reachable ext (Trailed ext.sql) f := by
  refine h.mono fun f call hreach ha => ⟨fun data ext _ hdata hext => ?_, ha.2.closesOrders⟩
  obtain ⟨s, rfl⟩ := ha.1 data ext hdata hext
  exact hreach.consistent.ordersNamed_str s

lemma plain_readsStatuses : SqlServer.plain.ReadsStatuses where
  distinct := by
    simp only [SqlServer.same, SqlServer.plain]
    decide
  not_numeric := by
    intro v s hs
    simp only [terminalStatuses, List.mem_cons, List.not_mem_nil, or_false] at hs
    rcases hs with rfl | rfl | rfl <;> cases v <;> rfl

/-- As long as every event that changes a status names at most one stored order, and its status is
terminal as it is stored exactly if the UPDATE takes it for terminal: the history is in the order of
its ids and refers to orders, and every order has an unbroken trail and a closing date exactly in a
terminal status. -/
theorem auditTrail (ext : Externals) (hs : ext.sql.ReadsStatuses) {f : Fleet}
    (h : Fleet.Reachable ext (Trailed ext.sql) f) :
    f.world.db.statusHistory.Pairwise (fun a b => a.historyId < b.historyId) ∧
      (∀ r ∈ f.world.db.statusHistory, ∃ o ∈ f.world.db.orders, o.orderId = r.orderId) ∧
      ∀ o ∈ f.world.db.orders, AuditTrail (f.world.db.historyOf o.orderId) o.status ∧
        (o.closedAt.isSome = true ↔ ext.sql.isOneOf o.status.text terminalStatuses = true) := by
  have hclosed : Consistent ext.sql f.world.db ∧ ClosedInv ext.sql f.world.db := by
    refine h.db_invariant (I := fun db => Consistent ext.sql db ∧ ClosedInv ext.sql db)
      ⟨.empty _, .empty⟩ fun call db outbox db' ha hinv hrun => ?_
    exact ⟨hinv.1.step hrun, hinv.2.step hs hinv.1 ha.2 hrun⟩
  have htrail := TrailInv.of_reachable (h.mono fun _ _ _ ha => ha.1)
  refine ⟨hclosed.1.historyIds.increasing, hclosed.1.historyOrder, fun o ho => ?_⟩
  refine ⟨htrail o ho, ?_⟩
  rw [hclosed.2 o ho]
  rfl

/-- An order that is created, shipped and delivered. -/
def trailEvents : List (Json × Json) :=
  [(sampleOrder, .str "e1"), (statusChangedEvent "e2" (.str "o1") "SHIPPED", .str "e2"),
    (statusChangedEvent "e3" (.str "o1") "DELIVERED", .str "e3")]

lemma trailEvents_texts : ∀ event ∈ trailEvents, ∀ db (call : Call), call.event = event.1 →
    TextOrderIds db call ∧ KeptStatuses .plain call := by
  intro event hevent db call heq
  unfold TextOrderIds KeptStatuses
  rw [heq]
  simp only [trailEvents, List.mem_cons, List.not_mem_nil, or_false] at hevent
  rcases hevent with rfl | rfl | rfl
  · refine ⟨?_, ?_⟩
    · rintro data ext ⟨⟩ ⟨⟩
      exact ⟨"o1", rfl⟩
    · rintro data v ⟨⟩ ⟨⟩
  · refine ⟨?_, ?_⟩
    · rintro data ext ⟨⟩ ⟨⟩
      exact ⟨"o1", rfl⟩
    · rintro data v ⟨⟩ ⟨⟩
      exact ⟨"SHIPPED", rfl, SqlServer.keeps_of_ascii (by decide) (by decide)⟩
  · refine ⟨?_, ?_⟩
    · rintro data ext ⟨⟩ ⟨⟩
      exact ⟨"o1", rfl⟩
    · rintro data v ⟨⟩ ⟨⟩
      exact ⟨"DELIVERED", rfl, SqlServer.keeps_of_ascii (by decide) (by decide)⟩

/-- The trail of this order. -/
theorem auditTrail_sample :
    ∃ w : World, w.db.statusHistory.map (·.newStatus.text) = ["PENDING", "SHIPPED", "DELIVERED"] ∧
      w.db.orders.length = 1 ∧
      ∀ o ∈ w.db.orders, AuditTrail (w.db.historyOf o.orderId) o.status ∧
        (o.closedAt.isSome = true ↔
          SqlServer.plain.isOneOf o.status.text terminalStatuses = true) := by
  obtain ⟨w, hreach, hdb⟩ := exists_reachable trailEvents trailEvents_texts (by decide)
    (by simp [trailEvents, sampleOrder, orderCreatedEvent, statusChangedEvent, Json.getItem])
  refine ⟨w, ?_, ?_, (auditTrail _ plain_readsStatuses hreach.trailed).2.2⟩
  · rw [hdb]
    decide
  · rw [hdb]
    decide

/-! ### A number that names two orders -/

def numberedCalls : List (CallEnv × Message × Json × Json) :=
  [(.healthy, ⟨0, (orderCreatedText "e1" "0" "c1" "a1" "\"Rua A\"").toUTF8⟩,
      orderCreatedEvent "e1" "0" "c1" "a1" (.str "Rua A"), .str "e1"),
    (.healthy, ⟨1, (orderCreatedText "e2" "00" "c1" "a1" "\"Rua A\"").toUTF8⟩,
      orderCreatedEvent "e2" "00" "c1" "a1" (.str "Rua A"), .str "e2"),
    (.healthy, ⟨2, (statusChangedText "e3" "0" "SHIPPED").toUTF8⟩,
      statusChangedEvent "e3" (.int 0) "SHIPPED", .str "e3")]

def numberedExternals : Externals :=
  .reading
    [(orderCreatedText "e1" "0" "c1" "a1" "\"Rua A\"",
        orderCreatedEvent "e1" "0" "c1" "a1" (.str "Rua A")),
      (orderCreatedText "e2" "00" "c1" "a1" "\"Rua A\"",
        orderCreatedEvent "e2" "00" "c1" "a1" (.str "Rua A")),
      (statusChangedText "e3" "0" "SHIPPED", statusChangedEvent "e3" (.int 0) "SHIPPED")]

lemma decodeEvent_numbered :
    ∀ call ∈ numberedCalls, decodeEvent numberedExternals call.2.1.value = .ok call.2.2 := by
  intro call hcall
  simp only [numberedCalls, List.mem_cons, List.not_mem_nil, or_false] at hcall
  rcases hcall with rfl | rfl | rfl
  · exact decodeEvent_reading lookup_head rfl
  · exact decodeEvent_reading ((lookup_tail (by decide)).trans lookup_head) rfl
  · exact decodeEvent_reading
      ((lookup_tail (by decide)).trans ((lookup_tail (by decide)).trans lookup_head)) rfl

/-- The column is converted when the parameter is a number, so `0` names the orders `0` and
`00`: both are shipped, and one of them has no row of history for it. -/
theorem auditTrail_broken :
    ∃ w : World,
      w = handleAll numberedExternals (numberedCalls.map fun call => (call.1, call.2.1)) .start ∧
      Fleet.Reachable numberedExternals (fun _ _ => True) ⟨w, []⟩ ∧
      ∃ o ∈ w.db.orders, o.externalOrderId.text = "00" ∧ o.status.text = "SHIPPED" ∧
        ¬ AuditTrail (w.db.historyOf o.orderId) o.status := by
  refine ⟨_, rfl, Fleet.Reachable.start.trans (handleAll_reaches (fun _ _ => trivial) _ _), ?_⟩
  rw [handleAll_db numberedCalls decodeEvent_numbered]
  have hlast : ∃ o ∈ (numberedCalls.foldl (fun db call => (runAttempts numberedExternals.sql
      call.1.attempts call.2.2.1 call.2.2.2 db).2) World.start.db).orders,
      o.externalOrderId.text = "00" ∧ o.status.text = "SHIPPED" ∧
        ((numberedCalls.foldl (fun db call => (runAttempts numberedExternals.sql
          call.1.attempts call.2.2.1 call.2.2.2 db).2) World.start.db).historyOf
            o.orderId).getLast?.map (·.newStatus) ≠ some o.status := by
    decide
  obtain ⟨o, ho, hext, hstatus, hne⟩ := hlast
  refine ⟨o, ho, hext, hstatus, fun htrail => hne ?_⟩
  obtain ⟨h, hh, hnew⟩ := htrail.last
  rw [hh, Option.map_some, hnew]

/-! ### A status that the column changes -/

/-- The macron is lost where the status is stored, and the order is delivered without a closing
date. -/
theorem auditTrail_unclosed :
    ∃ w : World,
      Fleet.Reachable (.rendered [sampleOrder, statusChangedEvent "e2" (.str "o1") "DĒLIVERED"])
        (fun _ _ => True) ⟨w, []⟩ ∧
      ∃ o ∈ w.db.orders, o.status.text = "DELIVERED" ∧ o.closedAt = none := by
  obtain ⟨w, hreach, hdb⟩ := exists_reachable
    [(sampleOrder, .str "e1"), (statusChangedEvent "e2" (.str "o1") "DĒLIVERED", .str "e2")]
    (fun _ _ _ _ _ => trivial) (by decide) (by simp [sampleOrder, orderCreatedEvent,
      statusChangedEvent, Json.getItem])
  refine ⟨w, hreach, ?_⟩
  rw [hdb]
  decide

end EventPipeline

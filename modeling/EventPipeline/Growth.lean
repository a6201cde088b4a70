import EventPipeline.Consistency
import EventPipeline.Library.Growth
import EventPipeline.View

/-!
# Later states

What a state keeps of every earlier one, whatever was committed in between: no row of the keyed
tables is lost or renamed, and an order in a terminal status stays in one. `Later.shop` says it
of what the tables say.
-/

namespace EventPipeline

open Transaction

variable {sql : SqlServer} {db db' db'' : Database}

/-- `db'` is a later state than `db`. -/
structure Later (sql : SqlServer) (db db' : Database) : Prop where
  clients : Grows (fun c c' => c'.clientId = c.clientId ∧
    c'.externalClientId = c.externalClientId) db.clients db'.clients
  address : Grows (fun a a' => a'.clientId = a.clientId ∧
    a'.externalAddressId = a.externalAddressId) db.address db'.address
  orders : Grows (fun o o' => o'.externalOrderId = o.externalOrderId ∧
    (sql.isTerminal o = true → sql.isTerminal o' = true)) db.orders db'.orders
  payments : Grows (fun p p' => p'.externalPaymentId = p.externalPaymentId)
    db.payments db'.payments
  invoices : Grows (fun i i' => i'.externalInvoiceId = i.externalInvoiceId)
    db.invoices db'.invoices
  ledger : Grows (fun e e' => e'.eventId = e.eventId) db.processedEvents db'.processedEvents

namespace Later

lemma refl (sql : SqlServer) (db : Database) : Later sql db db where
  clients := .refl (fun _ => ⟨rfl, rfl⟩) _
  address := .refl (fun _ => ⟨rfl, rfl⟩) _
  orders := .refl (fun _ => ⟨rfl, id⟩) _
  payments := .refl (by simp) _
  invoices := .refl (by simp) _
  ledger := .refl (by simp) _

lemma trans (h : Later sql db db') (h' : Later sql db' db'') : Later sql db db'' where
  clients := h.clients.trans
    (fun _ _ _ h h' => ⟨h'.1.trans h.1, h'.2.trans h.2⟩) h'.clients
  address := h.address.trans
    (fun _ _ _ h h' => ⟨h'.1.trans h.1, h'.2.trans h.2⟩) h'.address
  orders := h.orders.trans
    (fun _ _ _ h h' => ⟨h'.1.trans h.1, fun ht => h'.2 (h.2 ht)⟩) h'.orders
  payments := h.payments.trans (fun _ _ _ h h' => h'.trans h) h'.payments
  invoices := h.invoices.trans (fun _ _ _ h h' => h'.trans h) h'.invoices
  ledger := h.ledger.trans (fun _ _ _ h h' => h'.trans h) h'.ledger

/-! ### One event -/

variable {eventId eventType data : Json} {outbox : Option Outbox}

lemma upsertClient {p : ClientParams} {id : ℕ} (h : ClientUpserted sql p db id db') :
    Later sql db db' := by
  cases h with
  | updated =>
    exact { refl sql db with
      clients := .updateByIds (fun _ => ⟨rfl, rfl⟩) fun _ _ _ => ⟨rfl, rfl⟩ }
  | inserted => exact { refl sql db with clients := .append (fun _ => ⟨rfl, rfl⟩) _ _ }

lemma upsertAddress {clientId id : ℕ} {ext : Json} {content : AddressField → Json}
    (h : AddressUpserted sql clientId ext content db id db') : Later sql db db' := by
  have hadd : ∀ (db : Database) (row : Address), Later sql db (db.addAddress row) :=
    fun db row => { refl sql db with address := .append (fun _ => ⟨rfl, rfl⟩) _ _ }
  cases h with
  | reused => exact refl sql db
  | inserted => exact hadd _ _
  | @replaced current _ now =>
    have hexpire : Later sql db (db.expireAddress current.addressId now) := by
      unfold Database.expireAddress
      rw [updateById_eq]
      exact { refl sql db with
        address := .updateByIds (fun _ => ⟨rfl, rfl⟩) fun _ _ _ => ⟨rfl, rfl⟩ }
    exact hexpire.trans (hadd _ _)

lemma addOrder (sql : SqlServer) (db : Database) (row : Order) : Later sql db (db.addOrder row) :=
  { refl sql db with orders := .append (fun _ => ⟨rfl, id⟩) _ _ }

lemma insertItems {orderId : ℕ} {items : Json} (h : ItemsInserted sql orderId items db db') :
    Later sql db db' := by
  cases h with
  | empty => exact refl sql db
  | rows => exact { refl sql db with }

lemma addHistory (sql : SqlServer) (db : Database) (row : StatusHistory) :
    Later sql db (db.addHistory row) :=
  { refl sql db with }

/-- An order whose status is changed was in no terminal status. -/
lemma setStatus {ext newStatus : Json} {status : Varchar 20} {closing : Bool}
    (h : StatusUpdate sql ext newStatus db status closing) (hc : Consistent sql db) (now : ℕ) :
    Later sql db (db.setStatus sql ext status closing now) := by
  refine { refl sql db with orders := .updateByIds (fun _ => ⟨rfl, id⟩) fun o ho hid => ?_ }
  obtain ⟨o', ho', hid⟩ := List.mem_map.mp hid
  obtain rfl := hc.orderIds.eq_of_key_eq (List.mem_filter.mp ho').1 ho hid
  refine ⟨rfl, fun hterminal => ?_⟩
  rw [h.not_terminal o' ho'] at hterminal
  cases hterminal

lemma upsertPayment {orderId : ℕ} {p : PaymentParams} (h : PaymentUpserted sql orderId p db db') :
    Later sql db db' := by
  cases h with
  | updated =>
    exact { refl sql db with payments := .updateByIds (fun _ => rfl) fun _ _ _ => rfl }
  | inserted => exact { refl sql db with payments := .append (by simp) _ _ }

lemma upsertInvoice {orderId : ℕ} {p : InvoiceParams} (h : InvoiceUpserted sql orderId p db db') :
    Later sql db db' := by
  cases h with
  | updated =>
    exact { refl sql db with invoices := .updateByIds (fun _ => rfl) fun _ _ _ => rfl }
  | inserted => exact { refl sql db with invoices := .append (by simp) _ _ }

lemma processed (hc : Consistent sql db)
    (h : Processed sql eventId eventType data db outbox db') : Later sql db db' := by
  cases h with
  | created _ _ _ _ _ hclient _ haddress _ _ hitems _ =>
    exact (upsertClient hclient).trans <| (upsertAddress haddress).trans <|
      (addOrder sql _ _).trans <| (insertItems hitems).trans <| addHistory sql _ _
  | statusChanged _ _ _ _ hupdate _ _ => exact (setStatus hupdate hc _).trans (addHistory sql _ _)
  | paid _ _ _ _ hpayment => exact upsertPayment hpayment
  | invoiced _ _ _ _ hinvoice => exact upsertInvoice hinvoice
  | unknownOrder => exact refl sql _
  | unknownType => exact refl sql _

/-- A committed transaction leads to a later state. -/
theorem of_runs {event : Json} (hc : Consistent sql db)
    (h : Runs sql.engine (eventTxn event eventId) db outbox db') : Later sql db db' := by
  obtain ⟨id, eventType, data, row, db₁, now, hcommitted, rfl⟩ := committed_of_runs h
  have hclaim : Later sql db { db with processedEvents := db.processedEvents ++ [row] } :=
    { refl sql db with ledger := .append (by simp) _ _ }
  have hmark : Later sql db₁ (db₁.marked sql eventId now) := by
    refine { refl sql db₁ with ledger := .map_self fun e _ => ?_ }
    split_ifs <;> rfl
  exact hclaim.trans ((processed (hc.ledger _) hcommitted.processed).trans hmark)

/-- What every call leaves is a later state. -/
lemma handleMessage {ext : Externals} {w : World} (hc : Consistent ext.sql w.db)
    (env : CallEnv) (msg : Message) : Consistent ext.sql (handleMessage ext env msg w).2.db ∧
      Later ext.sql w.db (EventPipeline.handleMessage ext env msg w).2.db := by
  refine handleMessage_preserves (I := fun db => Consistent ext.sql db ∧ Later ext.sql w.db db)
    ?_ env ⟨hc, refl ext.sql w.db⟩
  rintro event eventId db outbox db' - ⟨hdb, hlater⟩ hrun
  exact ⟨hdb.step hrun, hlater.trans (of_runs hdb hrun)⟩

end Later

/-! ### What the tables say later -/

/-- `s'` is later than `s`, in which every address belongs to a client. -/
structure Shop.Later (sql : SqlServer) (s s' : Shop) : Prop where
  clients : Grows (fun c c' => c'.ext = c.ext) s.clients s'.clients
  address : Grows (fun a a' => a'.client = a.client ∧ a'.ext = a.ext) s.address s'.address
  orders : Grows (fun o o' => o'.ext = o.ext ∧
    (Shop.isTerminal sql o = true → Shop.isTerminal sql o' = true)) s.orders s'.orders
  payments : Grows (fun p p' => p'.ext = p.ext) s.payments s'.payments
  invoices : Grows (fun i i' => i'.ext = i.ext) s.invoices s'.invoices
  owned : ∀ a ∈ s.address, ∃ c ∈ s.clients, a.client = some c.ext

lemma Consistent.clientKey_of_mem (hc : Consistent sql db) {a : Address} (ha : a ∈ db.address) :
    ∃ c ∈ db.clients, clientKey db.clients a.clientId = some c.externalClientId := by
  obtain ⟨c, hmem, hid : c.clientId = a.clientId⟩ := hc.addressClient a ha
  refine ⟨c, hmem, ?_⟩
  rw [← hid]
  exact lookupBy_of_mem hc.clientIds hmem

/-- The ledger, as the tables say it. -/
lemma Later.shop_ledger (h : Later sql db db') :
    Grows (fun e e' => e'.eventId = e.eventId) db.shop.ledger db'.shop.ledger :=
  h.ledger.map fun _ _ _ hr => hr

theorem Later.shop (h : Later sql db db') (hc : Consistent sql db) :
    Shop.Later sql db.shop db'.shop where
  clients := h.clients.map fun _ _ _ hr => hr.2
  address := by
    refine h.address.map fun a ha a' hr => ⟨?_, hr.2⟩
    obtain ⟨c, -, hkey⟩ := hc.clientKey_of_mem ha
    simp only [Address.info, hr.1, hkey]
    exact h.clients.lookupBy (fun _ _ hr => hr) hkey
  orders := h.orders.map fun _ _ _ hr => hr
  payments := h.payments.map fun _ _ _ hr => hr
  invoices := h.invoices.map fun _ _ _ hr => hr
  owned := by
    intro a ha
    obtain ⟨a, hmem, rfl⟩ := List.mem_map.mp ha
    obtain ⟨c, hc, hkey⟩ := hc.clientKey_of_mem hmem
    exact ⟨c.info, List.mem_map_of_mem hc, hkey⟩

end EventPipeline

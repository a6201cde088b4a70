import EventPipeline.Ledger

/-!
# Keys and references

What the constraints of the schema say about the rows: identities increase, external ids
differ under the collation, an address has one current version, and every row refers to rows
that exist. Every committed transaction keeps it (`Consistent.step`).
-/

namespace EventPipeline

open Transaction

variable {sql : SqlServer} {db db' : Database} {eventId eventType data : Json}
  {outbox : Option Outbox}

/-- The texts of the rows differ under the collation. -/
def Distinct {α : Type} (sql : SqlServer) (text : α → String) (rows : List α) : Prop :=
  rows.Pairwise fun a b => sql.same (text a) (text b) = false

namespace Distinct

variable {α : Type} {text : α → String} {rows : List α}

lemma append {row : α} (h : Distinct sql text rows)
    (hrow : ∀ a ∈ rows, sql.same (text row) (text a) = false) :
    Distinct sql text (rows ++ [row]) := by
  refine List.pairwise_append.mpr ⟨h, List.pairwise_singleton _ _, fun a ha b hb => ?_⟩
  rw [List.mem_singleton.mp hb, sql.same_comm]
  exact hrow a ha

lemma updateByIds {κ : Type} [DecidableEq κ] {id : α → κ} {f : α → α} {ids : List κ}
    (hf : ∀ a, text (f a) = text a) (h : Distinct sql text rows) :
    Distinct sql text (updateByIds id ids f rows) := by
  refine pairwise_updateByIds (fun a b hab => ?_) h
  simp only [hf]
  exact ⟨hab, hab, hab⟩

lemma eq_of_same (h : Distinct sql text rows) {a b : α} (ha : a ∈ rows) (hb : b ∈ rows)
    (hsame : sql.same (text a) (text b) = true) : a = b := by
  have : Std.Symm fun a b => sql.same (text a) (text b) = false :=
    ⟨fun a b hab => by rw [sql.same_comm]; exact hab⟩
  by_contra hne
  rw [List.Pairwise.forall h ha hb hne] at hsame
  cases hsame

end Distinct

/-- At most one version of an address of a client is current. -/
def CurrentUnique (sql : SqlServer) (rows : List Address) : Prop :=
  rows.Pairwise fun a b => a.isCurrent = true → b.isCurrent = true → a.clientId = b.clientId →
    sql.same a.externalAddressId.text b.externalAddressId.text = false

lemma CurrentUnique.eq_of_current {rows : List Address} (h : CurrentUnique sql rows)
    {a b : Address} (ha : a ∈ rows) (hb : b ∈ rows) (hacur : a.isCurrent = true)
    (hbcur : b.isCurrent = true) (hclient : a.clientId = b.clientId)
    (hsame : sql.same a.externalAddressId.text b.externalAddressId.text = true) : a = b := by
  by_contra hne
  have : Std.Symm fun a b : Address => a.isCurrent = true → b.isCurrent = true →
      a.clientId = b.clientId →
        sql.same a.externalAddressId.text b.externalAddressId.text = false :=
    ⟨fun a b hab hb ha hclient => by rw [sql.same_comm]; exact hab ha hb hclient.symm⟩
  have hdiff := List.Pairwise.forall h ha hb hne hacur hbcur hclient
  rw [hsame] at hdiff
  cases hdiff

structure Consistent (sql : SqlServer) (db : Database) : Prop where
  clientIds : Keyed (·.clientId) db.next.client db.clients
  addressIds : Keyed (·.addressId) db.next.address db.address
  orderIds : Keyed (·.orderId) db.next.order db.orders
  historyIds : Keyed (·.historyId) db.next.history db.statusHistory
  paymentIds : Keyed (·.paymentId) db.next.payment db.payments
  invoiceIds : Keyed (·.invoiceId) db.next.invoice db.invoices
  clients : Distinct sql (·.externalClientId.text) db.clients
  orders : Distinct sql (·.externalOrderId.text) db.orders
  payments : Distinct sql (·.externalPaymentId.text) db.payments
  invoices : Distinct sql (·.externalInvoiceId.text) db.invoices
  current : CurrentUnique sql db.address
  addressClient : References (·.clientId) db.address (·.clientId) db.clients
  orderClient : References (·.clientId) db.orders (·.clientId) db.clients
  orderAddress : References (·.addressId) db.orders (·.addressId) db.address
  itemOrder : References (·.orderId) db.orderItems (·.orderId) db.orders
  historyOrder : References (·.orderId) db.statusHistory (·.orderId) db.orders
  paymentOrder : References (·.orderId) db.payments (·.orderId) db.orders
  invoiceOrder : References (·.orderId) db.invoices (·.orderId) db.orders

namespace Consistent

lemma empty (sql : SqlServer) : Consistent sql .empty where
  clientIds := .nil
  addressIds := .nil
  orderIds := .nil
  historyIds := .nil
  paymentIds := .nil
  invoiceIds := .nil
  clients := .nil
  orders := .nil
  payments := .nil
  invoices := .nil
  current := .nil
  addressClient := .nil
  orderClient := .nil
  orderAddress := .nil
  itemOrder := .nil
  historyOrder := .nil
  paymentOrder := .nil
  invoiceOrder := .nil

/-- The ledger refers to nothing and nothing refers to it. -/
lemma ledger (h : Consistent sql db) (rows : List ProcessedEvent) :
    Consistent sql { db with processedEvents := rows } :=
  { h with }

lemma upsertClient {p : ClientParams} {id : ℕ} (h : Consistent sql db)
    (hc : ClientUpserted sql p db id db') : Consistent sql db' := by
  cases hc with
  | updated named name_eq email_eq document_eq =>
    exact { h with
      clientIds := h.clientIds.updateByIds fun _ => rfl
      clients := h.clients.updateByIds fun _ => rfl
      addressClient := h.addressClient.updateByIds_parents fun _ => rfl
      orderClient := h.orderClient.updateByIds_parents fun _ => rfl }
  | inserted named ext name_eq email_eq document_eq fresh id_le =>
    exact { h with
      clientIds := h.clientIds.append id_le
      clients := h.clients.append fresh
      addressClient := h.addressClient.append_parents _
      orderClient := h.orderClient.append_parents _ }

lemma addAddress {clientId : ℕ} {ext : Json} {content : AddressField → Json} {row : Address}
    (h : Consistent sql db) (hrow : AddressRow sql clientId ext content db row) :
    Consistent sql (db.addAddress row) := by
  have hcurrent : CurrentUnique sql (db.address ++ [row]) := by
    refine List.pairwise_append.mpr ⟨h.current, List.pairwise_singleton _ _, ?_⟩
    intro a ha b hb hcur _ hclient
    rw [List.mem_singleton.mp hb, sql.same_comm]
    rw [List.mem_singleton.mp hb, hrow.clientId_eq] at hclient
    exact hrow.unique a ha hcur hclient
  have hclient : ∃ c ∈ db.clients, c.clientId = row.clientId := by
    rw [hrow.clientId_eq]
    exact hrow.client
  exact { h with
    addressIds := h.addressIds.append hrow.id_le
    current := hcurrent
    addressClient := h.addressClient.append (.singleton hclient)
    orderAddress := h.orderAddress.append_parents _ }

lemma expireAddress (h : Consistent sql db) (addressId now : ℕ) :
    Consistent sql (db.expireAddress addressId now) := by
  have hcurrent : CurrentUnique sql
      (updateByIds (·.addressId) [addressId] (·.expire now) db.address) :=
    pairwise_updateByIds (fun a b hab => ⟨by simp [Address.expire], by simp [Address.expire],
      by simp [Address.expire]⟩) h.current
  unfold Database.expireAddress
  rw [updateById_eq]
  exact { h with
    addressIds := h.addressIds.updateByIds fun _ => rfl
    current := hcurrent
    addressClient := h.addressClient.updateByIds fun _ => rfl
    orderAddress := h.orderAddress.updateByIds_parents fun _ => rfl }

lemma upsertAddress {clientId id : ℕ} {ext : Json} {content : AddressField → Json}
    (h : Consistent sql db) (ha : AddressUpserted sql clientId ext content db id db') :
    Consistent sql db' := by
  cases ha with
  | reused selected same => exact h
  | inserted selected hrow => exact h.addAddress hrow
  | replaced selected changed hrow => exact (h.expireAddress _ _).addAddress hrow

lemma addOrder {clientId addressId : ℕ} {p : OrderParams} {row : Order} (h : Consistent sql db)
    (hrow : OrderRow sql clientId addressId p db row) : Consistent sql (db.addOrder row) := by
  have hclient : ∃ c ∈ db.clients, c.clientId = row.clientId := by
    rw [hrow.clientId_eq]
    exact hrow.client
  have haddress : ∃ a ∈ db.address, a.addressId = row.addressId := by
    rw [hrow.addressId_eq]
    exact hrow.address
  exact { h with
    orderIds := h.orderIds.append hrow.id_le
    orders := h.orders.append hrow.fresh
    orderClient := h.orderClient.append (.singleton hclient)
    orderAddress := h.orderAddress.append (.singleton haddress)
    itemOrder := h.itemOrder.append_parents _
    historyOrder := h.historyOrder.append_parents _
    paymentOrder := h.paymentOrder.append_parents _
    invoiceOrder := h.invoiceOrder.append_parents _ }

/-- An item goes to the order being created or to one that exists. -/
lemma itemRow_order {orderId : ℕ} {item : Item} {row : OrderItem}
    (horder : ∃ o ∈ db.orders, o.orderId = orderId)
    (h : sql.itemRow db orderId item = .ok row) : ∃ o ∈ db.orders, o.orderId = row.orderId := by
  simp only [SqlServer.itemRow, bind_eq_ok, Except.ok.injEq] at h
  obtain ⟨id, hid, _, _, _, _, _, _, _, _, _, _, _, _, _, _, _, _, rfl⟩ := h
  unfold SqlServer.itemOrder at hid
  split at hid
  · cases hid
    exact horder
  · simp only [bind_eq_ok] at hid
    obtain ⟨v, -, hid⟩ := hid
    split at hid
    · rename_i o ho
      cases hid
      exact ⟨o, List.mem_of_find?_eq_some ho, rfl⟩
    · cases hid

lemma insertItems {orderId : ℕ} {items : Json} (h : Consistent sql db)
    (horder : ∃ o ∈ db.orders, o.orderId = orderId)
    (hi : ItemsInserted sql orderId items db db') : Consistent sql db' := by
  cases hi with
  | empty _ => exact h
  | @rows mappings rows n _ _ hrows =>
    have hreference : References (·.orderId) rows (·.orderId) db.orders := by
      intro row hrow
      obtain ⟨item, -, hitem⟩ := exists_of_mem_right hrows hrow
      have hrow := itemRow_order horder hitem
      exact hrow
    exact { h with itemOrder := h.itemOrder.append hreference }

lemma addHistory {orderId : ℕ} {previous : Option (Varchar 20)} {new source : Json}
    {row : StatusHistory} (h : Consistent sql db)
    (hrow : HistoryRow sql orderId previous new source db row) :
    Consistent sql (db.addHistory row) := by
  have horder : ∃ o ∈ db.orders, o.orderId = row.orderId := by
    rw [hrow.orderId_eq]
    exact hrow.order
  exact { h with
    historyIds := h.historyIds.append hrow.id_le
    historyOrder := h.historyOrder.append (.singleton horder) }

lemma setStatus (h : Consistent sql db) (ext : Json) (status : Varchar 20) (closing : Bool)
    (now : ℕ) : Consistent sql (db.setStatus sql ext status closing now) :=
  { h with
    orderIds := h.orderIds.updateByIds fun _ => rfl
    orders := h.orders.updateByIds fun _ => rfl
    orderClient := h.orderClient.updateByIds fun _ => rfl
    orderAddress := h.orderAddress.updateByIds fun _ => rfl
    itemOrder := h.itemOrder.updateByIds_parents fun _ => rfl
    historyOrder := h.historyOrder.updateByIds_parents fun _ => rfl
    paymentOrder := h.paymentOrder.updateByIds_parents fun _ => rfl
    invoiceOrder := h.invoiceOrder.updateByIds_parents fun _ => rfl }

lemma upsertPayment {orderId : ℕ} {p : PaymentParams} (h : Consistent sql db)
    (hp : PaymentUpserted sql orderId p db db') : Consistent sql db' := by
  cases hp with
  | updated named =>
    exact { h with
      paymentIds := h.paymentIds.updateByIds fun _ => rfl
      payments := h.payments.updateByIds fun _ => rfl
      paymentOrder := h.paymentOrder.updateByIds fun _ => rfl }
  | @inserted row named ext orderId_eq order fresh id_le =>
    have horder : ∃ o ∈ db.orders, o.orderId = row.orderId := by
      rw [orderId_eq]
      exact order
    exact { h with
      paymentIds := h.paymentIds.append id_le
      payments := h.payments.append fresh
      paymentOrder := h.paymentOrder.append (.singleton horder) }

lemma upsertInvoice {orderId : ℕ} {p : InvoiceParams} (h : Consistent sql db)
    (hi : InvoiceUpserted sql orderId p db db') : Consistent sql db' := by
  cases hi with
  | updated named =>
    exact { h with
      invoiceIds := h.invoiceIds.updateByIds fun _ => rfl
      invoices := h.invoices.updateByIds fun _ => rfl
      invoiceOrder := h.invoiceOrder.updateByIds fun _ => rfl }
  | @inserted row named ext orderId_eq order fresh id_le =>
    have horder : ∃ o ∈ db.orders, o.orderId = row.orderId := by
      rw [orderId_eq]
      exact order
    exact { h with
      invoiceIds := h.invoiceIds.append id_le
      invoices := h.invoices.append fresh
      invoiceOrder := h.invoiceOrder.append (.singleton horder) }

lemma processed (h : Consistent sql db)
    (hp : Processed sql eventId eventType data db outbox db') : Consistent sql db' := by
  cases hp with
  | created _ _ _ _ _ hclient _ haddress _ horder hitems hhistory =>
    have h₂ := ((h.upsertClient hclient).upsertAddress haddress).addOrder horder
    refine (h₂.insertItems ?_ hitems).addHistory hhistory
    exact ⟨_, List.mem_append_right _ (List.mem_singleton_self _), rfl⟩
  | statusChanged _ _ _ _ _ hhistory => exact (h.setStatus _ _ _ _).addHistory hhistory
  | paid _ _ _ _ hpayment => exact h.upsertPayment hpayment
  | invoiced _ _ _ _ hinvoice => exact h.upsertInvoice hinvoice
  | unknownOrder => exact h
  | unknownType => exact h

/-- Every committed transaction keeps the keys and the references. -/
theorem step {event : Json} (h : Consistent sql db)
    (hrun : Runs sql.engine (eventTxn event eventId) db outbox db') : Consistent sql db' := by
  obtain ⟨id, eventType, data, row, db₁, now, hc, rfl⟩ := committed_of_runs hrun
  exact ((h.ledger _).processed hc.processed).ledger _

end Consistent

theorem Fleet.Reachable.consistent {ext : Externals} {allowed : Database → Call → Prop}
    {f : Fleet} (h : Fleet.Reachable ext allowed f) : Consistent ext.sql f.world.db :=
  h.db_invariant (Consistent.empty _) fun _ _ _ _ _ hinv hrun => hinv.step hrun

end EventPipeline

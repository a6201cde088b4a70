import EventPipeline.Timeline
import EventPipeline.Webhook

/-!
# Fields with a default

The payload of a valid event without some of the fields that the code reads with `get` and the
schema declares NOT NULL with a default. For `currency`, `order_date` and `status` the code binds a
value of its own; for `country` and `issued_at` it binds NULL, where the default of the schema does
not apply (`omission_accepted_iff`).
-/

namespace EventPipeline

open Transaction Prog

inductive OptionalField
  | currency
  | orderDate
  | country
  | status
  | issuedAt
  deriving DecidableEq, Repr

def OptionalField.key : OptionalField → String
  | .currency => "currency"
  | .orderDate => "order_date"
  | .country => "country"
  | .status => "status"
  | .issuedAt => "issued_at"

/-- An object without some of its keys. -/
def Json.without (keys : List String) : Json → Json
  | .obj fields => .obj (fields.filter fun field => field.1 ∉ keys)
  | v => v

/-- An object with another value under one key. -/
def Json.alter (key : String) (f : Json → Json) : Json → Json
  | .obj fields => .obj (fields.map fun field => (field.1, if field.1 = key then f field.2 else field.2))
  | v => v

/-- The address of a payload, of which `country` is read. -/
def omitAddress (omitted : List OptionalField) (address : Json) : Json :=
  address.without (if .country ∈ omitted then ["country"] else [])

/-- The keys of a payload itself. -/
def omittedKeys (omitted : List OptionalField) : List String :=
  (omitted.filter (· ≠ .country)).map OptionalField.key

def omitData (omitted : List OptionalField) (data : Json) : Json :=
  (data.without (omittedKeys omitted)).alter "address" (omitAddress omitted)

def omitFields (omitted : List OptionalField) (event : Json) : Json :=
  event.alter "data" (omitData omitted)

variable {sql : SqlServer} {db db' : Database} {omitted : List OptionalField}
  {event eventId data address : Json} {reading : ℕ → Except SqlError Tick} {n m : ℕ}
  {outbox : Option Outbox}

/-! ### Reading the payload -/

namespace Json

variable {key key' : String} {keys : List String} {f : Json → Json} {v : Json}

lemma lookup_without (keys : List String) (key : String) (fields : List (String × Json)) :
    (fields.filter fun field => field.1 ∉ keys).lookup key =
      if key ∈ keys then none else fields.lookup key := by
  induction fields with
  | nil => simp
  | cons field fields ih =>
    obtain ⟨key', value⟩ := field
    by_cases hkey : key = key'
    · subst hkey
      by_cases hmem : key ∈ keys
      · rw [List.filter_cons_of_neg (by simpa using hmem), ih, if_pos hmem, if_pos hmem]
      · rw [List.filter_cons_of_pos (by simpa using hmem)]
        simp [hmem]
    · have hne : (key == key') = false := beq_eq_false_iff_ne.mpr hkey
      by_cases hmem : key' ∈ keys
      · rw [List.filter_cons_of_neg (by simpa using hmem), ih]
        simp [List.lookup_cons, hne]
      · rw [List.filter_cons_of_pos (by simpa using hmem), List.lookup_cons, hne, ih,
          List.lookup_cons, hne]

lemma lookup_alter (key key' : String) (f : Json → Json) (fields : List (String × Json)) :
    (fields.map fun field => (field.1, if field.1 = key then f field.2 else field.2)).lookup key' =
      (fields.lookup key').map fun value => if key' = key then f value else value := by
  induction fields with
  | nil => rfl
  | cons field fields ih =>
    obtain ⟨key'', value⟩ := field
    by_cases hkey : key' = key''
    · subst hkey
      simp
    · have hne : (key' == key'') = false := beq_eq_false_iff_ne.mpr hkey
      simp [List.lookup_cons, hne, ih]

lemma getItem_without (h : key ∉ keys) : (v.without keys).getItem key = v.getItem key := by
  cases v with
  | obj fields => simp only [without, getItem, lookup_without, if_neg h]
  | _ => rfl

lemma getItem_alter_ne (h : key' ≠ key) : (v.alter key f).getItem key' = v.getItem key' := by
  cases v with
  | obj fields =>
    simp only [alter, getItem, lookup_alter, if_neg h]
    cases fields.lookup key' <;> rfl
  | _ => rfl

lemma getItem_alter {w : Json} (h : v.getItem key = .ok w) :
    (v.alter key f).getItem key = .ok (f w) := by
  obtain ⟨fields, rfl, hlookup⟩ := getItem_ok h
  simp [alter, getItem, lookup_alter, hlookup]

lemma get_without (h : key ∉ keys) (d : Json) : (v.without keys).get key d = v.get key d := by
  cases v with
  | obj fields => simp only [without, get, lookup_without, if_neg h]
  | _ => rfl

/-- A key that is left out has its default. -/
lemma get_omitted {d w : Json} (h : key ∈ keys) (hv : v.get key d = .ok w) :
    (v.without keys).get key d = .ok d := by
  cases v with
  | obj fields =>
    simp only [without, get, lookup_without, if_pos h]
    rfl
  | _ => cases hv

lemma get_alter_ne (h : key' ≠ key) (d : Json) : (v.alter key f).get key' d = v.get key' d := by
  cases v with
  | obj fields =>
    simp only [alter, get, lookup_alter, if_neg h]
    cases fields.lookup key' <;> rfl
  | _ => rfl

end Json

lemma mem_omittedKeys {field : OptionalField} (h : field ≠ .country) :
    field.key ∈ omittedKeys omitted ↔ field ∈ omitted := by
  simp only [omittedKeys, List.mem_map, List.mem_filter, decide_eq_true_eq]
  constructor
  · rintro ⟨field', ⟨hmem, -⟩, hkey⟩
    obtain rfl : field' = field := by
      cases field' <;> cases field <;> first | rfl | exact absurd hkey (by decide)
    exact hmem
  · exact fun hmem => ⟨field, ⟨hmem, h⟩, rfl⟩

lemma not_mem_omittedKeys {key : String}
    (h : key ∉ ["currency", "order_date", "status", "issued_at"]) : key ∉ omittedKeys omitted := by
  simp only [omittedKeys, List.mem_map, List.mem_filter, decide_eq_true_eq, not_exists, not_and]
  rintro field ⟨-, hne⟩ rfl
  cases field <;> first | exact hne rfl | exact h (by decide)

/-- What the code subscripts is still there. -/
lemma getItem_omitData {key : String}
    (h : key ∉ ["address", "currency", "order_date", "status", "issued_at"]) :
    (omitData omitted data).getItem key = data.getItem key := by
  rw [omitData, Json.getItem_alter_ne (by rintro rfl; exact h (by decide)),
    Json.getItem_without (not_mem_omittedKeys fun hmem => h (List.mem_cons_of_mem _ hmem))]

lemma get_omitData {key : String}
    (h : key ∉ ["address", "currency", "order_date", "status", "issued_at"]) (d : Json) :
    (omitData omitted data).get key d = data.get key d := by
  rw [omitData, Json.get_alter_ne (by rintro rfl; exact h (by decide)),
    Json.get_without (not_mem_omittedKeys fun hmem => h (List.mem_cons_of_mem _ hmem))]

/-- An optional field that is left out has the default of its `get`. -/
lemma get_omitData_key {field : OptionalField} {d w : Json} (hfield : field ≠ .country)
    (h : data.get field.key d = .ok w) :
    (omitData omitted data).get field.key d = .ok (if field ∈ omitted then d else w) := by
  rw [omitData, Json.get_alter_ne (by cases field <;> decide)]
  split_ifs with hmem
  · exact Json.get_omitted ((mem_omittedKeys hfield).mpr hmem) h
  · rw [Json.get_without (by rwa [mem_omittedKeys hfield]), h]

lemma getItem_omitData_address (h : data.getItem "address" = .ok address) :
    (omitData omitted data).getItem "address" = .ok (omitAddress omitted address) := by
  refine Json.getItem_alter ?_
  rw [Json.getItem_without (not_mem_omittedKeys (by decide)), h]

lemma omitAddress_of_not_mem (h : OptionalField.country ∉ omitted) :
    omitAddress omitted address = address := by
  cases address with
  | obj fields => simp [omitAddress, Json.without, h]
  | _ => rfl

/-! ### Parameters -/

def OrderParams.omitting (omitted : List OptionalField) (p : OrderParams) : OrderParams :=
  { p with
    currency := if .currency ∈ omitted then .str "BRL" else p.currency
    orderDate := if .orderDate ∈ omitted then none else p.orderDate }

def PaymentParams.omitting (omitted : List OptionalField) (p : PaymentParams) : PaymentParams :=
  { p with status := if .status ∈ omitted then .str "CONFIRMED" else p.status }

def InvoiceParams.omitting (omitted : List OptionalField) (p : InvoiceParams) : InvoiceParams :=
  { p with
    status := if .status ∈ omitted then .str "ISSUED" else p.status
    issuedAt := if .issuedAt ∈ omitted then .null else p.issuedAt }

lemma orderParams_omitData {p : OrderParams} (h : orderParams data = .ok p) :
    orderParams (omitData omitted data) = .ok (p.omitting omitted) := by
  simp only [orderParams, bind_eq_ok, Except.ok.injEq] at h ⊢
  obtain ⟨ext, hext, total, htotal, currency, hcurrency, date, hdate, rfl⟩ := h
  refine ⟨ext, (getItem_omitData (by decide)).trans hext, total,
    (getItem_omitData (by decide)).trans htotal, _,
    get_omitData_key (by decide : OptionalField.currency ≠ .country) hcurrency, _,
    get_omitData_key (by decide : OptionalField.orderDate ≠ .country) hdate, ?_⟩
  simp only [OrderParams.omitting]
  congr 1
  split_ifs <;> simp_all [Json.truthy]

lemma paymentParams_omitData {p : PaymentParams} (h : paymentParams data = .ok p) :
    paymentParams (omitData omitted data) = .ok (p.omitting omitted) := by
  simp only [paymentParams, bind_eq_ok, Except.ok.injEq] at h ⊢
  obtain ⟨ext, hext, method, hmethod, status, hstatus, amount, hamount, paidAt, hpaidAt, rfl⟩ := h
  exact ⟨ext, (getItem_omitData (by decide)).trans hext, method,
    (getItem_omitData (by decide)).trans hmethod, _,
    get_omitData_key (by decide : OptionalField.status ≠ .country) hstatus, amount,
    (getItem_omitData (by decide)).trans hamount, paidAt,
    (get_omitData (by decide) _).trans hpaidAt, rfl⟩

lemma invoiceParams_omitData {p : InvoiceParams} (h : invoiceParams data = .ok p) :
    invoiceParams (omitData omitted data) = .ok (p.omitting omitted) := by
  simp only [invoiceParams, bind_eq_ok, Except.ok.injEq] at h ⊢
  obtain ⟨ext, hext, number, hnumber, issuedAt, hissuedAt, amount, hamount, status, hstatus, url, hurl,
    rfl⟩ := h
  exact ⟨ext, (getItem_omitData (by decide)).trans hext, number,
    (getItem_omitData (by decide)).trans hnumber, _,
    get_omitData_key (by decide : OptionalField.issuedAt ≠ .country) hissuedAt, amount,
    (getItem_omitData (by decide)).trans hamount, _,
    get_omitData_key (by decide : OptionalField.status ≠ .country) hstatus, url,
    (get_omitData (by decide) _).trans hurl, rfl⟩

/-! ### Statements -/

def brl : Varchar 3 := ⟨"BRL", by decide⟩

def confirmed : Varchar 20 := ⟨"CONFIRMED", by decide⟩

def issued : Varchar 20 := ⟨"ISSUED", by decide⟩

/-- The row with the defaults of the code. -/
def Order.omitting (omitted : List OptionalField) (now : ℕ) (row : Order) : Order :=
  { row with
    currency := if .currency ∈ omitted then brl else row.currency
    orderDate := if .orderDate ∈ omitted then .clock now else row.orderDate }

def Payment.omitting (omitted : List OptionalField) (row : Payment) : Payment :=
  { row with status := if .status ∈ omitted then confirmed else row.status }

def Invoice.omitting (omitted : List OptionalField) (row : Invoice) : Invoice :=
  { row with status := if .status ∈ omitted then issued else row.status }

lemma run_insertOrder (omitted : List OptionalField) {clientId addressId id : ℕ}
    (h : (insertOrder clientId addressId data).run sql.engine reading n db = .ok (id, m, db')) :
    ∃ (t : Tick) (row : Order), id = row.orderId ∧ row.addressId = addressId ∧
      db' = db.addOrder row ∧
        (insertOrder clientId addressId (omitData omitted data)).run sql.engine reading n db =
          .ok (id, m, db.addOrder (row.omitting omitted t.now)) := by
  obtain ⟨p, _, _, heval, h⟩ := Program.run_bind_eq_ok.mp h
  obtain ⟨hp, rfl, rfl⟩ := run_eval_eq_ok.mp heval
  obtain ⟨rfl, t, ws, ht, hbind, hperform, rfl⟩ := run_execute_eq_ok.mp h
  simp only [SqlServer.perform, SqlServer.insertOrder, bind_eq_ok] at hperform
  obtain ⟨ext, hext, total, htotal, currency, hcurrency, date, hdate, hperform⟩ := hperform
  split_ifs at hperform with hclient haddress hany
  cases hperform
  refine ⟨t, _, rfl, rfl, rfl, Program.run_bind_eq_ok.mpr ⟨_, _, _, run_eval_eq_ok.mpr
    ⟨orderParams_omitData hp, rfl, rfl⟩, run_execute_eq_ok.mpr ⟨rfl, t, [.insertOrder
      (Order.omitting omitted t.now _)], ht, ?_, ?_, rfl⟩⟩⟩
  · simp only [Stmt.parameters, OrderParams.omitting] at hbind ⊢
    split_ifs <;> simp_all [Json.bindable]
  · have hcurrency' : sql.text 3 "currency" (p.omitting omitted).currency =
        .ok (if .currency ∈ omitted then brl else currency) := by
      simp only [OrderParams.omitting]
      split_ifs
      · exact SqlServer.text_str (SqlServer.stored_of_ascii (by decide) (by decide))
      · exact hcurrency
    have hdate' : sql.orderDate t (p.omitting omitted).orderDate =
        .ok (if .orderDate ∈ omitted then .clock t.now else date) := by
      simp only [OrderParams.omitting]
      split_ifs
      · rfl
      · exact hdate
    simp only [SqlServer.perform, SqlServer.insertOrder, bind_eq_ok]
    refine ⟨ext, hext, total, htotal, _, hcurrency', _, hdate', ?_⟩
    rw [if_neg hclient, if_neg haddress, if_neg hany]
    rfl

lemma run_upsertPayment (omitted : List OptionalField) {orderId : ℕ} {u : Unit}
    {p : PaymentParams} (hp : paymentParams data = .ok p)
    (h : (upsertPayment orderId data).run sql.engine reading n db = .ok (u, m, db'))
    (hnew : db.paymentsNamed sql p.externalPaymentId = []) :
    ∃ row : Payment, db' = db.apply (.insertPayment row) ∧
      (upsertPayment orderId (omitData omitted data)).run sql.engine reading n db =
        .ok (u, m, db.apply (.insertPayment (row.omitting omitted))) := by
  obtain ⟨p', _, _, heval, h⟩ := Program.run_bind_eq_ok.mp h
  obtain ⟨hp', rfl, rfl⟩ := run_eval_eq_ok.mp heval
  obtain rfl := Except.ok.inj (hp.symm.trans hp')
  obtain ⟨rfl, t, ws, ht, hbind, hperform, rfl⟩ := run_execute_eq_ok.mp h
  simp only [SqlServer.perform, SqlServer.silent, SqlServer.mergePayment, bind_eq_ok,
    selectRows_eq_ok, Except.ok.injEq, Prod.mk.injEq, true_and] at hperform
  obtain ⟨_, ⟨_, ⟨hcompared, rfl⟩, status, hstatus, amount, hamount, paidAt, hpaidAt, hperform⟩, rfl⟩ :=
    hperform
  have hempty : (db.payments.filter fun q =>
      holds (sql.matchesPayment p.externalPaymentId q)).isEmpty = true := List.isEmpty_iff.mpr hnew
  rw [if_pos hempty] at hperform
  simp only [bind_eq_ok] at hperform
  obtain ⟨ext, hext, method, hmethod, hperform⟩ := hperform
  split_ifs at hperform with horder hany
  cases hperform
  have hstatus' : sql.checked "ck_payment_status" paymentStatuses (p.omitting omitted).status =
      .ok (if .status ∈ omitted then confirmed else status) := by
    simp only [PaymentParams.omitting]
    split_ifs
    · have hstored : sql.stored 20 (.text "CONFIRMED") = some confirmed :=
        SqlServer.stored_of_ascii (by decide) (by decide)
      exact sql.checked_eq_ok.mpr ⟨sql.textOf_str.mpr hstored, List.any_eq_true.mpr
        ⟨"CONFIRMED", by decide, sql.same_refl _⟩⟩
    · exact hstatus
  refine ⟨_, rfl, Program.run_bind_eq_ok.mpr ⟨_, _, _, run_eval_eq_ok.mpr
    ⟨paymentParams_omitData hp, rfl, rfl⟩, run_execute_eq_ok.mpr ⟨rfl, t, [.insertPayment
      (Payment.omitting omitted _)], ht, ?_, ?_, rfl⟩⟩⟩
  · simp only [Stmt.parameters, PaymentParams.omitting] at hbind ⊢
    split_ifs <;> simp_all [Json.bindable]
  · simp only [SqlServer.perform, SqlServer.silent, SqlServer.mergePayment, bind_eq_ok,
      selectRows_eq_ok, Except.ok.injEq, Prod.mk.injEq, true_and]
    refine ⟨_, ⟨_, ⟨hcompared, rfl⟩, _, hstatus', amount, hamount, paidAt, hpaidAt, ?_⟩, rfl⟩
    refine (if_pos hempty).trans ?_
    simp only [bind_eq_ok]
    refine ⟨ext, hext, method, hmethod, ?_⟩
    rw [if_neg horder, if_neg hany]
    rfl

lemma run_upsertInvoice {orderId : ℕ} {u : Unit} {p : InvoiceParams}
    (hp : invoiceParams data = .ok p) (hissued : .issuedAt ∉ omitted)
    (h : (upsertInvoice orderId data).run sql.engine reading n db = .ok (u, m, db'))
    (hnew : db.invoicesNamed sql p.externalInvoiceId = []) :
    ∃ row : Invoice, db' = db.apply (.insertInvoice row) ∧
      (upsertInvoice orderId (omitData omitted data)).run sql.engine reading n db =
        .ok (u, m, db.apply (.insertInvoice (row.omitting omitted))) := by
  obtain ⟨p', _, _, heval, h⟩ := Program.run_bind_eq_ok.mp h
  obtain ⟨hp', rfl, rfl⟩ := run_eval_eq_ok.mp heval
  obtain rfl := Except.ok.inj (hp.symm.trans hp')
  obtain ⟨rfl, t, ws, ht, hbind, hperform, rfl⟩ := run_execute_eq_ok.mp h
  simp only [SqlServer.perform, SqlServer.silent, SqlServer.mergeInvoice, bind_eq_ok,
    selectRows_eq_ok, Except.ok.injEq, Prod.mk.injEq, true_and] at hperform
  obtain ⟨_, ⟨_, ⟨hcompared, rfl⟩, status, hstatus, amount, hamount, url, hurl, hperform⟩, rfl⟩ :=
    hperform
  have hempty : (db.invoices.filter fun i =>
      holds (sql.matchesInvoice p.externalInvoiceId i)).isEmpty = true := List.isEmpty_iff.mpr hnew
  rw [if_pos hempty] at hperform
  simp only [bind_eq_ok] at hperform
  obtain ⟨ext, hext, number, hnumber, issuedAt, hissuedAt, hperform⟩ := hperform
  split_ifs at hperform with horder hany
  cases hperform
  have hstatus' : sql.checked "ck_invoice_status" invoiceStatuses (p.omitting omitted).status =
      .ok (if .status ∈ omitted then issued else status) := by
    simp only [InvoiceParams.omitting]
    split_ifs
    · have hstored : sql.stored 20 (.text "ISSUED") = some issued :=
        SqlServer.stored_of_ascii (by decide) (by decide)
      exact sql.checked_eq_ok.mpr ⟨sql.textOf_str.mpr hstored, List.any_eq_true.mpr
        ⟨"ISSUED", by decide, sql.same_refl _⟩⟩
    · exact hstatus
  have hissuedAt' : (p.omitting omitted).issuedAt = p.issuedAt := if_neg hissued
  refine ⟨_, rfl, Program.run_bind_eq_ok.mpr ⟨_, _, _, run_eval_eq_ok.mpr
    ⟨invoiceParams_omitData hp, rfl, rfl⟩, run_execute_eq_ok.mpr ⟨rfl, t, [.insertInvoice
      (Invoice.omitting omitted _)], ht, ?_, ?_, rfl⟩⟩⟩
  · simp only [Stmt.parameters, InvoiceParams.omitting, if_neg hissued] at hbind ⊢
    split_ifs <;> simp_all [Json.bindable]
  · simp only [SqlServer.perform, SqlServer.silent, SqlServer.mergeInvoice, bind_eq_ok,
      selectRows_eq_ok, Except.ok.injEq, Prod.mk.injEq, true_and]
    refine ⟨_, ⟨_, ⟨hcompared, rfl⟩, _, hstatus', amount, hamount, url, hurl, ?_⟩, rfl⟩
    refine (if_pos hempty).trans ?_
    simp only [bind_eq_ok, hissuedAt']
    refine ⟨ext, hext, number, hnumber, issuedAt, hissuedAt, ?_⟩
    rw [if_neg horder, if_neg hany]
    rfl

/-! ### The statements behind the order -/

lemma itemOrder_congr {orders : List Order} (orderId : ℕ) (item : Item)
    (h : orders.map (·.orderId) = db.orders.map (·.orderId)) :
    sql.itemOrder { db with orders } orderId item = sql.itemOrder db orderId item := by
  unfold SqlServer.itemOrder
  cases item.lookup "order_id" with
  | none => rfl
  | some v =>
    refine bind_congr fun id => ?_
    have hfind : ∀ orders : List Order,
        (orders.find? fun o => (o.orderId : Int) = id).map (·.orderId) =
          (orders.map (·.orderId)).find? fun key : ℕ => (key : Int) = id := fun orders => by
      rw [List.find?_map, Function.comp_def]
    have hkeys := (hfind orders).trans ((congrArg _ h).trans (hfind db.orders).symm)
    revert hkeys
    cases orders.find? fun o => (o.orderId : Int) = id <;>
      cases db.orders.find? fun o => (o.orderId : Int) = id <;> simp

/-- The items see the keys of the orders alone. -/
lemma run_insertOrderItems_orders {orderId : ℕ} {items : Json} {u : Unit} {orders : List Order}
    (horders : orders.map (·.orderId) = db.orders.map (·.orderId))
    (h : (insertOrderItems orderId items).run sql.engine reading n db = .ok (u, m, db')) :
    (insertOrderItems orderId items).run sql.engine reading n { db with orders } =
        .ok (u, m, { db' with orders }) ∧ db'.orders = db.orders := by
  unfold insertOrderItems at h ⊢
  split_ifs at h ⊢ with hitems
  · obtain ⟨mappings, _, _, heval, h⟩ := Program.run_bind_eq_ok.mp h
    obtain ⟨hmappings, rfl, rfl⟩ := run_eval_eq_ok.mp heval
    obtain ⟨rfl, t, ws, ht, hbind, hperform, rfl⟩ := run_execute_eq_ok.mp h
    have hrow : sql.itemRow { db with orders } orderId = sql.itemRow db orderId := by
      funext item
      simp only [SqlServer.itemRow, itemOrder_congr orderId item horders]
    have hperform' : sql.perform t { db with orders } (.insertItems orderId mappings) =
        .ok (u, ws) := by
      rw [← hperform]
      simp only [SqlServer.perform, SqlServer.insertItems, hrow]
    simp only [SqlServer.perform, SqlServer.silent, bind_eq_ok, Except.ok.injEq, Prod.mk.injEq,
      true_and] at hperform
    obtain ⟨_, hinsert, rfl⟩ := hperform
    obtain ⟨rows, rfl, -⟩ := insertItems_eq_ok hinsert
    have happly : ∀ (rows : List OrderItem) (db : Database),
        sql.engine.applyAll { db with orders } (rows.map .insertItem) =
          { sql.engine.applyAll db (rows.map .insertItem) with orders } := by
      intro rows
      induction rows with
      | nil => exact fun db => rfl
      | cons row rows ih => exact fun db => ih (db.apply (.insertItem row))
    obtain ⟨k, hk⟩ := applyAll_insertItem sql rows db
    refine ⟨Program.run_bind_eq_ok.mpr ⟨mappings, _, _, run_eval_eq_ok.mpr ⟨hmappings, rfl, rfl⟩,
      run_execute_eq_ok.mpr ⟨rfl, t, _, ht, hbind, hperform', (happly rows db).symm⟩⟩, ?_⟩
    rw [hk]
  · obtain ⟨rfl, rfl, rfl⟩ := Program.run_ret_eq_ok.mp h
    exact ⟨rfl, rfl⟩

lemma run_recordStatusHistory_orders {orderId : ℕ} {previous : Option (Varchar 20)}
    {new source : Json} {u : Unit} {orders : List Order}
    (horders : orders.map (·.orderId) = db.orders.map (·.orderId))
    (h : (recordStatusHistory orderId previous new source).run sql.engine reading n db =
      .ok (u, m, db')) :
    (recordStatusHistory orderId previous new source).run sql.engine reading n
        { db with orders } = .ok (u, m, { db' with orders }) ∧ db'.orders = db.orders := by
  obtain ⟨rfl, t, ws, ht, hbind, hperform, rfl⟩ := run_execute_eq_ok.mp h
  have hany : ∀ orders : List Order, (orders.any fun o => o.orderId = orderId) =
      (orders.map (·.orderId)).any fun key => decide (key = orderId) := fun orders => by
    simp [List.any_map, Function.comp_def]
  have hperform' : sql.perform t { db with orders } (.insertHistory orderId previous new source) =
      .ok (u, ws) := by
    rw [← hperform]
    simp only [SqlServer.perform, SqlServer.insertHistory, hany, horders]
  simp only [SqlServer.perform, SqlServer.silent, SqlServer.insertHistory, bind_eq_ok,
    Except.ok.injEq, Prod.mk.injEq, true_and] at hperform
  obtain ⟨_, ⟨_, -, _, -, hinsert⟩, rfl⟩ := hperform
  split_ifs at hinsert
  cases hinsert
  exact ⟨run_execute_eq_ok.mpr ⟨rfl, t, _, ht, hbind, hperform', rfl⟩, rfl⟩

/-! ### Branches -/

lemma run_orderCreated_omitData (hcountry : .country ∉ omitted)
    (h : (orderCreated eventId data).run sql.engine reading n db = .ok (outbox, m, db')) :
    ∃ (t : Tick) (row : Order), db'.orders = db.orders ++ [row] ∧
      (orderCreated eventId (omitData omitted data)).run sql.engine reading n db =
        .ok (outbox, m, { db' with orders := db.orders ++ [row.omitting omitted t.now] }) := by
  simp only [orderCreated, Program.run_bind_eq_ok, run_item_eq_ok, run_eval_eq_ok] at h ⊢
  obtain ⟨client, _, _, ⟨hclient, rfl, rfl⟩, clientId, n₁, db₁, hupsert, address, _, _,
    ⟨haddress, rfl, rfl⟩, addressId, n₂, db₂, hcurrent, orderId, n₃, db₃, horder, items, _, _,
    ⟨hitems, rfl, rfl⟩, u₄, n₄, db₄, hinsert, u₅, n₅, db₅, hhistory, hret⟩ := h
  obtain ⟨t, row, rfl, -, rfl, horder'⟩ := run_insertOrder omitted horder
  have hkeys : (db₂.orders ++ [row.omitting omitted t.now]).map (·.orderId) =
      (db₂.addOrder row).orders.map (·.orderId) := by
    simp only [Database.addOrder, List.map_append]
    rfl
  obtain ⟨hinsert', hsame₄⟩ := run_insertOrderItems_orders hkeys hinsert
  obtain ⟨hhistory', hsame₅⟩ := run_recordStatusHistory_orders
    (hkeys.trans (congrArg _ hsame₄.symm)) hhistory
  have horders : db₂.orders = db.orders := by
    obtain ⟨p, -, hclient'⟩ := runs_upsertClient (.of_run hupsert)
    obtain ⟨ext, -, haddress'⟩ := runs_upsertCurrentAddress (.of_run hcurrent)
    rw [haddress'.frame, hclient'.frame]
  obtain ⟨rfl, rfl, rfl⟩ := Program.run_ret_eq_ok.mp hret
  refine ⟨t, row, by rw [hsame₅, hsame₄, ← horders]; rfl, ?_⟩
  refine ⟨client, _, _, ⟨(getItem_omitData (by decide)).trans hclient, rfl, rfl⟩, clientId, n₁, db₁,
    hupsert, address, _, _, ⟨?_, rfl, rfl⟩, addressId, n₂, db₂, hcurrent, row.orderId, n₃, _,
    horder', items, _, _, ⟨(get_omitData (by decide) _).trans hitems, rfl, rfl⟩, u₄, n₄, _,
    hinsert', u₅, n₅, _, hhistory', ?_⟩
  · rw [getItem_omitData_address haddress, omitAddress_of_not_mem hcountry]
  · rw [horders]
    rfl

/-- A row for the order that the payload names. -/
def resolved (upsert : ℕ → Json → Prog Unit) (data : Json) : Prog (Option Outbox) := do
  let externalOrderId ← item data "external_order_id"
  match ← resolveOrderId externalOrderId with
  | none => return none
  | some orderId =>
    upsert orderId data
    return none

/-- Where the order is known, what is left is the row. -/
lemma run_resolved_inv (upsert : ℕ → Json → Prog Unit) {ext : Json} {o : Order}
    (hext : data.getItem "external_order_id" = .ok ext)
    (h : (resolved upsert data).run sql.engine reading n db = .ok (outbox, m, db'))
    (ho : (db.ordersNamed sql ext).head? = some o) :
    (∃ u, (upsert o.orderId data).run sql.engine reading (n + 1) db = .ok (u, m, db')) ∧
      ∀ data' u m' db'', data'.getItem "external_order_id" = .ok ext →
        (upsert o.orderId data').run sql.engine reading (n + 1) db = .ok (u, m', db'') →
        (resolved upsert data').run sql.engine reading n db = .ok (none, m', db'') := by
  simp only [resolved, Program.run_bind_eq_ok, run_item_eq_ok] at h ⊢
  obtain ⟨_, _, _, ⟨hext', rfl, rfl⟩, order, n₁, db₁, hresolve, h⟩ := h
  obtain rfl := Except.ok.inj (hext.symm.trans hext')
  obtain ⟨rfl, rfl⟩ := runs_resolveOrderId (.of_run hresolve)
  obtain rfl : n₁ = n + 1 := by
    obtain ⟨rows, _, _, hselect, hret⟩ := Program.run_bind_eq_ok.mp hresolve
    exact (Program.run_ret_eq_ok.mp hret).2.1.symm.trans (run_execute_eq_ok.mp hselect).1
  rw [ho] at h hresolve
  obtain ⟨u, _, _, hupsert, hret⟩ := Program.run_bind_eq_ok.mp h
  obtain ⟨-, rfl, rfl⟩ := Program.run_ret_eq_ok.mp hret
  refine ⟨⟨u, hupsert⟩, fun data' u m' db'' hext' hupsert' => ?_⟩
  exact ⟨ext, _, _, ⟨hext', rfl, rfl⟩, _, _, _, hresolve,
    Program.run_bind_eq_ok.mpr ⟨u, m', db'', hupsert', rfl⟩⟩

/-! ### Events -/

lemma getItem_omitFields {key : String} (h : key ≠ "data") :
    (omitFields omitted event).getItem key = event.getItem key :=
  Json.getItem_alter_ne h

lemma getItem_omitFields_data (h : event.getItem "data" = .ok data) :
    (omitFields omitted event).getItem "data" = .ok (omitData omitted data) :=
  Json.getItem_alter h

lemma run_markEventProcessed_eq_ok {u : Unit} :
    (markEventProcessed eventId).run sql.engine reading n db = .ok (u, m, db') ↔
      m = n + 1 ∧ ∃ t, reading n = .ok t ∧ eventId.bindable = true ∧
        (∀ e ∈ db.processedEvents, ∃ b, sql.matchesEvent eventId e = .ok b) ∧
        db' = db.marked sql eventId t.now := by
  refine run_execute_eq_ok.trans (and_congr_right fun _ => exists_congr fun t => ?_)
  simp only [Stmt.parameters, List.all_cons, List.all_nil, Bool.and_true, SqlServer.perform,
    SqlServer.silent, SqlServer.markEvent, bind_eq_ok, selectRows_eq_ok, Except.ok.injEq,
    Prod.mk.injEq, true_and]
  constructor
  · rintro ⟨_, ht, hbind, ⟨_, ⟨_, ⟨hcompared, rfl⟩, rfl⟩, rfl⟩, rfl⟩
    exact ⟨ht, hbind, hcompared, applyAll_marked sql eventId t.now db⟩
  · rintro ⟨ht, hbind, hcompared, rfl⟩
    exact ⟨_, ht, hbind, ⟨_, ⟨_, ⟨hcompared, rfl⟩, rfl⟩, rfl⟩,
      (applyAll_marked sql eventId t.now db).symm⟩

/-- A transaction that is to end like that of another payload: what is left is the branch. -/
lemma run_eventTxn_inv {eventType : Json} (htype : event.getItem "event_type" = .ok eventType)
    (hdata : event.getItem "data" = .ok data)
    (h : (eventTxn event eventId).run sql.engine reading 0 db = .ok (outbox, n, db')) :
    ∃ id row now m db₁, db' = db₁.marked sql eventId now ∧
      (applyEvent id eventType data).run sql.engine reading 1
        { db with processedEvents := db.processedEvents ++ [row] } = .ok (outbox, m, db₁) ∧
      ∀ event' data' outbox' db₂, (∀ key ≠ "data", event'.getItem key = event.getItem key) →
        event'.getItem "data" = .ok data' →
        (applyEvent id eventType data').run sql.engine reading 1
          { db with processedEvents := db.processedEvents ++ [row] } = .ok (outbox', m, db₂) →
        db₂.processedEvents = db₁.processedEvents →
        (eventTxn event' eventId).run sql.engine reading 0 db =
          .ok (outbox', n, db₂.marked sql eventId now) := by
  simp only [eventTxn, processEvent, Program.run_bind_eq_ok, run_item_eq_ok] at h ⊢
  obtain ⟨o, m, db₁, ⟨id, _, _, ⟨hid, rfl, rfl⟩, _, _, _, ⟨htype', rfl, rfl⟩, _, _, _,
    ⟨hdata', rfl, rfl⟩, u, _, db₀, hclaim, happly⟩, v, _, db₄, hmark, hret⟩ := h
  obtain rfl := Except.ok.inj (htype.symm.trans htype')
  obtain rfl := Except.ok.inj (hdata.symm.trans hdata')
  obtain rfl := run_claimEvent_next hclaim
  obtain ⟨row, -, rfl⟩ := runs_claimEvent (.of_run hclaim)
  obtain ⟨rfl, rfl, rfl⟩ := Program.run_ret_eq_ok.mp hret
  obtain ⟨rfl, t, ht, hbind, hcompared, rfl⟩ := run_markEventProcessed_eq_ok.mp hmark
  refine ⟨id, row, t.now, m, db₁, rfl, happly,
    fun event' data' outbox' db₂ hsame hdata' happly' hledger => ?_⟩
  have hmark' : (markEventProcessed eventId).run sql.engine reading m db₂ =
      .ok (v, m + 1, db₂.marked sql eventId t.now) :=
    run_markEventProcessed_eq_ok.mpr ⟨rfl, t, ht, hbind, hledger ▸ hcompared, rfl⟩
  exact ⟨outbox', m, db₂, ⟨id, _, _, ⟨(hsame _ (by decide)).trans hid, rfl, rfl⟩, eventType, _, _,
    ⟨(hsame _ (by decide)).trans htype, rfl, rfl⟩, data', _, _, ⟨hdata', rfl, rfl⟩, u, _, _,
    hclaim, happly'⟩, v, _, _, hmark', rfl⟩

lemma runInTxn_eq_ok {env : Attempt} :
    runInTxn sql env event eventId db = (.ok outbox, db') ↔
      env.begin = none ∧ env.commit = .acknowledged ∧
        ∃ n, (eventTxn event eventId).run sql.engine env.statement 0 db = .ok (outbox, n, db') := by
  unfold runInTxn
  cases env.begin with
  | some e => simp
  | none =>
    cases (eventTxn event eventId).run sql.engine env.statement 0 db with
    | error x => simp
    | ok result =>
      obtain ⟨outbox₁, n, db₁⟩ := result
      cases env.commit <;> simp

/-- What the event stores is not stored yet. -/
inductive New (sql : SqlServer) (db : Database) (data : Json) : EventType → Prop
  | order : New sql db data .orderCreated
  | payment {ext : Json} {o : Order} {p : PaymentParams}
      (hext : data.getItem "external_order_id" = .ok ext)
      (ho : (db.ordersNamed sql ext).head? = some o) (hp : paymentParams data = .ok p)
      (fresh : db.paymentsNamed sql p.externalPaymentId = []) : New sql db data .paymentConfirmed
  | invoice {ext : Json} {o : Order} {p : InvoiceParams}
      (hext : data.getItem "external_order_id" = .ok ext)
      (ho : (db.ordersNamed sql ext).head? = some o) (hp : invoiceParams data = .ok p)
      (fresh : db.invoicesNamed sql p.externalInvoiceId = []) : New sql db data .invoiceIssued

/-- The new row has the default of every field that is left out. -/
inductive DefaultsStored (omitted : List OptionalField) (db db' : Database) : EventType → Prop
  | order {order : Order} (orders : db'.orders = db.orders ++ [order])
      (currency : .currency ∈ omitted → order.currency.text = "BRL")
      (orderDate : .orderDate ∈ omitted → ∃ now, order.orderDate = .clock now)
      (country : .country ∈ omitted →
        ∃ a ∈ db'.address, a.addressId = order.addressId ∧ a.content .country = some "BR") :
      DefaultsStored omitted db db' .orderCreated
  | payment {payment : Payment} (payments : db'.payments = db.payments ++ [payment])
      (status : .status ∈ omitted → payment.status.text = "CONFIRMED") :
      DefaultsStored omitted db db' .paymentConfirmed
  | invoice {invoice : Invoice} (invoices : db'.invoices = db.invoices ++ [invoice])
      (status : .status ∈ omitted → invoice.status.text = "ISSUED") :
      DefaultsStored omitted db db' .invoiceIssued

/-! ### Rejections -/

/-- The driver binds NULL for a date that is left out. -/
lemma run_upsertInvoice_omitted {orderId : ℕ} {u : Unit} {p : InvoiceParams}
    (hp : invoiceParams data = .ok p) (hissued : .issuedAt ∈ omitted)
    (h : (upsertInvoice orderId (omitData omitted data)).run sql.engine reading n db =
      .ok (u, m, db')) : db.invoicesNamed sql p.externalInvoiceId ≠ [] := by
  intro hnew
  obtain ⟨p', _, _, heval, h⟩ := Program.run_bind_eq_ok.mp h
  obtain ⟨hp', rfl, rfl⟩ := run_eval_eq_ok.mp heval
  obtain rfl := Except.ok.inj ((invoiceParams_omitData hp).symm.trans hp')
  obtain ⟨-, t, ws, -, -, hperform, -⟩ := run_execute_eq_ok.mp h
  simp only [SqlServer.perform, SqlServer.silent, SqlServer.mergeInvoice, bind_eq_ok,
    selectRows_eq_ok, Except.ok.injEq, Prod.mk.injEq, true_and] at hperform
  obtain ⟨_, ⟨_, ⟨-, rfl⟩, status, -, amount, -, url, -, hperform⟩, -⟩ := hperform
  have hempty : (db.invoices.filter fun i =>
      holds (sql.matchesInvoice p.externalInvoiceId i)).isEmpty = true := List.isEmpty_iff.mpr hnew
  have hnull : (p.omitting omitted).issuedAt = .null := if_pos hissued
  rw [if_pos (by exact hempty)] at hperform
  simp only [bind_eq_ok, hnull] at hperform
  obtain ⟨ext, -, number, -, issuedAt, hdatetime, -⟩ := hperform
  cases hdatetime

lemma addressContent_omitted (address : Json) (hcountry : .country ∈ omitted) :
    addressContent (omitAddress omitted address) .country = .null := by
  cases address with
  | obj fields =>
    simp only [omitAddress, if_pos hcountry, Json.without, addressContent, Json.lookup_without]
    rfl
  | _ => rfl

/-- The version of an address without a country is an earlier one, and its country is empty. -/
lemma AddressUpserted.country_ne {clientId id : ℕ} {ext : Json} {content : AddressField → Json}
    (hc : Consistent sql db) (h : AddressUpserted sql clientId ext content db id db')
    (hcountry : content .country = .null) :
    db'.address = db.address ∧ ∀ a ∈ db.address, a.addressId = id → a.content .country ≠ some "BR" := by
  have hrow : ∀ {db : Database} {row : Address}, ¬ AddressRow sql clientId ext content db row := by
    intro db row hrow
    have hcolumn := hrow.content .country
    rw [hcountry] at hcolumn
    cases hcolumn
  cases h with
  | reused selected same =>
    rename_i current
    refine ⟨rfl, fun a ha hid hbr => ?_⟩
    obtain ⟨hmem, -⟩ := VersionsInv.mem_currentAddresses.mp (List.mem_of_mem_head? selected)
    obtain rfl := hc.addressIds.eq_of_key_eq ha hmem hid
    have hsame := List.all_eq_true.mp same .country (AddressField.mem_fields _)
    rw [hcountry, hbr] at hsame
    cases hsame
  | inserted _ h => exact absurd h hrow
  | replaced _ _ h => exact absurd h hrow

/-- The driver binds NULL for a country that is left out, so that at best an address without a
country is found. -/
lemma Processed.country_omitted (hc : Consistent sql db) (hcountry : .country ∈ omitted)
    (haddress : data.getItem "address" = .ok address)
    (h : Processed sql eventId (.str "ORDER_CREATED") (omitData omitted data) db outbox db')
    {order : Order} (horders : db'.orders = db.orders ++ [order]) :
    ∀ a ∈ db'.address, a.addressId = order.addressId → a.content .country ≠ some "BR" := by
  cases h with
  | created _ _ haddress' _ _ hclient _ hupserted _ horder hitems =>
    rename_i clientId addressId order' history db₁ db₂ db₃ type_eq client_eq items_eq hp hext hq
      hhistory
    obtain rfl := Except.ok.inj ((getItem_omitData_address haddress).symm.trans haddress')
    obtain ⟨hsame, hne⟩ := hupserted.country_ne (hc.upsertClient hclient)
      (addressContent_omitted address hcountry)
    have hframe := created_frame hclient hupserted hitems
    have horders' : (db₃.addHistory history).orders = db.orders ++ [order'] := by
      rw [Database.addHistory, hframe]
    obtain rfl : order' = order := by
      simpa using horders'.symm.trans horders
    have haddresses : (db₃.addHistory history).address = db₁.address := by
      rw [Database.addHistory, hframe]
      exact hsame
    rw [haddresses, horder.addressId_eq]
    exact hne
  | statusChanged h => simp at h
  | paid h => simp at h
  | invoiced h => simp at h
  | unknownOrder _ _ h => exact absurd rfl h
  | unknownType h => exact absurd rfl h

lemma Processed.exists_address
    (h : Processed sql eventId (.str "ORDER_CREATED") data db outbox db') :
    ∃ address, data.getItem "address" = .ok address := by
  cases h with
  | created _ _ haddress => exact ⟨_, haddress⟩
  | statusChanged h => simp at h
  | paid h => simp at h
  | invoiced h => simp at h
  | unknownOrder _ _ h => exact absurd rfl h
  | unknownType h => exact absurd rfl h

/-- A valid event of which optional fields are left out commits, with their defaults, exactly where
neither the country of an order nor the date of an invoice is among them. -/
theorem omission_accepted_iff (ext : Externals) {f : Fleet}
    (h : Fleet.Reachable ext (fun _ _ => True) f) (type : EventType)
    (htype : event.getItem "event_type" = .ok (.str type.text))
    (hdata : event.getItem "data" = .ok data) (hnew : New ext.sql f.world.db data type)
    {env : Attempt} (hrun : runInTxn ext.sql env event eventId f.world.db = (.ok outbox, db'))
    (omitted : List OptionalField) :
    (∃ outbox' db'', runInTxn ext.sql env (omitFields omitted event) eventId f.world.db =
        (.ok outbox', db'') ∧ DefaultsStored omitted f.world.db db'' type) ↔
      (type = .orderCreated → .country ∉ omitted) ∧
        (type = .invoiceIssued → .issuedAt ∉ omitted) := by
  obtain ⟨hbegin, hcommit, n, hrun⟩ := runInTxn_eq_ok.mp hrun
  obtain ⟨id, row, now, m, db₁, rfl, happly, hsame⟩ := run_eventTxn_inv htype hdata hrun
  have hkeys : ∀ key ≠ "data", (omitFields omitted event).getItem key = event.getItem key :=
    fun key => getItem_omitFields
  have hfields : (omitFields omitted event).getItem "data" = .ok (omitData omitted data) :=
    getItem_omitFields_data hdata
  have htype' := (hkeys "event_type" (by decide)).trans htype
  cases hnew with
  | order =>
    simp only [reduceCtorEq, true_implies, false_implies, and_true]
    constructor
    · rintro ⟨outbox', db'', hrun', hstored⟩ hcountry
      obtain ⟨-, -, n', hrun'⟩ := runInTxn_eq_ok.mp hrun'
      obtain ⟨id', row', now', m', db₂, rfl, happly', -⟩ := run_eventTxn_inv htype' hfields hrun'
      cases hstored with
      | order orders _ _ country =>
        obtain ⟨a, ha, hid, hbr⟩ := country hcountry
        obtain ⟨address, haddress⟩ := (runs_orderCreated (.of_run happly)).exists_address
        exact (runs_orderCreated (.of_run happly')).country_omitted (h.consistent.ledger _) hcountry
          haddress orders a ha hid hbr
    · intro hcountry
      obtain ⟨t, order, -, happly'⟩ := run_orderCreated_omitData hcountry happly
      refine ⟨outbox, _, runInTxn_eq_ok.mpr ⟨hbegin, hcommit, n, hsame _ _ _ _ hkeys hfields
        happly' rfl⟩, .order rfl (fun hmem => ?_) (fun hmem => ⟨t.now, if_pos hmem⟩)
        fun hmem => absurd hmem hcountry⟩
      exact congrArg Varchar.text (if_pos hmem)
  | payment hext ho hp fresh =>
    simp only [reduceCtorEq, false_implies, and_true, iff_true]
    obtain ⟨⟨u, hupsert⟩, hresolved⟩ := run_resolved_inv upsertPayment hext happly ho
    obtain ⟨payment, rfl, hupsert'⟩ := run_upsertPayment omitted hp hupsert fresh
    have happly' := hresolved _ _ _ _ ((getItem_omitData (by decide)).trans hext) hupsert'
    exact ⟨none, _, runInTxn_eq_ok.mpr ⟨hbegin, hcommit, n, hsame _ _ _ _ hkeys hfields happly' rfl⟩,
      .payment rfl fun hmem => congrArg Varchar.text (if_pos hmem)⟩
  | invoice hext ho hp fresh =>
    simp only [reduceCtorEq, false_implies, true_implies, true_and]
    obtain ⟨⟨u, hupsert⟩, hresolved⟩ := run_resolved_inv upsertInvoice hext happly ho
    constructor
    · rintro ⟨outbox', db'', hrun', -⟩ hissued
      obtain ⟨-, -, n', hrun'⟩ := runInTxn_eq_ok.mp hrun'
      obtain ⟨id', row', now', m', db₂, rfl, happly', -⟩ := run_eventTxn_inv htype' hfields hrun'
      obtain ⟨⟨u', hupsert'⟩, -⟩ := run_resolved_inv upsertInvoice
        ((getItem_omitData (by decide)).trans hext) happly' ho
      exact run_upsertInvoice_omitted hp hissued hupsert' fresh
    · intro hissued
      obtain ⟨invoice, rfl, hupsert'⟩ := run_upsertInvoice hp hissued hupsert fresh
      have happly' := hresolved _ _ _ _ ((getItem_omitData (by decide)).trans hext) hupsert'
      exact ⟨none, _, runInTxn_eq_ok.mpr ⟨hbegin, hcommit, n, hsame _ _ _ _ hkeys hfields happly'
        rfl⟩, .invoice rfl fun hmem => congrArg Varchar.text (if_pos hmem)⟩

/-- A payment that is reported before it is confirmed. -/
def pendingPayment : Json :=
  .obj [("event_id", .str "e2"), ("event_type", .str "PAYMENT_CONFIRMED"),
    ("data", .obj [("external_order_id", .str "o1"), ("external_payment_id", .str "p1"),
      ("method", .str "PIX"), ("status", .str "PENDING"), ("amount", .int 10)])]

/-- Without its status the payment is confirmed. -/
theorem omission_accepted_payment :
    ∃ (db db' : Database) (outbox : Option Outbox), db.orders.length = 1 ∧
      runInTxn .plain .healthy (omitFields [.status] pendingPayment) (.str "e2") db =
        (.ok outbox, db') ∧ DefaultsStored [.status] db db' .paymentConfirmed := by
  obtain ⟨w, hreach, hdb⟩ := exists_reachable [(sampleOrder, .str "e1")]
    (fun _ _ _ _ _ => trivial) (by decide) (by simp [sampleOrder, orderCreatedEvent, Json.getItem])
  obtain ⟨outbox, houtbox⟩ : ∃ outbox,
      (runInTxn .plain .healthy pendingPayment (.str "e2") w.db).1 = .ok outbox := by
    rw [hdb]
    exact ⟨none, rfl⟩
  obtain ⟨o, ho⟩ : ∃ o, (w.db.ordersNamed .plain (.str "o1")).head? = some o := by
    rw [← Option.isSome_iff_exists, hdb]
    decide
  have hfresh : w.db.paymentsNamed .plain (.str "p1") = [] := by
    rw [hdb]
    rfl
  have hp : paymentParams (.obj [("external_order_id", .str "o1"),
      ("external_payment_id", .str "p1"), ("method", .str "PIX"), ("status", .str "PENDING"),
      ("amount", .int 10)]) =
    .ok ⟨.str "p1", .str "PIX", .str "PENDING", .int 10, .null⟩ := rfl
  obtain ⟨outbox', db', hrun, hstored⟩ := (omission_accepted_iff _ hreach .paymentConfirmed rfl rfl
    (.payment rfl ho hp hfresh) (Prod.ext houtbox rfl) [.status]).mpr ⟨by simp, by simp⟩
  refine ⟨w.db, db', outbox', ?_, hrun, hstored⟩
  rw [hdb]
  decide

/-- An address without its country is refused. -/
theorem omitted_country_refused :
    ¬ ∀ (ext : Externals) (f : Fleet), Fleet.Reachable ext (fun _ _ => True) f →
      ∀ (type : EventType) (event eventId data : Json) (env : Attempt) (outbox : Option Outbox)
        (db' : Database) (omitted : List OptionalField),
      event.getItem "event_type" = .ok (.str type.text) → event.getItem "data" = .ok data →
      New ext.sql f.world.db data type →
      runInTxn ext.sql env event eventId f.world.db = (.ok outbox, db') →
      ∃ outbox' db'', runInTxn ext.sql env (omitFields omitted event) eventId f.world.db =
        (.ok outbox', db'') ∧ DefaultsStored omitted f.world.db db'' type := by
  intro h
  obtain ⟨outbox', db'', hrun, -⟩ := h sampleExternals ⟨.start, []⟩ .start .orderCreated sampleOrder
    (.str "e1") _ .healthy none _ [.country] rfl rfl .order rfl
  have hrefused : (runInTxn .plain .healthy (omitFields [.country] sampleOrder) (.str "e1")
      .empty).1.isOk = false := by decide
  have hrun' := congrArg (fun result => result.1.isOk) hrun
  exact absurd (hrefused.symm.trans hrun') (by simp [Except.isOk, Except.toBool])

end EventPipeline

import EventPipeline.AuditTrail
import EventPipeline.Shop

/-!
# Events whose ids are texts

What the operations of the shop do where the ids and names of an event are texts that their columns
store as they are: they find the rows of the same text, and where the other values convert nothing is
refused but a key that is taken and a terminal order.
-/

namespace EventPipeline

open Transaction

variable {sql : SqlServer} {s : Shop}

/-! ### Values -/

namespace SqlServer

lemma checked_str {constraint t : String} {allowed : List String} (h : sql.Keeps 20 t)
    (hallowed : t ∈ allowed) : sql.checked constraint allowed (.str t) = .ok ⟨t, h.2⟩ := by
  have hone : sql.isOneOf t allowed = true := List.any_eq_true.mpr ⟨t, hallowed, sql.same_refl t⟩
  simp only [checked, text_str h.stored]
  exact if_pos hone

lemma datetime_str {column t : String} {v : Int} (h : sql.toDatetime (.text t) = some v) :
    sql.datetime column (.str t) = .ok v := by
  simp only [datetime, convert, Json.scalar, h]
  rfl

lemma convert_str {α : Type} {read : Scalar → Option α} {column t : String} {v : α}
    (h : read (.text t) = some v) : convert read column (.str t) = .ok (some v) := by
  simp only [convert, Json.scalar, h]

lemma numeric_num {column : String} {n : Number} {v : Int} (h : sql.toNumeric (.num n) = some v) :
    sql.numeric column (.num n) = .ok v := by
  simp only [numeric, convert, Json.scalar, h]
  rfl

lemma contentColumn_str {f : AddressField} {t : String} (h : sql.Keeps f.width t) :
    sql.contentColumn f (.str t) = .ok (some t) := by
  simp only [contentColumn, varchar_str h.stored]
  rfl

lemma exists_contentColumns {content : AddressField → Json}
    (h : ∀ f, ∃ v, sql.contentColumn f (content f) = .ok v) :
    ∃ v, sql.contentColumns content = .ok v := by
  choose v hv using h
  simp only [contentColumns, hv]
  exact ⟨_, rfl⟩

end SqlServer

@[simp] lemma holds_str (column t value : String) :
    holds (sql.compare column (.str t) value) = sql.same t value := by
  rw [sql.compare_str]
  cases sql.same t value <;> rfl

namespace Shop

/-! ### The ledger -/

lemma claim_str {id type : String} (hid : sql.Keeps 100 id) (htype : sql.Keeps 50 type)
    (hfresh : ∀ e ∈ s.ledger, sql.same id e.eventId.text = false) :
    claim sql (.str id) (.str type) s =
      some { s with ledger := s.ledger ++ [⟨⟨id, hid.2⟩, ⟨type, htype.2⟩, false⟩] } := by
  have hany : (s.ledger.any fun e => sql.same id e.eventId.text) = false :=
    List.any_eq_false.mpr fun e he => by simp [hfresh e he]
  simp only [claim, List.all_cons, List.all_nil, Json.bindable, Bool.and_true, if_true,
    SqlServer.text_str hid.stored, SqlServer.text_str htype.stored, Except.toOption,
    Option.bind_eq_bind, Option.bind_some, hany, Bool.false_eq_true, if_false]

lemma claim_taken {id : String} {type : Json} {e : LedgerInfo} (he : e ∈ s.ledger)
    (hid : sql.stored 100 (.text id) = some e.eventId) : claim sql (.str id) type s = none := by
  have hany : (s.ledger.any fun e' => sql.same e.eventId.text e'.eventId.text) = true :=
    List.any_eq_true.mpr ⟨e, he, sql.same_refl _⟩
  unfold claim
  split_ifs
  · rw [SqlServer.text_str hid]
    cases sql.text 50 "event_type" type with
    | error _ => rfl
    | ok type =>
      simp only [Except.toOption, Option.bind_eq_bind, Option.bind_some, hany, if_true]
  · rfl

lemma mark_str (sql : SqlServer) (id : String) (s : Shop) :
    ∃ ledger, mark sql (.str id) s = some { s with ledger } ∧
      ledger.map (·.eventId) = s.ledger.map (·.eventId) := by
  have hselect := sql.selectRows_str "event_id" id (fun e : LedgerInfo => e.eventId.text) s.ledger
  refine ⟨s.ledger.map fun e =>
    if holds (ledgerNamed sql (.str id) e) then { e with processed := true } else e, ?_, ?_⟩
  · simp only [mark, List.all_cons, Json.bindable, List.all_nil, Bool.and_true, if_true]
    unfold ledgerNamed
    rw [hselect]
    rfl
  · rw [List.map_map]
    refine List.map_congr_left fun e _ => ?_
    simp only [Function.comp_apply]
    split_ifs <;> rfl

/-! ### Clients -/

/-- The client is stored under the text, before or by now. -/
lemma mergeClient_str {ext name email document : String} (hext : sql.Keeps 64 ext)
    (hname : sql.Keeps 200 name) (hemail : sql.Keeps 200 email) (hdocument : sql.Keeps 32 document)
    (hsame : ∀ c ∈ s.clients, sql.same ext c.ext.text = true → c.ext.text = ext) :
    ∃ (key : Varchar 64) (clients : List ClientInfo),
      mergeClient sql ⟨.str ext, .str name, .str email, .str document⟩ s =
          some (key, { s with clients }) ∧ key.text = ext ∧
        (clients.map (·.ext) = s.clients.map (·.ext) ∧ key ∈ s.clients.map (·.ext) ∨
          clients.map (·.ext) = s.clients.map (·.ext) ++ [key] ∧ key ∉ s.clients.map (·.ext)) := by
  have hselect : selectRows (clientNamed sql (.str ext)) s.clients =
      .ok (s.clients.filter fun c => sql.same ext c.ext.text) :=
    sql.selectRows_str "external_client_id" ext (fun c : ClientInfo => c.ext.text) s.clients
  simp only [mergeClient, List.all_cons, Json.bindable, List.all_nil, Bool.and_true, if_true, hselect,
    SqlServer.text_str hname.stored, SqlServer.text_str hemail.stored,
    SqlServer.text_str hdocument.stored,
    Except.toOption, Option.bind_eq_bind, Option.bind_some]
  cases hnamed : s.clients.filter fun c => sql.same ext c.ext.text with
  | nil =>
    have hnone : ∀ c ∈ s.clients, sql.same ext c.ext.text = false := fun c hc => by
      simpa using List.filter_eq_nil_iff.mp hnamed c hc
    have hany : (s.clients.any fun c => sql.same ext c.ext.text) = false :=
      List.any_eq_false.mpr fun c hc => by simp [hnone c hc]
    refine ⟨⟨ext, hext.2⟩, s.clients ++ [⟨⟨ext, hext.2⟩, ⟨name, hname.2⟩, ⟨email, hemail.2⟩,
      ⟨document, hdocument.2⟩⟩], ?_, rfl, .inr ⟨?_, ?_⟩⟩
    · simp only [newClient, SqlServer.text_str hext.stored, Except.toOption, Option.bind_eq_bind,
        Option.bind_some, hany, Bool.false_eq_true, if_false]
    · simp
    · intro hmem
      obtain ⟨c, hc, hkey⟩ := List.mem_map.mp hmem
      have hfalse := hnone c hc
      rw [hkey, sql.same_refl] at hfalse
      cases hfalse
  | cons c rest =>
    have hc : c ∈ s.clients.filter fun c => sql.same ext c.ext.text := hnamed ▸ List.mem_cons_self
    obtain ⟨hc, hcsame⟩ := List.mem_filter.mp hc
    refine ⟨c.ext, _, rfl, hsame c hc hcsame, .inl ⟨?_, List.mem_map_of_mem hc⟩⟩
    rw [List.map_map]
    refine List.map_congr_left fun c _ => ?_
    simp only [Function.comp_apply]
    split_ifs <;> rfl

/-! ### Addresses -/

/-- How many current versions a client has. -/
def current (client : Varchar 64) (rows : List AddressInfo) : ℕ :=
  rows.countP fun a => a.isCurrent && a.client = some client

variable {client : Varchar 64} {ext : String} {payload : AddressField → Json}
  {content : AddressField → Option String}

/-- A version is added where its client has no current one. -/
lemma insertAddress_str (hext : sql.Keeps 64 ext)
    (hbind : (AddressField.fields.map payload).all Json.bindable = true)
    (hcontent : sql.contentColumns payload = .ok content) (hnone : current client s.address = 0) :
    insertAddress sql client (.str ext) payload s = some ((⟨ext, hext.2⟩, content),
      { s with address := s.address ++ [⟨some client, ⟨ext, hext.2⟩, content, true⟩] }) := by
  have hany : (s.address.any fun a => a.isCurrent && a.client = some client &&
      sql.same ext a.ext.text) = false := by
    refine List.any_eq_false.mpr fun a ha => ?_
    have hcur := List.countP_eq_zero.mp hnone a ha
    simp [hcur]
  simp only [insertAddress, List.all_cons, Json.bindable, hbind, Bool.and_true, if_true,
    SqlServer.text_str hext.stored, hcontent, Except.toOption, Option.bind_eq_bind, Option.bind_some,
    hany, Bool.false_eq_true, if_false]

lemma current_append (c : Varchar 64) (rows : List AddressInfo) (a : AddressInfo) :
    current c (rows ++ [a]) = current c rows + if a.isCurrent && a.client = some c then 1 else 0 := by
  simp [current, List.countP_append, List.countP_singleton]

/-- The version that expires is the only current one of its client. -/
lemma current_expire {a : AddressInfo} (ha : a ∈ s.address) (hclient : a.client = some client)
    (hown : ∀ a ∈ s.address, a.client = some client → a.ext.text = ext) (c : Varchar 64) :
    current c (s.expire a).address = if c = client then 0 else current c s.address := by
  have hext : a.ext.text = ext := hown a ha hclient
  split_ifs with hc
  · subst hc
    refine List.countP_eq_zero.mpr fun b hb hcur => ?_
    obtain ⟨a', ha', rfl⟩ := List.mem_map.mp hb
    by_cases hmatch : a'.client = a.client ∧ a'.ext = a.ext ∧ a'.isCurrent = true
    · simp [hmatch] at hcur
    · simp only [hmatch, if_false, Bool.and_eq_true, decide_eq_true_eq] at hcur
      refine hmatch ⟨hcur.2.trans hclient.symm, ?_, hcur.1⟩
      have hsame := (hown a' ha' hcur.2).trans hext.symm
      cases ha'ext : a'.ext
      cases haext : a.ext
      simp_all
  · simp only [current, expire, List.countP_map]
    refine List.countP_congr fun a' _ => ?_
    simp only [Function.comp_apply]
    split_ifs with hmatch
    · have hne : a'.client ≠ some c := by
        rw [hmatch.1, hclient]
        exact fun heq => hc (Option.some.inj heq).symm
      simp [hne]
    · rfl

/-- The version that is added is the only current one of its client. -/
lemma versions_concat {rows : List AddressInfo} (hext : ext.length ≤ 64)
    (hrows : ∀ a ∈ rows, ∃ a' ∈ s.address, a'.client = a.client ∧ a'.ext = a.ext)
    (hcurrent : ∀ c, current c rows = if c = client then 0 else current c s.address) :
    (∀ a ∈ rows ++ [⟨some client, ⟨ext, hext⟩, content, true⟩],
        (a.client = some client ∧ a.ext.text = ext) ∨
          ∃ a' ∈ s.address, a'.client = a.client ∧ a'.ext = a.ext) ∧
      ∀ c, current c (rows ++ [⟨some client, ⟨ext, hext⟩, content, true⟩]) =
        if c = client then 1 else current c s.address := by
  refine ⟨fun a ha => ?_, fun c => ?_⟩
  · rcases List.mem_append.mp ha with ha | ha
    · exact .inr (hrows a ha)
    · obtain rfl := List.mem_singleton.mp ha
      exact .inl ⟨rfl, rfl⟩
  · rw [current_append, hcurrent]
    by_cases hc : c = client
    · subst hc
      simp
    · have hne : client ≠ c := fun heq => hc heq.symm
      simp [hc, hne]

/-- The client has one current version of its address, before or by now. -/
lemma upsertAddress_str {address : Json} (hext : sql.Keeps 64 ext)
    (haddress : address.getItem "external_address_id" = .ok (.str ext))
    (hbind : (AddressField.fields.map (addressContent address)).all Json.bindable = true)
    (hcontent : sql.contentColumns (addressContent address) = .ok content)
    (hown : ∀ a ∈ s.address, a.client = some client → a.ext.text = ext)
    (hone : current client s.address ≤ 1) :
    ∃ key rows, upsertAddress sql client address s = some (key, { s with address := rows }) ∧
      (∀ a ∈ rows, (a.client = some client ∧ a.ext.text = ext) ∨
        ∃ a' ∈ s.address, a'.client = a.client ∧ a'.ext = a.ext) ∧
      ∀ c, current c rows = if c = client then 1 else current c s.address := by
  simp only [upsertAddress, haddress, Except.toOption, Option.bind_eq_bind, Option.bind_some,
    currentVersions_str]
  cases hrows : ((s.address.filter fun a => a.client = some client).filter
      fun a => sql.same ext a.ext.text).filter (·.isCurrent) with
  | nil =>
    have hnone : current client s.address = 0 := by
      refine List.countP_eq_zero.mpr fun a ha hcur => ?_
      simp only [Bool.and_eq_true, decide_eq_true_eq] at hcur
      have hmem : a ∈ ((s.address.filter fun a => a.client = some client).filter
          fun a => sql.same ext a.ext.text).filter (·.isCurrent) := by
        simp [ha, hcur, hown a ha hcur.2]
      rw [hrows] at hmem
      cases hmem
    refine ⟨_, _, insertAddress_str hext hbind hcontent hnone, versions_concat hext.2
      (fun a ha => ⟨a, ha, rfl, rfl⟩) fun c => ?_⟩
    split_ifs with hc
    · rw [hc, hnone]
    · rfl
  | cons a rest =>
    have ha : a ∈ ((s.address.filter fun a => a.client = some client).filter
        fun a => sql.same ext a.ext.text).filter (·.isCurrent) := hrows ▸ List.mem_cons_self
    simp only [List.mem_filter, decide_eq_true_eq] at ha
    obtain ⟨⟨⟨ha, hclient⟩, -⟩, hcur⟩ := ha
    simp only
    split_ifs
    · refine ⟨_, s.address, rfl, fun a' ha' => .inr ⟨a', ha', rfl, rfl⟩, fun c => ?_⟩
      split_ifs with hc
      · subst hc
        have hpos : 0 < current c s.address :=
          List.countP_pos_iff.mpr ⟨a, ha, by simp [hcur, hclient]⟩
        omega
      · rfl
    · have hexpired := current_expire ha hclient hown
      refine ⟨_, _, insertAddress_str hext hbind hcontent ((hexpired client).trans (if_pos rfl)),
        versions_concat hext.2 (fun b hb => ?_) hexpired⟩
      obtain ⟨a', ha', rfl⟩ := List.mem_map.mp hb
      refine ⟨a', ha', ?_, ?_⟩ <;> split_ifs <;> rfl

/-! ### Orders -/

lemma insertOrder_str {address : AddressKey} {data : Json} {p : OrderParams} {total : Int}
    {currency : String} {date : Option Int} (hp : orderParams data = .ok p)
    (hkey : p.externalOrderId = .str ext) (hext : sql.Keeps 64 ext)
    (htotal : sql.numeric "total_amount" p.totalAmount = .ok total)
    (hcurrency : p.currency = .str currency) (hcurrency' : sql.Keeps 3 currency)
    (hdate : orderDate sql p.orderDate = some date)
    (hbind : (p.totalAmount :: p.orderDate.toList).all Json.bindable = true)
    (hfresh : ∀ o ∈ s.orders, sql.same ext o.ext.text = false) :
    insertOrder sql client address data s = some (⟨ext, hext.2⟩, { s with
      orders := s.orders ++ [⟨⟨ext, hext.2⟩, some client, some address, SqlServer.pending, total,
        ⟨currency, hcurrency'.2⟩, date, false⟩] }) := by
  have hany : (s.orders.any fun o => sql.same ext o.ext.text) = false :=
    List.any_eq_false.mpr fun o ho => by simp [hfresh o ho]
  have hbind' : ([.str ext, p.totalAmount, .str currency] ++ p.orderDate.toList).all
      Json.bindable = true := by
    simpa [Json.bindable] using hbind
  simp only [insertOrder, hp, addOrder, hbind', if_true, hkey, SqlServer.text_str hext.stored, htotal,
    hcurrency, SqlServer.text_str hcurrency'.stored, hdate, Except.toOption, Option.bind_eq_bind,
    Option.bind_some, hany, Bool.false_eq_true, if_false]

lemma recordHistory_str {order : Varchar 64} {previous : Option (Varchar 20)}
    {newStatus source : String} (hnew : sql.Keeps 20 newStatus) (hsource : sql.Keeps 100 source) :
    recordHistory sql order previous (.str newStatus) (.str source) s = some { s with
      history := s.history ++ [⟨some order, previous, ⟨newStatus, hnew.2⟩, SqlServer.changedBy,
        some ⟨source, hsource.2⟩⟩] } := by
  simp only [recordHistory, List.all_cons, List.all_nil, Json.bindable, Bool.and_true, if_true,
    SqlServer.text_str hnew.stored, SqlServer.varchar_str hsource.stored, Except.toOption,
    Option.bind_eq_bind, Option.bind_some]

/-- An order that is stored under a text is found. -/
lemma exists_named_order {o : OrderInfo} (ho : o ∈ s.orders) (hext : o.ext.text = ext) :
    ∃ first rest, (s.orders.filter fun o => sql.same ext o.ext.text) = first :: rest ∧
      selectRows (orderNamed sql (.str ext)) s.orders = .ok (first :: rest) := by
  have hmem : o ∈ s.orders.filter fun o => sql.same ext o.ext.text :=
    List.mem_filter.mpr ⟨ho, hext ▸ sql.same_refl _⟩
  obtain ⟨first, rest, hnamed⟩ := List.exists_cons_of_ne_nil (List.ne_nil_of_mem hmem)
  exact ⟨first, rest, hnamed, hnamed ▸ sql.selectRows_str _ _ _ s.orders⟩

/-- The order stored under a text gets the status. -/
lemma updateOrder_str {newStatus : String} (hnew : sql.Keeps 20 newStatus)
    (hallowed : newStatus ∈ orderStatuses) {o : OrderInfo} (ho : o ∈ s.orders)
    (hext : o.ext.text = ext) (hopen : ∀ o ∈ s.orders, sql.same ext o.ext.text = true →
      isTerminal sql o = false) :
    ∃ (key : Varchar 64) (previous : Varchar 20) (closing : Bool),
      updateOrder sql (.str ext) (.str newStatus) s = some (some (key, previous), { s with
        orders := s.orders.map fun o => if sql.same ext o.ext.text then
          { o with status := ⟨newStatus, hnew.2⟩, closed := closing || o.closed } else o }) := by
  obtain ⟨first, rest, hnamed, hselect⟩ := @exists_named_order sql _ _ o ho hext
  have hany : (first :: rest).any (isTerminal sql) = false := by
    rw [← hnamed]
    exact List.any_eq_false.mpr fun o ho => by
      obtain ⟨ho, hsame⟩ := List.mem_filter.mp ho
      simp [hopen o ho hsame]
  refine ⟨first.ext, first.status, sql.isOneOf newStatus terminalStatuses, ?_⟩
  simp only [updateOrder, List.all_cons, List.all_nil, Json.bindable, Bool.and_true, if_true,
    hselect, sql.compareAny_str, SqlServer.checked_str hnew hallowed, Except.toOption,
    Option.bind_eq_bind, Option.bind_some, hany, Bool.false_eq_true, if_false]
  simp only [orderNamed, holds_str]

lemma resolveOrder_str {o : OrderInfo} (ho : o ∈ s.orders) (hext : o.ext.text = ext) :
    ∃ key, resolveOrder sql (.str ext) s = some (some key) := by
  obtain ⟨first, rest, -, hselect⟩ := @exists_named_order sql _ _ o ho hext
  refine ⟨first.ext, ?_⟩
  simp only [resolveOrder, List.all_cons, List.all_nil, Json.bindable, Bool.and_true, if_true,
    hselect]
  rfl

/-! ### Payments -/

/-- A first payment under a text is stored. -/
lemma upsertPayment_str {order : Varchar 64} {payment : Json} {p : PaymentParams}
    {method status : String} {amount : Int} {paidAt : Option Int} (hp : paymentParams payment = .ok p)
    (hkey : p.externalPaymentId = .str ext) (hext : sql.Keeps 64 ext)
    (hmethod : p.method = .str method) (hmethod' : sql.Keeps 30 method)
    (hstatus : p.status = .str status) (hstatus' : sql.Keeps 20 status)
    (hallowed : status ∈ paymentStatuses) (hamount : sql.numeric "amount" p.amount = .ok amount)
    (hpaidAt : SqlServer.convert sql.toDatetime "paid_at" p.paidAt = .ok paidAt)
    (hbind : [p.amount, p.paidAt].all Json.bindable = true)
    (hfresh : ∀ q ∈ s.payments, sql.same ext q.ext.text = false) :
    upsertPayment sql order payment s = some { s with
      payments := s.payments ++ [⟨⟨ext, hext.2⟩, some order, ⟨method, hmethod'.2⟩,
        ⟨status, hstatus'.2⟩, amount, paidAt⟩] } := by
  have hselect := sql.selectRows_str "external_payment_id" ext (fun q : PaymentInfo => q.ext.text)
    s.payments
  have hnone : s.payments.filter (fun q => sql.same ext q.ext.text) = [] :=
    List.filter_eq_nil_iff.mpr fun q hq => by simp [hfresh q hq]
  have hany : (s.payments.any fun q => sql.same ext q.ext.text) = false :=
    List.any_eq_false.mpr fun q hq => by simp [hfresh q hq]
  have hbind' : [p.externalPaymentId, p.method, p.status, p.amount, p.paidAt].all Json.bindable =
      true := by
    rw [hkey, hmethod, hstatus]
    simpa [Json.bindable] using hbind
  rw [upsertPayment, hp]
  simp only [Except.toOption, Option.bind_eq_bind, Option.bind_some, mergePayment, hbind', if_true]
  unfold paymentNamed
  simp only [hkey, hselect, hnone, hstatus, SqlServer.checked_str hstatus' hallowed, hamount, hpaidAt,
    Except.toOption, Option.bind_some, List.isEmpty_nil, if_true, newPayment,
    SqlServer.text_str hext.stored, hmethod, SqlServer.text_str hmethod'.stored, Option.bind_eq_bind,
    hany, Bool.false_eq_true, if_false]

/-! ### Events -/

variable {event data : Json} {id type : String}

/-- An event whose id is new is accepted where its effect is defined. -/
lemma event_str (hid : event.getItem "event_id" = .ok (.str id))
    (htype : event.getItem "event_type" = .ok (.str type)) (hdata : event.getItem "data" = .ok data)
    (hid' : sql.Keeps 100 id) (htype' : sql.Keeps 50 type)
    (hfresh : ∀ e ∈ s.ledger, sql.same id e.eventId.text = false) {s₁ : Shop}
    (heffect : effect sql (.str id) (.str type) data
      { s with ledger := s.ledger ++ [⟨⟨id, hid'.2⟩, ⟨type, htype'.2⟩, false⟩] } = some s₁) :
    ∃ ledger, Shop.event sql event (.str id) s = some { s₁ with ledger } ∧
      ledger.map (·.eventId) = s₁.ledger.map (·.eventId) := by
  obtain ⟨ledger, hmark, hledger⟩ := mark_str sql id s₁
  refine ⟨ledger, ?_, hledger⟩
  simp only [Shop.event, process, hid, htype, hdata, Except.toOption, Option.bind_eq_bind,
    Option.bind_some, claim_str hid' htype' hfresh, heffect, hmark]

/-- An event whose id is in the ledger is refused. -/
lemma event_taken (hid : event.getItem "event_id" = .ok (.str id)) {e : LedgerInfo}
    (he : e ∈ s.ledger) (hsame : sql.stored 100 (.text id) = some e.eventId) :
    Shop.event sql event (.str id) s = none := by
  cases htype : event.getItem "event_type" with
  | error _ => simp [Shop.event, process, hid, htype, Except.toOption]
  | ok type =>
    cases hdata : event.getItem "data" with
    | error _ => simp [Shop.event, process, hid, htype, hdata, Except.toOption]
    | ok data =>
      simp [Shop.event, process, hid, htype, hdata, Except.toOption, claim_taken he hsame]

end Shop

end EventPipeline

import EventPipeline.Accepted
import EventPipeline.Simulator
import EventPipeline.Streams

/-!
# The events of a workload

While the events of a workload of the load simulator are processed, the tables say exactly which of
them have been accepted (`Stocked`). The server tells the ids of different orders apart, so a first
event of an order is accepted in its turn (`Stocked.created`, `Stocked.approved`, `Stocked.paid`);
orders of one client share its row and the versions of its address, of which one is current.
-/

namespace EventPipeline

open Transaction

/-- What the simulator relies on of the server: texts in one case that consist of letters, digits
and hyphens are told apart, and the amounts and times it sends convert. -/
structure SqlServer.ReadsWorkload (sql : SqlServer) (wl : Workload) : Prop where
  statuses : sql.ReadsStatuses
  upper : ∀ a b, Spelled Char.isUpper a → Spelled Char.isUpper b → sql.same a b = true → a = b
  lower : ∀ a b, Spelled Char.isLower a → Spelled Char.isLower b → sql.same a b = true → a = b
  amount : ∃ n, sql.toNumeric (.num ⟨998, 1⟩) = some n
  unitPrice : ∃ n, sql.toNumeric (.num ⟨499, 1⟩) = some n
  quantity : ∃ n, sql.toBigint (.num ⟨2, 0⟩) = some n
  dates : ∀ seq step, seq < wl.orders → ∃ t, sql.toDatetime (.text (wl.date seq step)) = some t

namespace Workload

variable {ext : Externals} {sql : SqlServer} {wl : Workload} {acc : List (ℕ × OrderStep)} {s : Shop}
  {seq : ℕ}

/-! ### Ids -/

def orderId (seq : ℕ) : String :=
  "ORD-" ++ zeroPad 8 seq

def clientId (seq : ℕ) : String :=
  "CLI-" ++ zeroPad 6 (seq % 5000)

def addressId (seq : ℕ) : String :=
  "ADDR-" ++ zeroPad 6 (seq % 5000)

def paymentId (seq : ℕ) : String :=
  "PAY-" ++ zeroPad 8 seq

lemma spelled_id {tag : String} (h : Spelled Char.isUpper tag) (width n : ℕ) :
    Spelled Char.isUpper (tag ++ zeroPad width n) :=
  h.append (spelled_zeroPad _ _ _)

lemma spelled_orderId (seq : ℕ) : Spelled Char.isUpper (orderId seq) :=
  spelled_id (spelled_of_all rfl) _ _

lemma spelled_clientId (seq : ℕ) : Spelled Char.isUpper (clientId seq) :=
  spelled_id (spelled_of_all rfl) _ _

lemma spelled_paymentId (seq : ℕ) : Spelled Char.isUpper (paymentId seq) :=
  spelled_id (spelled_of_all rfl) _ _

lemma orderId_inj {seq seq' : ℕ} (h : orderId seq = orderId seq') : seq = seq' :=
  zeroPad_inj ((String.append_right_inj _).mp h)

lemma paymentId_inj {seq seq' : ℕ} (h : paymentId seq = paymentId seq') : seq = seq' :=
  zeroPad_inj ((String.append_right_inj _).mp h)

lemma clientId_eq_iff {seq seq' : ℕ} : clientId seq = clientId seq' ↔ seq % 5000 = seq' % 5000 :=
  ⟨fun h => zeroPad_inj ((String.append_right_inj _).mp h), fun h => by simp only [clientId, h]⟩

lemma isAscii_of_spelled {letter : Char → Bool} {t : String}
    (hletter : ∀ c, letter c = true → c.toNat < 0x80) (h : Spelled letter t) : isAscii t = true := by
  refine List.all_eq_true.mpr fun c hc => decide_eq_true ?_
  rcases h c hc with hc | hc | rfl
  · exact hletter c hc
  · exact (Char.isDigit_iff_toNat.mp hc).2.trans_lt (by decide)
  · decide

lemma isAscii_zeroPad (width n : ℕ) : isAscii (zeroPad width n) = true :=
  isAscii_of_spelled (fun _ h => by cases h) (spelled_zeroPad (fun _ => false) width n)

lemma isAscii_toString (n : ℕ) : isAscii (toString n) = true := by
  have hspelled : Spelled (fun _ => false) (toString n) := fun c hc => ?_
  · exact isAscii_of_spelled (fun _ h => by cases h) hspelled
  rw [Nat.toString_eq_repr, Nat.toList_repr] at hc
  exact .inr (.inl (Nat.isDigit_of_mem_toDigits (by decide) (by decide) hc))

/-! Each text of a workload is kept by its column. -/

/-- There are fewer orders than uuids. -/
lemma keeps_id (h : wl.DistinctIds) (hseq : seq < wl.orders) {tag : String}
    (hascii : isAscii tag = true) (htag : tag.length ≤ 4) : sql.Keeps 64 (tag ++ zeroPad 8 seq) := by
  refine SqlServer.keeps_of_ascii (isAscii_append hascii (isAscii_zeroPad 8 seq)) ?_
  have hlt : seq < 10 ^ 60 := (hseq.trans_le h.orders_le).trans (by decide)
  have hpad := @length_zeroPad 8 seq 60 (by decide) (by decide) hlt
  rw [String.length_append]
  omega

lemma keeps_eventId (wl : Workload) (seq : ℕ) (step : OrderStep) :
    sql.Keeps 100 (wl.eventId seq step).text := by
  refine SqlServer.keeps_of_ascii (isAscii_of_spelled ?_ (Uuid.spelled_text _)) ?_
  · intro c hc
    have hle : c.val ≤ 'z'.val := of_decide_eq_true (Bool.and_eq_true_iff.mp hc).2
    exact (UInt32.le_iff_toNat_le.mp hle).trans_lt (by decide)
  · rw [Uuid.length_text]
    decide

lemma length_number (seq : ℕ) : (toString (seq % 5000)).length ≤ 4 :=
  length_toString (by decide) (by omega)

/-- The numbers of the clients have four digits. -/
lemma keeps_clientPad {n : ℕ} {tag : String} (hascii : isAscii tag = true) (htag : tag.length + 6 ≤ n)
    (seq : ℕ) : sql.Keeps n (tag ++ zeroPad 6 (seq % 5000)) := by
  refine SqlServer.keeps_of_ascii (isAscii_append hascii (isAscii_zeroPad 6 _)) ?_
  have hpad := @length_zeroPad 6 (seq % 5000) 6 (by decide) (by decide) (by omega)
  rw [String.length_append]
  omega

lemma keeps_clientId (seq : ℕ) : sql.Keeps 64 (clientId seq) :=
  keeps_clientPad (by decide) (by decide) seq

lemma keeps_addressId (seq : ℕ) : sql.Keeps 64 (addressId seq) :=
  keeps_clientPad (by decide) (by decide) seq

lemma keeps_clientName (seq : ℕ) : sql.Keeps 200 ("Client " ++ toString (seq % 5000)) := by
  refine SqlServer.keeps_of_ascii (isAscii_append (by decide) (isAscii_toString _)) ?_
  rw [String.length_append]
  exact (Nat.add_le_add_left (length_number seq) 7).trans (by decide)

lemma keeps_clientEmail (seq : ℕ) :
    sql.Keeps 200 ("client" ++ toString (seq % 5000) ++ "@example.com") := by
  refine SqlServer.keeps_of_ascii
    (isAscii_append (isAscii_append (by decide) (isAscii_toString _)) (by decide)) ?_
  rw [String.length_append, String.length_append]
  exact (Nat.add_le_add_right (Nat.add_le_add_left (length_number seq) 6) 12).trans (by decide)

lemma keeps_document (seq : ℕ) : sql.Keeps 32 (zeroPad 11 (seq % 99999999)) := by
  refine SqlServer.keeps_of_ascii (isAscii_zeroPad 11 _) ?_
  have hpad := @length_zeroPad 11 (seq % 99999999) 11 (by decide) (by decide) (by omega)
  omega

lemma keeps_sku (seq : ℕ) : sql.Keeps 64 ("SKU-" ++ toString (seq % 100)) := by
  refine SqlServer.keeps_of_ascii (isAscii_append (by decide) (isAscii_toString _)) ?_
  rw [String.length_append]
  exact (Nat.add_le_add_left (length_toString (k := 2) (by decide) (by omega)) 4).trans (by decide)

/-! ### What has been accepted -/

/-- The orders one of whose events has been accepted. -/
def seqs (step : OrderStep) (acc : List (ℕ × OrderStep)) : List ℕ :=
  (acc.filter (·.2 = step)).map Prod.fst

@[simp] lemma mem_seqs {step : OrderStep} : seq ∈ seqs step acc ↔ (seq, step) ∈ acc := by
  simp only [seqs, List.mem_map, List.mem_filter, decide_eq_true_eq]
  constructor
  · rintro ⟨op, ⟨hop, rfl⟩, rfl⟩
    exact hop
  · intro h
    exact ⟨_, ⟨h, rfl⟩, rfl⟩

lemma seqs_append_self (seq : ℕ) (step : OrderStep) (acc : List (ℕ × OrderStep)) :
    seqs step (acc ++ [(seq, step)]) = seqs step acc ++ [seq] := by
  simp [seqs]

lemma seqs_append_of_ne {step step' : OrderStep} (h : step' ≠ step) (seq : ℕ)
    (acc : List (ℕ × OrderStep)) : seqs step (acc ++ [(seq, step')]) = seqs step acc := by
  simp [seqs, h]

/-- The tables hold exactly the effects of the events that have been accepted, in their order. -/
structure Stocked (wl : Workload) (acc : List (ℕ × OrderStep)) (s : Shop) : Prop where
  range : ∀ op ∈ acc, op.1 < wl.orders
  ledger : s.ledger.map (·.eventId.text) = acc.map fun op => (wl.eventId op.1 op.2).text
  orders : s.orders.map (·.ext.text) = (seqs .created acc).map orderId
  status : ∀ o ∈ s.orders, ∀ seq, o.ext.text = orderId seq →
    o.status.text = if (seq, .approved) ∈ acc then "APPROVED" else "PENDING"
  items : s.items.length = (seqs .created acc).length
  history : s.history.length = (seqs .created acc).length + (seqs .approved acc).length
  payments : s.payments.map (·.ext.text) = (seqs .paid acc).map paymentId
  clients : ∀ t, t ∈ s.clients.map (·.ext.text) ↔ t ∈ (seqs .created acc).map clientId
  address : ∀ a ∈ s.address, ∃ seq c, a.client = some c ∧ c ∈ s.clients.map (·.ext) ∧
    c.text = clientId seq ∧ a.ext.text = addressId seq
  current : ∀ c ∈ s.clients.map (·.ext), Shop.current c s.address = 1

/-! ### The first event of an order -/

/-- The item of a simulated order. -/
def widget (sku : String) : Item :=
  [("sku", .str sku), ("description", .str "Widget"), ("quantity", .int 2),
    ("unit_price", .num ⟨499, 1⟩)]

/-- The content of the address of a simulated order. -/
def addressFields (seq : ℕ) : AddressField → Json
  | .street => .str "Rua Synthetic"
  | .number => .str (toString (100 + seq % 900))
  | .complement => .null
  | .neighborhood => .str "Centro"
  | .city => .str "Sao Paulo"
  | .state => .str "SP"
  | .postalCode => .str "01000-000"
  | .country => .str "BR"

/-- What the consumer reads in an `ORDER_CREATED` event of the simulator. -/
lemma created_reads (wl : Workload) (seq : ℕ) : ∃ data client address,
    (wl.event seq .created).getItem "data" = .ok data ∧ data.getItem "client" = .ok client ∧
    clientParams client = .ok ⟨.str (clientId seq), .str ("Client " ++ toString (seq % 5000)),
      .str ("client" ++ toString (seq % 5000) ++ "@example.com"),
      .str (zeroPad 11 (seq % 99999999))⟩ ∧
    data.getItem "address" = .ok address ∧
    address.getItem "external_address_id" = .ok (.str (addressId seq)) ∧
    addressContent address = addressFields seq ∧
    orderParams data = .ok ⟨.str (orderId seq), .num ⟨998, 1⟩, .str "BRL",
      if (Json.str (wl.date seq .created)).truthy then some (.str (wl.date seq .created)) else none⟩ ∧
    data.get "items" (.arr []) = .ok (.arr [.obj (widget ("SKU-" ++ toString (seq % 100)))]) := by
  refine ⟨_, _, _, rfl, rfl, rfl, rfl, rfl, ?_, rfl, rfl⟩
  funext f
  cases f <;> rfl

/-- Every content column of a simulated address fits. -/
lemma contentColumns_created (sql : SqlServer) (seq : ℕ) :
    ∃ content, sql.contentColumns (addressFields seq) = .ok content := by
  have hnumber : (toString (100 + seq % 900)).length ≤ 3 := length_toString (by decide) (by omega)
  refine SqlServer.exists_contentColumns fun f => ?_
  cases f with
  | complement => exact ⟨none, rfl⟩
  | number => exact ⟨_, SqlServer.contentColumn_str (SqlServer.keeps_of_ascii (isAscii_toString _)
      (hnumber.trans (by decide)))⟩
  | _ => exact ⟨_, SqlServer.contentColumn_str (SqlServer.keeps_of_ascii (by decide) (by decide))⟩

lemma insertItems_widget (hsql : sql.ReadsWorkload wl) (order : Varchar 64) {sku : String}
    (hsku : sql.Keeps 64 sku) (s : Shop) :
    ∃ row, Shop.insertItems sql order (.arr [.obj (widget sku)]) s =
      some { s with items := s.items ++ [row] } := by
  obtain ⟨price, hprice⟩ := hsql.unitPrice
  obtain ⟨quantity, hquantity⟩ := hsql.quantity
  have hdescription : sql.Keeps 200 "Widget" := SqlServer.keeps_of_ascii (by decide) (by decide)
  have hitem : Shop.itemInfo sql order (widget sku) =
      .ok ⟨some order, ⟨sku, hsku.2⟩, ⟨"Widget", hdescription.2⟩, quantity, price⟩ := by
    simp [Shop.itemInfo, widget, SqlServer.parameter, List.lookup_cons,
      SqlServer.text_str hsku.stored, SqlServer.text_str hdescription.stored, SqlServer.bigint,
      SqlServer.convert, Json.scalar, Json.int, hquantity, SqlServer.numeric, hprice, required]
  have hmappings : itemMappings (.arr [.obj (widget sku)]) = .ok [widget sku] := rfl
  have hbind : ([widget sku].flatMap Shop.itemParameters).all Json.bindable = true := rfl
  refine ⟨⟨some order, ⟨sku, hsku.2⟩, ⟨"Widget", hdescription.2⟩, quantity, price⟩, ?_⟩
  simp only [Shop.insertItems, show (Json.arr [.obj (widget sku)]).truthy = true from rfl, if_true,
    hmappings, Except.toOption, Option.bind_eq_bind, Option.bind_some, hbind]
  rw [collect_eq_ok.mpr (.cons hitem .nil)]
  rfl

lemma orderDate_created (hsql : sql.ReadsWorkload wl) (hseq : seq < wl.orders) (step : OrderStep) :
    ∃ date, Shop.orderDate sql (if (Json.str (wl.date seq step)).truthy
      then some (.str (wl.date seq step)) else none) = some date := by
  obtain ⟨t, ht⟩ := hsql.dates seq step hseq
  split_ifs
  · exact ⟨some t, by simp [Shop.orderDate, SqlServer.datetime_str ht, Except.toOption]⟩
  · exact ⟨none, rfl⟩

namespace Stocked

/-- The id of an event that has not been accepted is new. -/
lemma fresh (h : Stocked wl acc s) (hsql : sql.ReadsWorkload wl) (hids : wl.DistinctIds)
    (hseq : seq < wl.orders) {step : OrderStep} (hnew : (seq, step) ∉ acc) :
    ∀ e ∈ s.ledger, sql.same (wl.eventId seq step).text e.eventId.text = false := by
  intro e he
  have hmem : e.eventId.text ∈ acc.map fun op => (wl.eventId op.1 op.2).text :=
    h.ledger ▸ List.mem_map_of_mem he
  obtain ⟨op, hop, htext⟩ := List.mem_map.mp hmem
  refine Bool.eq_false_iff.mpr fun hsame => hnew ?_
  have heq := hsql.lower _ _ (Uuid.spelled_text _) (htext ▸ Uuid.spelled_text _) hsame
  obtain ⟨hone, htwo⟩ := hids seq step op.1 op.2 hseq (h.range op hop) (heq.trans htext.symm)
  rw [hone, htwo]
  exact hop

/-- The rows of an order are told from those of the others. -/
lemma order_same (h : Stocked wl acc s) (hsql : sql.ReadsWorkload wl) {o : OrderInfo}
    (ho : o ∈ s.orders) (hsame : sql.same (orderId seq) o.ext.text = true) :
    o.ext.text = orderId seq ∧ (seq, .created) ∈ acc := by
  have hmem : o.ext.text ∈ (seqs .created acc).map orderId := h.orders ▸ List.mem_map_of_mem ho
  obtain ⟨seq', hseq', htext⟩ := List.mem_map.mp hmem
  have heq := hsql.upper _ _ (spelled_orderId seq) (htext ▸ spelled_orderId seq') hsame
  obtain rfl : seq = seq' := orderId_inj (heq.trans htext.symm)
  exact ⟨heq.symm, mem_seqs.mp hseq'⟩

lemma exists_order (h : Stocked wl acc s) (hseq : (seq, .created) ∈ acc) :
    ∃ o ∈ s.orders, o.ext.text = orderId seq := by
  have hmem : orderId seq ∈ s.orders.map (·.ext.text) :=
    h.orders ▸ List.mem_map_of_mem (mem_seqs.mpr hseq)
  exact List.mem_map.mp hmem

/-- The client of a simulated order is told from the others. -/
lemma client_same (h : Stocked wl acc s) (hsql : sql.ReadsWorkload wl) {c : ClientInfo}
    (hc : c ∈ s.clients) (hsame : sql.same (clientId seq) c.ext.text = true) :
    c.ext.text = clientId seq := by
  have hmem := (h.clients c.ext.text).mp (List.mem_map_of_mem hc)
  obtain ⟨seq', -, htext⟩ := List.mem_map.mp hmem
  exact (hsql.upper _ _ (spelled_clientId seq) (htext ▸ spelled_clientId seq') hsame).symm

/-- The client of a simulated order is found, or created. -/
lemma client_effect (h : Stocked wl acc s) (hsql : sql.ReadsWorkload wl) (seq : ℕ)
    (ledger : List LedgerInfo) :
    ∃ key clients,
      Shop.mergeClient sql ⟨.str (clientId seq), .str ("Client " ++ toString (seq % 5000)),
        .str ("client" ++ toString (seq % 5000) ++ "@example.com"),
        .str (zeroPad 11 (seq % 99999999))⟩ { s with ledger } =
          some (key, { s with clients, ledger }) ∧ key.text = clientId seq ∧
      (clients.map (·.ext) = s.clients.map (·.ext) ∧ key ∈ s.clients.map (·.ext) ∨
        clients.map (·.ext) = s.clients.map (·.ext) ++ [key] ∧ key ∉ s.clients.map (·.ext)) := by
  exact @Shop.mergeClient_str sql { s with ledger } (clientId seq) _ _ _ (keeps_clientId seq)
    (keeps_clientName seq) (keeps_clientEmail seq) (keeps_document seq)
    (fun c hc => h.client_same hsql hc)

/-- The client has one address, of which one version is current at most. -/
lemma address_own (h : Stocked wl acc s) {key : Varchar 64} (hkey : key.text = clientId seq) :
    (∀ a ∈ s.address, a.client = some key → a.ext.text = addressId seq) ∧
      Shop.current key s.address ≤ 1 := by
  constructor
  · intro a ha hakey
    obtain ⟨seq', c, hac, -, hc, hext⟩ := h.address a ha
    obtain rfl : c = key := Option.some.inj (hac.symm.trans hakey)
    rw [hext, addressId, addressId, clientId_eq_iff.mp (hc.symm.trans hkey)]
  · by_cases hmem : key ∈ s.clients.map (·.ext)
    · exact (h.current key hmem).le
    · refine (List.countP_eq_zero.mpr fun a ha hcur => hmem ?_).trans_le (by decide)
      obtain ⟨seq', c, hac, hc, -⟩ := h.address a ha
      simp only [Bool.and_eq_true, decide_eq_true_eq] at hcur
      exact Option.some.inj (hac.symm.trans hcur.2) ▸ hc

/-- What the branch of a first `ORDER_CREATED` event does. -/
lemma created_effect (h : Stocked wl acc s) (hsql : sql.ReadsWorkload wl) (hids : wl.DistinctIds)
    (hseq : seq < wl.orders) (hnew : (seq, .created) ∉ acc) {data : Json}
    (hdata : (wl.event seq .created).getItem "data" = .ok data) (ledger : List LedgerInfo) :
    ∃ key clients rows o item entry,
      Shop.orderCreated sql (.str (wl.eventId seq .created).text) data { s with ledger } =
        some { s with
          clients, address := rows, orders := s.orders ++ [o], items := s.items ++ [item],
          history := s.history ++ [entry], ledger } ∧
      key.text = clientId seq ∧
      (clients.map (·.ext) = s.clients.map (·.ext) ∧ key ∈ s.clients.map (·.ext) ∨
        clients.map (·.ext) = s.clients.map (·.ext) ++ [key] ∧ key ∉ s.clients.map (·.ext)) ∧
      (∀ a ∈ rows, (a.client = some key ∧ a.ext.text = addressId seq) ∨
        ∃ a' ∈ s.address, a'.client = a.client ∧ a'.ext = a.ext) ∧
      (∀ c, Shop.current c rows = if c = key then 1 else Shop.current c s.address) ∧
      o.ext.text = orderId seq ∧ o.status = SqlServer.pending := by
  obtain ⟨data', client, address, hdata', hclient, hparams, haddress, hkey, hcontent, horder, hitems⟩ :=
    created_reads wl seq
  obtain rfl : data' = data := Except.ok.inj (hdata'.symm.trans hdata)
  have hid : sql.Keeps 100 _ := keeps_eventId wl seq .created
  obtain ⟨amount, hamount⟩ := hsql.amount
  obtain ⟨content, hstored⟩ := contentColumns_created sql seq
  obtain ⟨date, hdate⟩ := orderDate_created hsql hseq .created
  -- the client
  obtain ⟨key, clients, hmerge, hclientkey, hclients⟩ := h.client_effect hsql seq ledger
  -- its address
  obtain ⟨hown, hone⟩ := h.address_own hclientkey
  obtain ⟨version, rows, hupsert, hrows, hcurrent⟩ :=
    @Shop.upsertAddress_str sql { s with clients, ledger } key (addressId seq) content address
      (keeps_addressId seq) hkey (by rw [hcontent]; rfl) (by rw [hcontent]; exact hstored) hown
      hone
  -- the order with its item and its history
  have horderId : sql.Keeps 64 (orderId seq) := keeps_id hids hseq (by decide) (by decide)
  have hfresh : ∀ o ∈ s.orders, sql.same (orderId seq) o.ext.text = false := fun o ho =>
    Bool.eq_false_iff.mpr fun hsame => hnew (h.order_same hsql ho hsame).2
  have hbind : ∀ date : String, ((Json.num ⟨998, 1⟩) :: (if (Json.str date).truthy
      then some (Json.str date) else none).toList).all Json.bindable = true := fun date => by
    split_ifs <;> rfl
  obtain ⟨o, ho⟩ : ∃ o : OrderInfo, o = ⟨⟨orderId seq, horderId.2⟩, some key, some version,
    SqlServer.pending, amount, ⟨"BRL", by decide⟩, date, false⟩ := ⟨_, rfl⟩
  have hinsert := @Shop.insertOrder_str sql { s with clients, address := rows, ledger } key
    (orderId seq) version data' _ amount "BRL" date horder rfl horderId
    (SqlServer.numeric_num hamount) rfl (SqlServer.keeps_of_ascii (by decide) (by decide)) hdate
    (hbind _) hfresh
  rw [← ho] at hinsert
  obtain ⟨item, hitem⟩ := insertItems_widget hsql ⟨orderId seq, horderId.2⟩
    (keeps_sku seq) { s with clients, address := rows, ledger, orders := s.orders ++ [o] }
  have hhistory := @Shop.recordHistory_str sql { s with
    clients, address := rows, ledger, orders := s.orders ++ [o], items := s.items ++ [item] }
    ⟨orderId seq, horderId.2⟩ none "PENDING" (wl.eventId seq .created).text
    (SqlServer.keeps_of_ascii (by decide) (by decide)) hid
  refine ⟨key, clients, rows, o, item, ⟨some ⟨orderId seq, horderId.2⟩, none, ⟨"PENDING", by decide⟩,
    SqlServer.changedBy, some ⟨_, hid.2⟩⟩, ?_, hclientkey, hclients, hrows, hcurrent, by rw [ho],
    by rw [ho]⟩
  have hupsertClient : Shop.upsertClient sql client { s with ledger } =
      some (key, { s with clients, ledger }) := by
    simp only [Shop.upsertClient, hparams, Except.toOption, Option.bind_eq_bind, Option.bind_some]
    exact hmerge
  simp only [Shop.orderCreated, hclient, haddress, hitems, hupsertClient, hupsert, hinsert, hitem,
    Except.toOption, Option.bind_eq_bind, Option.bind_some, hhistory]

/-- A first `ORDER_CREATED` event is accepted. -/
theorem created (h : Stocked wl acc s) (hsql : sql.ReadsWorkload wl) (hids : wl.DistinctIds)
    (hseq : seq < wl.orders) (hnew : (seq, .created) ∉ acc) (hpending : (seq, .approved) ∉ acc) :
    ∃ s', Shop.event sql (wl.event seq .created) (.str (wl.eventId seq .created).text) s = some s' ∧
      Stocked wl (acc ++ [(seq, .created)]) s' := by
  have hid : sql.Keeps 100 _ := keeps_eventId wl seq .created
  obtain ⟨key, clients, rows, o, item, entry, heffect, hkey, hclients, hrows, hcurrent, hext,
    hstatus⟩ := h.created_effect hsql hids hseq hnew rfl (s.ledger ++ [⟨⟨_, hid.2⟩,
      ⟨"ORDER_CREATED", by decide⟩, false⟩])
  obtain ⟨ledger, hevent, hledger⟩ := @Shop.event_str sql s (wl.event seq .created) _ _ _ rfl rfl rfl
    hid (SqlServer.keeps_of_ascii (by decide) (by decide)) (h.fresh hsql hids hseq hnew) _ heffect
  have hmem : ∀ c, c ∈ clients.map (·.ext) ↔ c ∈ s.clients.map (·.ext) ∨ c = key := by
    intro c
    rcases hclients with ⟨heq, hin⟩ | ⟨heq, -⟩
    · rw [heq]
      exact ⟨.inl, fun hc => hc.elim id fun hc => hc ▸ hin⟩
    · rw [heq, List.mem_append, List.mem_singleton]
  refine ⟨_, hevent, ⟨?_, ?_, ?_, ?_, ?_, ?_, ?_, ?_, ?_, ?_⟩⟩
  · exact fun op hop => (List.mem_append.mp hop).elim (h.range op) fun hop =>
      List.mem_singleton.mp hop ▸ hseq
  · have htexts := congrArg (List.map Varchar.text) hledger
    simpa [Function.comp_def, h.ledger] using htexts
  · simp [seqs_append_self, h.orders, hext]
  · intro o' ho' seq' hseq'
    simp only [List.mem_append, List.mem_singleton, Prod.mk.injEq, reduceCtorEq, and_false, or_false]
    rcases List.mem_append.mp ho' with ho' | ho'
    · exact h.status o' ho' seq' hseq'
    · obtain rfl := List.mem_singleton.mp ho'
      obtain rfl : seq = seq' := orderId_inj (hext.symm.trans hseq')
      rw [if_neg hpending, hstatus]
      rfl
  · simp [seqs_append_self, h.items]
  · simp [seqs_append_self, seqs_append_of_ne, h.history]
    omega
  · simp [seqs_append_of_ne, h.payments]
  · intro t
    simp only [seqs_append_self, List.map_append, List.map_cons, List.map_nil, List.mem_append,
      List.mem_singleton]
    rw [← h.clients t]
    constructor
    · intro ht
      obtain ⟨c, hc, rfl⟩ := List.mem_map.mp ht
      rcases (hmem c.ext).mp (List.mem_map_of_mem hc) with hc | hc
      · obtain ⟨c', hc', heq⟩ := List.mem_map.mp hc
        exact .inl (heq ▸ List.mem_map_of_mem hc')
      · exact .inr (hc ▸ hkey)
    · intro ht
      have hex : ∃ c, c ∈ clients.map (·.ext) ∧ c.text = t := by
        rcases ht with ht | rfl
        · obtain ⟨c, hc, rfl⟩ := List.mem_map.mp ht
          exact ⟨c.ext, (hmem _).mpr (.inl (List.mem_map_of_mem hc)), rfl⟩
        · exact ⟨key, (hmem _).mpr (.inr rfl), hkey⟩
      obtain ⟨c, hc, rfl⟩ := hex
      obtain ⟨c', hc', rfl⟩ := List.mem_map.mp hc
      exact List.mem_map_of_mem hc'
  · intro a ha
    rcases hrows a ha with ⟨hclient, haddress⟩ | ⟨a', ha', hclient, haddress⟩
    · exact ⟨seq, key, hclient, (hmem key).mpr (.inr rfl), hkey, haddress⟩
    · obtain ⟨seq', c, hac, hc, htext, hkey'⟩ := h.address a' ha'
      exact ⟨seq', c, hclient ▸ hac, (hmem c).mpr (.inl hc), htext, haddress ▸ hkey'⟩
  · intro c hc
    simp only [hcurrent]
    split_ifs with heq
    · rfl
    · exact h.current c (((hmem c).mp hc).resolve_right heq)

/-- What the branch of a first approval does. -/
lemma approved_effect (h : Stocked wl acc s) (hsql : sql.ReadsWorkload wl)
    (hcreated : (seq, .created) ∈ acc) (hnew : (seq, .approved) ∉ acc) (ledger : List LedgerInfo) :
    ∃ closing entry, Shop.orderStatusChanged sql (.str (wl.eventId seq .approved).text)
        (.obj [("external_order_id", .str (orderId seq)), ("new_status", .str "APPROVED")])
        { s with ledger } =
      some { s with
        orders := s.orders.map fun o => if sql.same (orderId seq) o.ext.text then
          { o with status := ⟨"APPROVED", by decide⟩, closed := closing || o.closed } else o
        history := s.history ++ [entry]
        ledger } := by
  have hid : sql.Keeps 100 _ := keeps_eventId wl seq .approved
  obtain ⟨first, hfirst, hfirsttext⟩ := h.exists_order hcreated
  have hopen : ∀ o ∈ s.orders, sql.same (orderId seq) o.ext.text = true →
      Shop.isTerminal sql o = false := by
    intro o ho hsame
    have hstatus := h.status o ho seq (h.order_same hsql ho hsame).1
    rw [if_neg hnew] at hstatus
    rw [Shop.isTerminal, hstatus]
    exact hsql.statuses.pending
  obtain ⟨key, previous, closing, hupdate⟩ := @Shop.updateOrder_str sql { s with ledger }
    (orderId seq) "APPROVED" (SqlServer.keeps_of_ascii (by decide) (by decide)) (by decide) first
    hfirst hfirsttext hopen
  have hhistory := @Shop.recordHistory_str sql { s with
    ledger
    orders := s.orders.map fun o => if sql.same (orderId seq) o.ext.text then
      { o with status := ⟨"APPROVED", by decide⟩, closed := closing || o.closed } else o }
    key (some previous) "APPROVED" (wl.eventId seq .approved).text
    (SqlServer.keeps_of_ascii (by decide) (by decide)) hid
  refine ⟨closing, ⟨some key, some previous, ⟨"APPROVED", by decide⟩, SqlServer.changedBy,
    some ⟨_, hid.2⟩⟩, ?_⟩
  have hext : Json.getItem "external_order_id" (.obj [("external_order_id", .str (orderId seq)),
    ("new_status", .str "APPROVED")]) = .ok (.str (orderId seq)) := rfl
  have hnewStatus : Json.getItem "new_status" (.obj [("external_order_id", .str (orderId seq)),
    ("new_status", .str "APPROVED")]) = .ok (.str "APPROVED") := rfl
  simp only [Shop.orderStatusChanged, hext, hnewStatus, Except.toOption, Option.bind_eq_bind,
    Option.bind_some, hupdate]
  exact hhistory

/-- The approval of an order that has been created is accepted. -/
theorem approved (h : Stocked wl acc s) (hsql : sql.ReadsWorkload wl) (hids : wl.DistinctIds)
    (hcreated : (seq, .created) ∈ acc) (hnew : (seq, .approved) ∉ acc) :
    ∃ s', Shop.event sql (wl.event seq .approved) (.str (wl.eventId seq .approved).text) s =
        some s' ∧
      Stocked wl (acc ++ [(seq, .approved)]) s' := by
  have hseq : seq < wl.orders := h.range _ hcreated
  have hid : sql.Keeps 100 _ := keeps_eventId wl seq .approved
  obtain ⟨closing, entry, heffect⟩ := h.approved_effect hsql hcreated hnew (s.ledger ++
    [⟨⟨_, hid.2⟩, ⟨"ORDER_STATUS_CHANGED", by decide⟩, false⟩])
  obtain ⟨ledger, hevent, hledger⟩ := @Shop.event_str sql s (wl.event seq .approved) _ _ _ rfl rfl rfl
    hid (SqlServer.keeps_of_ascii (by decide) (by decide)) (h.fresh hsql hids hseq hnew) _ heffect
  refine ⟨_, hevent, ⟨?_, ?_, ?_, ?_, ?_, ?_, ?_, ?_, ?_, ?_⟩⟩
  · exact fun op hop => (List.mem_append.mp hop).elim (h.range op) fun hop =>
      List.mem_singleton.mp hop ▸ hseq
  · have htexts := congrArg (List.map Varchar.text) hledger
    simpa [Function.comp_def, h.ledger] using htexts
  · rw [seqs_append_of_ne (by decide), ← h.orders, List.map_map]
    refine List.map_congr_left fun o _ => ?_
    simp only [Function.comp_apply]
    split_ifs <;> rfl
  · intro o ho seq' hseq'
    obtain ⟨o', ho', rfl⟩ := List.mem_map.mp ho
    simp only [List.mem_append, List.mem_singleton, Prod.mk.injEq, and_true]
    by_cases hsame : sql.same (orderId seq) o'.ext.text = true
    · simp only [hsame, if_true] at hseq' ⊢
      obtain rfl : seq = seq' := orderId_inj ((h.order_same hsql ho' hsame).1.symm.trans hseq')
      simp
    · simp only [hsame] at hseq' ⊢
      have hne : seq' ≠ seq := by
        rintro rfl
        exact hsame (hseq' ▸ sql.same_refl _)
      simpa [hne] using h.status o' ho' seq' hseq'
  · simp [seqs_append_of_ne, h.items]
  · simp [seqs_append_self, seqs_append_of_ne, h.history]
    omega
  · simp [seqs_append_of_ne, h.payments]
  · simpa [seqs_append_of_ne] using h.clients
  · exact h.address
  · exact h.current

/-- What the branch of a first payment does. -/
lemma paid_effect (h : Stocked wl acc s) (hsql : sql.ReadsWorkload wl) (hids : wl.DistinctIds)
    (hcreated : (seq, .created) ∈ acc) (hnew : (seq, .paid) ∉ acc) {data : Json}
    (hdata : (wl.event seq .paid).getItem "data" = .ok data) (ledger : List LedgerInfo) :
    ∃ q, Shop.paymentConfirmed sql data { s with ledger } =
        some { s with payments := s.payments ++ [q], ledger } ∧ q.ext.text = paymentId seq := by
  have hseq : seq < wl.orders := h.range _ hcreated
  obtain ⟨first, hfirst, hfirsttext⟩ := h.exists_order hcreated
  obtain ⟨amount, hamount⟩ := hsql.amount
  obtain ⟨date, hdate⟩ := hsql.dates seq .paid hseq
  have hfresh : ∀ q ∈ s.payments, sql.same (paymentId seq) q.ext.text = false := by
    intro q hq
    have hmem : q.ext.text ∈ (seqs .paid acc).map paymentId := h.payments ▸ List.mem_map_of_mem hq
    obtain ⟨seq', hseq', htext⟩ := List.mem_map.mp hmem
    refine Bool.eq_false_iff.mpr fun hsame => hnew ?_
    have heq := hsql.upper _ _ (spelled_paymentId seq) (htext ▸ spelled_paymentId seq') hsame
    rw [paymentId_inj (heq.trans htext.symm)]
    exact mem_seqs.mp hseq'
  obtain ⟨key, hresolve⟩ := @Shop.resolveOrder_str sql { s with ledger } (orderId seq) first hfirst
    hfirsttext
  obtain ⟨data', hdata', hext, hparams⟩ : ∃ data, (wl.event seq .paid).getItem "data" = .ok data ∧
      data.getItem "external_order_id" = .ok (.str (orderId seq)) ∧
      paymentParams data = .ok ⟨.str (paymentId seq), .str "PIX", .str "CONFIRMED", .num ⟨998, 1⟩,
        .str (wl.date seq .paid)⟩ := ⟨_, rfl, rfl, rfl⟩
  obtain rfl : data' = data := Except.ok.inj (hdata'.symm.trans hdata)
  have hpaymentId : sql.Keeps 64 (paymentId seq) := keeps_id hids hseq (by decide) (by decide)
  have hupsert := @Shop.upsertPayment_str sql { s with ledger } (paymentId seq) key data' _ "PIX"
    "CONFIRMED" amount (some date) hparams rfl hpaymentId rfl
    (SqlServer.keeps_of_ascii (by decide) (by decide)) rfl
    (SqlServer.keeps_of_ascii (by decide) (by decide)) (by decide)
    (SqlServer.numeric_num hamount) (SqlServer.convert_str hdate) rfl hfresh
  refine ⟨⟨⟨paymentId seq, hpaymentId.2⟩, some key, ⟨"PIX", by decide⟩, ⟨"CONFIRMED", by decide⟩,
    amount, some date⟩, ?_, rfl⟩
  simp only [Shop.paymentConfirmed, hext, Except.toOption, Option.bind_eq_bind, Option.bind_some,
    hresolve]
  exact hupsert

/-- The payment of an order that has been created is accepted. -/
theorem paid (h : Stocked wl acc s) (hsql : sql.ReadsWorkload wl) (hids : wl.DistinctIds)
    (hcreated : (seq, .created) ∈ acc) (hnew : (seq, .paid) ∉ acc) :
    ∃ s', Shop.event sql (wl.event seq .paid) (.str (wl.eventId seq .paid).text) s = some s' ∧
      Stocked wl (acc ++ [(seq, .paid)]) s' := by
  have hseq : seq < wl.orders := h.range _ hcreated
  have hid : sql.Keeps 100 _ := keeps_eventId wl seq .paid
  obtain ⟨q, heffect, hext⟩ := h.paid_effect hsql hids hcreated hnew rfl (s.ledger ++
    [⟨⟨_, hid.2⟩, ⟨"PAYMENT_CONFIRMED", by decide⟩, false⟩])
  obtain ⟨ledger, hevent, hledger⟩ := @Shop.event_str sql s (wl.event seq .paid) _ _ _ rfl rfl rfl
    hid (SqlServer.keeps_of_ascii (by decide) (by decide)) (h.fresh hsql hids hseq hnew) _ heffect
  refine ⟨_, hevent, ⟨?_, ?_, ?_, ?_, ?_, ?_, ?_, ?_, ?_, ?_⟩⟩
  · exact fun op hop => (List.mem_append.mp hop).elim (h.range op) fun hop =>
      List.mem_singleton.mp hop ▸ hseq
  · have htexts := congrArg (List.map Varchar.text) hledger
    simpa [Function.comp_def, h.ledger] using htexts
  · simp [seqs_append_of_ne, h.orders]
  · intro o ho seq' hseq'
    simpa using h.status o ho seq' hseq'
  · simp [seqs_append_of_ne, h.items]
  · simp [seqs_append_of_ne, h.history]
  · simp [seqs_append_self, h.payments, hext]
  · simpa [seqs_append_of_ne] using h.clients
  · exact h.address
  · exact h.current

end Stocked

end Workload

end EventPipeline

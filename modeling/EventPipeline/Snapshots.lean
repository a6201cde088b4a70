import EventPipeline.Items
import EventPipeline.Terminal
import EventPipeline.Versions
import EventPipeline.View

/-!
# The picture of an order

An order refers to the version of its client's address that was current when it was created.
Versions are kept, and items are only inserted with their order, so `fetch_order_snapshot` returns
the address and the items of the `ORDER_CREATED` payload, as their columns store them, whatever
happens afterwards (`order_picture`).
-/

namespace EventPipeline

open Transaction Prog

variable {sql : SqlServer} {db db' db'' : Database} {event eventId data : Json}
  {outbox : Option Outbox}

/-! ### What later transactions keep -/

/-- The orders, their addresses and their items, as a later state has them. -/
structure Keeps (db db' : Database) : Prop where
  orders : Grows (fun o o' => o'.orderId = o.orderId ∧ o'.clientId = o.clientId ∧
    o'.addressId = o.addressId) db.orders db'.orders
  address : Grows Address.Kept db.address db'.address
  items : ∀ o ∈ db.orders,
    SqlServer.selectItems db' o.orderId = SqlServer.selectItems db o.orderId

namespace Keeps

lemma refl (db : Database) : Keeps db db where
  orders := .refl (fun _ => ⟨rfl, rfl, rfl⟩) _
  address := .refl (fun _ => .inl rfl) _
  items _ _ := rfl

lemma trans (h : Keeps db db') (h' : Keeps db' db'') : Keeps db db'' where
  orders := h.orders.trans (fun _ _ _ ⟨h₁, h₂, h₃⟩ ⟨h₁', h₂', h₃'⟩ =>
    ⟨h₁'.trans h₁, h₂'.trans h₂, h₃'.trans h₃⟩) h'.orders
  address := h.address.trans (fun _ _ _ => Address.Kept.trans) h'.address
  items := by
    intro o ho
    obtain ⟨o', ho', hid, -, -⟩ := h.orders.exists_of_mem ho
    have hitems := h'.items o' ho'
    rw [hid] at hitems
    exact hitems.trans (h.items o ho)

end Keeps

/-- The event of an order that is created leaves its items to the consumer. -/
lemma PlainEvent.payloadItems {items : Json} (h : PlainEvent event)
    (htype : event.getItem "event_type" = .ok (.str "ORDER_CREATED"))
    (hdata : event.getItem "data" = .ok data) (hitems : data.get "items" (.arr []) = .ok items) :
    ∀ item ∈ EventPipeline.payloadItems items, item.lookup "order_id" = none := by
  intro item hitem
  unfold EventPipeline.payloadItems at hitem
  split_ifs at hitem
  · cases hmappings : itemMappings items with
    | error e => simp [hmappings, Except.toOption] at hitem
    | ok mappings =>
      rw [hmappings] at hitem
      exact h htype data items hdata hitems mappings hmappings item hitem
  · cases hitem

/-- An event adds an order, or it leaves the orders' references and the items as they are. -/
lemma orders_of_runs (h : Runs sql.engine (eventTxn event eventId) db outbox db') :
    (∃ data items, event.getItem "event_type" = .ok (.str "ORDER_CREATED") ∧
      event.getItem "data" = .ok data ∧ data.get "items" (.arr []) = .ok items) ∨
      (∃ f : Order → Order, db'.orders = db.orders.map f ∧ ∀ o, (f o).orderId = o.orderId ∧
        (f o).clientId = o.clientId ∧ (f o).addressId = o.addressId) ∧
      db'.orderItems = db.orderItems := by
  have hself : ∃ f : Order → Order, db.orders = db.orders.map f ∧
      ∀ o, (f o).orderId = o.orderId ∧ (f o).clientId = o.clientId ∧
        (f o).addressId = o.addressId := ⟨id, by simp, fun _ => ⟨rfl, rfl, rfl⟩⟩
  obtain ⟨_, eventType, data, row, db₁, now, hcom, rfl⟩ := committed_of_runs h
  cases hcom.processed with
  | created type_eq _ _ items_eq =>
    exact .inl ⟨data, _, type_eq ▸ hcom.eventType_eq, hcom.data_eq, items_eq⟩
  | statusChanged =>
    refine .inr ⟨⟨_, rfl, fun o => ?_⟩, rfl⟩
    split_ifs <;> exact ⟨rfl, rfl, rfl⟩
  | paid _ _ _ _ hpayment =>
    refine .inr ⟨?_, congrArg (·.orderItems) hpayment.frame⟩
    obtain ⟨f, hf, hids⟩ := hself
    exact ⟨f, (congrArg (·.orders) hpayment.frame).trans hf, hids⟩
  | invoiced _ _ _ _ hinvoice =>
    refine .inr ⟨?_, congrArg (·.orderItems) hinvoice.frame⟩
    obtain ⟨f, hf, hids⟩ := hself
    exact ⟨f, (congrArg (·.orders) hinvoice.frame).trans hf, hids⟩
  | unknownOrder => exact .inr ⟨hself, rfl⟩
  | unknownType => exact .inr ⟨hself, rfl⟩

lemma selectItems_eq (orderId : ℕ) : SqlServer.selectItems db orderId =
    (db.orderItems.filter fun i => i.orderId = orderId).map OrderItem.content := rfl

lemma Keeps.of_runs (hc : Consistent sql db) (hplain : PlainEvent event)
    (h : Runs sql.engine (eventTxn event eventId) db outbox db') : Keeps db db' := by
  rcases orders_of_runs h with ⟨data, items, htype, hdata, hitems⟩ | ⟨⟨f, horders, hids⟩, hitems⟩
  · obtain ⟨order, rows, horders, hfresh, hrows, hforall⟩ := created_items hc htype hdata hitems h
    refine ⟨?_, grows_of_runs hc h, fun o ho => ?_⟩
    · rw [horders]
      exact .append (fun _ => ⟨rfl, rfl, rfl⟩) _ _
    · have hnone : (rows.filter fun i => i.orderId = o.orderId) = [] := by
        refine List.filter_eq_nil_iff.mpr fun row hrow => ?_
        obtain ⟨item, hitem, hpair⟩ := exists_of_mem_right hforall hrow
        have hown := hpair.2.2.mpr fun v n hv => by
          rw [hplain.payloadItems htype hdata hitems item hitem] at hv
          cases hv
        rw [hown]
        simpa using (hfresh o ho).symm
      rw [selectItems_eq, hrows, List.filter_append, hnone, List.append_nil]
      rfl
  · refine ⟨?_, grows_of_runs hc h, fun o ho => ?_⟩
    · rw [horders]
      exact .map_self fun o _ => hids o
    · rw [selectItems_eq, hitems]
      rfl

/-! ### The order that is created -/

/-- The version an order is sent to is current, belongs to the client and says what the payload
says. -/
lemma AddressUpserted.current {clientId id : ℕ} {ext : Json} {content : AddressField → Json}
    (hcontent : ∀ f, (content f).TextOrNull) (hkept : KeptContent sql content)
    (h : AddressUpserted sql clientId ext content db id db') :
    ∃ a ∈ db'.address, a.addressId = id ∧ a.clientId = clientId ∧ a.isCurrent = true ∧
      ∀ f, (a.content f).getD "" = (content f).textD := by
  cases h with
  | @reused current selected same =>
    obtain ⟨hmem, hclient, -, hcur⟩ := VersionsInv.mem_currentAddresses.mp
      (List.mem_of_mem_head? selected)
    refine ⟨current, hmem, rfl, hclient, hcur, fun f => ?_⟩
    exact (sameField_iff (hcontent f) _).mp (List.all_eq_true.mp same f (AddressField.mem_fields f))
  | @inserted row selected hrow =>
    exact ⟨row, List.mem_append_right _ (List.mem_singleton_self _), rfl, hrow.clientId_eq,
      hrow.isCurrent, fun f => textD_of_contentColumn (hcontent f) (hkept f) (hrow.content f)⟩
  | @replaced current row now selected changed hrow =>
    exact ⟨row, List.mem_append_right _ (List.mem_singleton_self _), rfl, hrow.clientId_eq,
      hrow.isCurrent, fun f => textD_of_contentColumn (hcontent f) (hkept f) (hrow.content f)⟩

/-- What the transaction of an `ORDER_CREATED` event leaves of order and address. -/
lemma creation_of_runs (htext : TextAddress event) (hkept : KeptAddress sql event)
    (htype : event.getItem "event_type" = .ok (.str "ORDER_CREATED"))
    (hdata : event.getItem "data" = .ok data)
    (h : Runs sql.engine (eventTxn event eventId) db outbox db') :
    ∃ address items order, data.getItem "address" = .ok address ∧
      data.get "items" (.arr []) = .ok items ∧ db'.orders = db.orders ++ [order] ∧
      ∃ a ∈ db'.address, a.addressId = order.addressId ∧ a.clientId = order.clientId ∧
        a.isCurrent = true ∧ ∀ f, (a.content f).getD "" = (addressContent address f).textD := by
  obtain ⟨id, eventType, data', row, db₁, now, hcom, rfl⟩ := committed_of_runs h
  obtain rfl : eventType = .str "ORDER_CREATED" := Except.ok.inj (hcom.eventType_eq.symm.trans htype)
  obtain rfl : data' = data := Except.ok.inj (hcom.data_eq.symm.trans hdata)
  cases hcom.processed with
  | @created _ address _ items _ _ _ _ order _ _ _ _ _ _ haddress_eq hitems_eq _ hclient _ haddress _
      horder hitems _ =>
    have hframe := created_frame hclient haddress hitems
    obtain ⟨a, ha, hid, hclient', hcur, hcontent⟩ :=
      haddress.current (htext htype _ _ hdata haddress_eq).2 (hkept htype _ _ hdata haddress_eq)
    refine ⟨address, items, order, haddress_eq, hitems_eq, congrArg (·.orders) hframe, a, ?_, ?_, ?_,
      hcur, hcontent⟩
    · exact (congrArg (·.address) hframe) ▸ ha
    · rw [hid, horder.addressId_eq]
    · rw [hclient', horder.clientId_eq]
  | statusChanged htype' => simp at htype'
  | paid htype' => simp at htype'
  | invoiced htype' => simp at htype'
  | unknownOrder _ _ hne => exact absurd rfl hne
  | unknownType hne => exact absurd rfl hne

/-- The events the picture is about: address fields are strings or null, which are stored as given,
and items have no key `order_id`. -/
structure PlainCreation (sql : SqlServer) (_ : Database) (call : Call) : Prop where
  text : TextAddress call.event
  kept : KeptAddress sql call.event
  plain : PlainEvent call.event

/-- The step from `f₀` to `f₁` commits the `ORDER_CREATED` event with the payload `data`, and
creates the order `orderId`. -/
structure Creation (ext : Externals) (orderId : ℕ) (data : Json) (f₀ f₁ : Fleet) : Prop where
  reachable : Fleet.Reachable ext (PlainCreation ext.sql) f₀
  step : Fleet.Step ext (PlainCreation ext.sql) f₀ f₁
  committed : ∃ call ∈ f₀.calls, PlainCreation ext.sql f₀.world.db call ∧
    call.event.getItem "event_type" = .ok (.str "ORDER_CREATED") ∧
    call.event.getItem "data" = .ok data ∧ ∃ outbox,
      Runs ext.sql.engine (eventTxn call.event call.eventId) f₀.world.db outbox f₁.world.db
  absent : ∀ o ∈ f₀.world.db.orders, o.orderId ≠ orderId
  present : ∃ o ∈ f₁.world.db.orders, o.orderId = orderId

/-- The address and the items are those of the payload. -/
structure Shows (sql : SqlServer) (data : Json) (address : AddressField → Option String)
    (items : List SnapshotItem) : Prop where
  address : ∃ payload, data.getItem "address" = .ok payload ∧
    ∀ f, (address f).getD "" = (addressContent payload f).textD
  items : ∃ payload contents, data.get "items" (.arr []) = .ok payload ∧
    List.Forall₂ (fun item content => itemContent sql item = .ok content)
      (payloadItems payload) contents ∧ items.Perm contents

/-- What `fetch_order_snapshot` returns of an order that was created in `db₁`: one row, with the
address and the items of the payload. -/
structure Pictured (sql : SqlServer) (data : Json) (db₁ db : Database) (o : Order) : Prop where
  fetched : ∃ row items, SqlServer.selectSnapshot db o.orderId = [row] ∧
    (∀ (tick : ℕ → Tick) n, (fetchOrderSnapshot o.orderId).run sql.engine (fun i => .ok (tick i)) n
      db = .ok (⟨row, items⟩, n + 2, db)) ∧ Shows sql data row.address items
  owner : ∃ a ∈ db.address, a.addressId = o.addressId ∧ a.clientId = o.clientId
  current : ∃ a ∈ db₁.address, a.addressId = o.addressId ∧ a.clientId = o.clientId ∧
    a.isCurrent = true

/-- The join selects one row of an order. -/
lemma Consistent.selectSnapshot_row (hc : Consistent sql db) {o : Order} (ho : o ∈ db.orders)
    {c : Client} (hmem : c ∈ db.clients) (hclient : c.clientId = o.clientId) {a : Address}
    (ha : a ∈ db.address) (haddress : a.addressId = o.addressId) :
    SqlServer.selectSnapshot db o.orderId = [SqlServer.snapshotOrder o c a] := by
  simp only [SqlServer.selectSnapshot, hc.orderIds.filter_key_eq ho, List.flatMap_singleton,
    ← hclient, hc.clientIds.filter_key_eq hmem, ← haddress, hc.addressIds.filter_key_eq ha,
    List.map_singleton]

lemma Consistent.selectSnapshot_eq (hc : Consistent sql db) {o : Order} (ho : o ∈ db.orders)
    {a : Address} (ha : a ∈ db.address) (haddress : a.addressId = o.addressId) :
    ∃ row, SqlServer.selectSnapshot db o.orderId = [row] ∧ row.address = a.content := by
  obtain ⟨c, hmem, hclient⟩ := hc.orderClient o ho
  exact ⟨_, hc.selectSnapshot_row ho hmem hclient ha haddress, rfl⟩

lemma run_fetchOrderSnapshot {orderId : ℕ} {row : SnapshotOrder} {rest : List SnapshotOrder}
    (h : SqlServer.selectSnapshot db orderId = row :: rest) (tick : ℕ → Tick) (n : ℕ) :
    (fetchOrderSnapshot orderId).run sql.engine (fun i => .ok (tick i)) n db =
      .ok (⟨row, SqlServer.selectItems db orderId⟩, n + 2, db) := by
  have hselect : ∀ t : Tick, sql.engine.exec t (.selectSnapshot orderId) db =
      .ok (row :: rest, []) := fun t => by rw [← h]; rfl
  unfold fetchOrderSnapshot execute
  simp only [Program.run_bind, Program.statement, Program.run, Engine.answer, hselect]
  rfl

/-! ### Runs -/

lemma Keeps.of_steps {ext : Externals} {f f' : Fleet}
    (h : Fleet.Reachable ext (PlainCreation ext.sql) f)
    (hs : Relation.ReflTransGen (Fleet.Step ext (PlainCreation ext.sql)) f f') :
    Keeps f.world.db f'.world.db :=
  (Fleet.db_preserved (I := fun db => Consistent ext.sql db ∧ Keeps f.world.db db)
    (fun _ _ _ _ hplain hdb hrun =>
      ⟨hdb.1.step hrun, hdb.2.trans (Keeps.of_runs hdb.1 hplain.plain hrun)⟩) hs
    ⟨h.consistent, .refl _⟩).2

/-- Every order was created by a step of the run. -/
lemma exists_creation {ext : Externals} {f : Fleet}
    (h : Fleet.Reachable ext (PlainCreation ext.sql) f) :
    ∀ o ∈ f.world.db.orders, ∃ f₀ f₁ data, Creation ext o.orderId data f₀ f₁ ∧
      Relation.ReflTransGen (Fleet.Step ext (PlainCreation ext.sql)) f₁ f := by
  induction h with
  | start => simp [World.start, Database.empty]
  | @step f f' h hs ih =>
    intro o ho
    have hold : ∀ o' ∈ f.world.db.orders, o'.orderId = o.orderId → ∃ f₀ f₁ data,
        Creation ext o.orderId data f₀ f₁ ∧
          Relation.ReflTransGen (Fleet.Step ext (PlainCreation ext.sql)) f₁ f' := by
      intro o' ho' hid
      obtain ⟨f₀, f₁, data, hcreation, hpath⟩ := ih o' ho'
      exact ⟨f₀, f₁, data, hid ▸ hcreation, hpath.tail hs⟩
    rcases hs.db_cases with heq | ⟨call, hcall, hplain, outbox, hrun⟩
    · exact hold o (heq ▸ ho) rfl
    rcases orders_of_runs hrun with ⟨data, items, htype, hdata, hitems⟩ | ⟨⟨g, horders, hids⟩, -⟩
    · obtain ⟨order, rows, horders, hfresh, -⟩ :=
        created_items h.consistent htype hdata hitems hrun
      have hmem := ho
      rw [horders] at hmem
      rcases List.mem_append.mp hmem with hmem | hmem
      · exact hold o hmem rfl
      · obtain rfl := List.mem_singleton.mp hmem
        exact ⟨f, f', data, ⟨h, hs, ⟨call, hcall, hplain, htype, hdata, outbox, hrun⟩, hfresh, o,
          ho, rfl⟩, .refl⟩
    · rw [horders] at ho
      obtain ⟨o', ho', rfl⟩ := List.mem_map.mp ho
      exact hold o' ho' (hids o').1.symm

/-- The picture of an order, at any time after its creation. -/
lemma Creation.pictured {ext : Externals} {data : Json} {f₀ f₁ f : Fleet} {o : Order}
    (h : Creation ext o.orderId data f₀ f₁)
    (hs : Relation.ReflTransGen (Fleet.Step ext (PlainCreation ext.sql)) f₁ f)
    (ho : o ∈ f.world.db.orders) :
    Pictured ext.sql data f₁.world.db f.world.db o := by
  have h₁ := h.reachable.step h.step
  have hc := (h₁.trans hs).consistent
  have hkeeps := Keeps.of_steps h₁ hs
  obtain ⟨call, -, hplain, htype, hdata, outbox, hrun⟩ := h.committed
  obtain ⟨address, payload, order, haddress, hitems, horders, a, ha, hid, hclient, hcur, hcontent⟩ :=
    creation_of_runs hplain.text hplain.kept htype hdata hrun
  obtain ⟨order', horders', -, ⟨contents, hcontents, hperm⟩, -⟩ :=
    ownItems_of_runs h.reachable.consistent htype hdata hitems hrun fun item hitem v n hv => by
      rw [hplain.plain.payloadItems htype hdata hitems item hitem] at hv
      cases hv
  obtain ⟨o₁, ho₁, hid₁⟩ := h.present
  have hnew : ∀ o' ∈ f₀.world.db.orders, o'.orderId ≠ o₁.orderId := hid₁ ▸ h.absent
  obtain rfl := eq_of_new horders ho₁ hnew
  obtain rfl := eq_of_new horders' ho₁ hnew
  -- the order and its address as they are now
  obtain ⟨o', ho', hid', hclient', haddress'⟩ := hkeeps.orders.exists_of_mem ho₁
  obtain rfl := hc.orderIds.eq_of_key_eq ho' ho (hid'.trans hid₁)
  obtain ⟨a', ha', hkept⟩ := hkeeps.address.exists_of_mem ha
  obtain ⟨haid, haclient, hacontent⟩ : a'.addressId = a.addressId ∧ a'.clientId = a.clientId ∧
      a'.content = a.content := by
    rcases hkept with rfl | ⟨-, now, rfl⟩ <;> exact ⟨rfl, rfl, rfl⟩
  obtain ⟨row, hrow, hrowaddress⟩ := hc.selectSnapshot_eq ho ha'
    (haid.trans (hid.trans haddress'.symm))
  refine ⟨⟨row, _, hrow, fun tick n => run_fetchOrderSnapshot hrow tick n,
    ⟨address, haddress, fun f => ?_⟩, payload, contents, hitems, hcontents, ?_⟩,
    ⟨a', ha', haid.trans (hid.trans haddress'.symm), haclient.trans (hclient.trans hclient'.symm)⟩,
    ⟨a, ha, hid.trans haddress'.symm, hclient.trans hclient'.symm, hcur⟩⟩
  · rw [hrowaddress, hacontent]
    exact hcontent f
  · rw [hid', hkeeps.items o₁ ho₁, selectItems_eq]
    exact hperm

/-! ### Publications -/

/-- What a transaction hands to the consumer to publish is what the tables then say. -/
lemma published_of_runs {ob : Outbox} (h : Runs sql.engine (eventTxn event eventId) db (some ob) db') :
    ob.eventType = "ORDER_APPROVED" ∧
      (SqlServer.selectSnapshot db' ob.order.order.orderId).head? = some ob.order.order ∧
      ob.order.items = SqlServer.selectItems db' ob.order.order.orderId ∧
      ob.order.order.status.text = "APPROVED" := by
  obtain ⟨_, eventType, data, row, db₁, now, hcom, rfl⟩ := committed_of_runs h
  cases hcom.processed with
  | @statusChanged ext newStatus o status closing now' history _ _ _ _ named hupdate _ houtbox =>
    split_ifs at houtbox with happroved
    obtain ⟨snapshot, hob, hselect, hitems⟩ := houtbox
    cases hob
    have hid := selectSnapshot_orderId hselect
    refine ⟨rfl, hid ▸ hselect, hid ▸ hitems, ?_⟩
    have hstatus : status.text = "APPROVED" := by
      have htext := hupdate.status_eq
      rw [Json.isText_iff.mp happroved] at htext
      exact SqlServer.text_of_ascii htext (by decide) (by decide)
    have hmem := List.mem_of_mem_head? hselect
    simp only [SqlServer.selectSnapshot, List.mem_flatMap, List.mem_map, List.mem_filter] at hmem
    obtain ⟨o', ⟨ho', hid'⟩, c, -, a, -, heq⟩ := hmem
    obtain ⟨o₀, ho₀, ⟨-, rfl⟩ | ⟨hnot, rfl⟩⟩ := mem_updateByIds.mp ho'
    · rw [← heq]
      exact hstatus
    · refine absurd ?_ hnot
      rw [of_decide_eq_true hid']
      exact List.mem_map_of_mem (List.mem_of_mem_head? named)

/-- A message on `order-approved` carries the address and the items the tables have for its
order. -/
structure Announces (ext : Externals) (db : Database) (m : Send) (snapshot : Snapshot) (o : Order) :
    Prop where
  value : ext.dumps snapshot = .ok m.value
  key : m.key = toString o.orderId
  approved : snapshot.order.status.text = "APPROVED"
  orderId : snapshot.order.orderId = o.orderId
  row : ∃ row, SqlServer.selectSnapshot db o.orderId = [row] ∧ snapshot.order.address = row.address
  items : snapshot.items = SqlServer.selectItems db o.orderId

lemma Announces.later {ext : Externals} {m : Send} {snapshot : Snapshot} {o : Order}
    (h : Announces ext db m snapshot o) (ho : o ∈ db.orders) (hc : Consistent sql db)
    (hc' : Consistent sql db') (hkeeps : Keeps db db') :
    ∃ o' ∈ db'.orders, Announces ext db' m snapshot o' := by
  obtain ⟨o', ho', hid, -, haddress⟩ := hkeeps.orders.exists_of_mem ho
  obtain ⟨a, ha, haid⟩ := hc.orderAddress o ho
  obtain ⟨a', ha', hkept⟩ := hkeeps.address.exists_of_mem ha
  obtain ⟨haid', hacontent⟩ : a'.addressId = a.addressId ∧ a'.content = a.content := by
    rcases hkept with rfl | ⟨-, now, rfl⟩ <;> exact ⟨rfl, rfl⟩
  obtain ⟨row, hrow, hsame⟩ := h.row
  obtain ⟨row₁, hrow₁, hcontent₁⟩ := hc.selectSnapshot_eq ho ha haid
  obtain ⟨row₂, hrow₂, hcontent₂⟩ :=
    hc'.selectSnapshot_eq ho' ha' (haid'.trans (haid.trans haddress.symm))
  obtain rfl : row₁ = row := List.singleton_inj.mp (hrow₁.symm.trans hrow)
  refine ⟨o', ho', h.value, by rw [hid]; exact h.key, h.approved, h.orderId.trans hid.symm,
    ⟨row₂, hrow₂, ?_⟩, ?_⟩
  · rw [hsame, hcontent₁, hcontent₂, hacontent]
  · rw [hid, hkeeps.items o ho]
    exact h.items

lemma announces_of_runs {ext : Externals} {ob : Outbox} {value : ByteArray} {accepted : Bool}
    (hc : Consistent sql db')
    (h : Runs sql.engine (eventTxn event eventId) db (some ob) db')
    (hvalue : ext.dumps ob.order = .ok value) :
    ∃ o ∈ db'.orders,
      Announces ext db' ⟨toString ob.order.order.orderId, value, accepted⟩ ob.order o := by
  obtain ⟨-, hselect, hitems, hstatus⟩ := published_of_runs h
  have hmem := List.mem_of_mem_head? hselect
  simp only [SqlServer.selectSnapshot, List.mem_flatMap, List.mem_map, List.mem_filter] at hmem
  obtain ⟨o, ⟨ho, hid⟩, -⟩ := hmem
  have hid : o.orderId = ob.order.order.orderId := of_decide_eq_true hid
  obtain ⟨a, ha, haid⟩ := hc.orderAddress o ho
  obtain ⟨row, hrow, -⟩ := hc.selectSnapshot_eq ho ha haid
  refine ⟨o, ho, hvalue, congrArg toString hid.symm, hstatus, hid.symm, ⟨row, hrow, ?_⟩, ?_⟩
  · rw [← hid, hrow] at hselect
    cases hselect
    rfl
  · rw [hid]
    exact hitems

lemma Fleet.Reachable.announces {ext : Externals} {f : Fleet}
    (h : Fleet.Reachable ext (PlainCreation ext.sql) f) :
    ∀ m ∈ f.world.sent, ∃ snapshot, ∃ o ∈ f.world.db.orders,
      Announces ext f.world.db m snapshot o := by
  induction h with
  | start => simp [World.start]
  | @step f f' h hs ih =>
    have hc' := (h.step hs).consistent
    have hold : ∀ m ∈ f.world.sent, ∃ snapshot, ∃ o ∈ f'.world.db.orders,
        Announces ext f'.world.db m snapshot o := by
      intro m hm
      obtain ⟨snapshot, o, ho, hannounces⟩ := ih m hm
      exact ⟨snapshot, hannounces.later ho h.consistent hc' (Keeps.of_steps h (.single hs))⟩
    intro m hm
    rcases hs.sent_cases with heq | ⟨call, -, -, ob, value, accepted, hrun, hvalue, heq⟩
    · exact hold m (heq ▸ hm)
    · rw [heq] at hm
      rcases List.mem_append.mp hm with hm | hm
      · exact hold m hm
      · rw [List.mem_singleton.mp hm]
        exact ⟨ob.order, announces_of_runs hc' hrun hvalue⟩

/-- Every order was created by a step of the run. Whatever happened since, its snapshot is one row,
with an address of its own client that was current at the creation, and shows the address and the
items of the payload; so does everything that was published for it, with status `APPROVED`. -/
theorem order_picture (ext : Externals) {f : Fleet}
    (h : Fleet.Reachable ext (PlainCreation ext.sql) f) :
    (∀ o ∈ f.world.db.orders,
      (∃ f₀ f₁ data, Creation ext o.orderId data f₀ f₁ ∧
        Relation.ReflTransGen (Fleet.Step ext (PlainCreation ext.sql)) f₁ f) ∧
      ∀ f₀ f₁ data, Creation ext o.orderId data f₀ f₁ →
        Relation.ReflTransGen (Fleet.Step ext (PlainCreation ext.sql)) f₁ f →
        Pictured ext.sql data f₁.world.db f.world.db o ∧
        ∀ m ∈ f.world.sent, m.key = toString o.orderId → ∃ snapshot,
          ext.dumps snapshot = .ok m.value ∧ snapshot.order.orderId = o.orderId ∧
          snapshot.order.status.text = "APPROVED" ∧
          Shows ext.sql data snapshot.order.address snapshot.items) ∧
    ∀ m ∈ f.world.sent, ∃ o ∈ f.world.db.orders, m.key = toString o.orderId := by
  have hsent := h.announces
  refine ⟨fun o ho => ⟨exists_creation h o ho, fun f₀ f₁ data hcreation hs => ?_⟩, fun m hm => ?_⟩
  · have hpicture := hcreation.pictured hs ho
    refine ⟨hpicture, fun m hm hkey => ?_⟩
    obtain ⟨snapshot, o', ho', hannounces⟩ := hsent m hm
    obtain rfl := h.consistent.orderIds.eq_of_key_eq ho' ho
      (toString_inj (hannounces.key.symm.trans hkey))
    obtain ⟨row, items, hrow, hrun, hshows⟩ := hpicture.fetched
    obtain ⟨row', hrow', haddress⟩ := hannounces.row
    obtain rfl : row' = row := List.singleton_inj.mp (hrow'.symm.trans hrow)
    obtain rfl : items = SqlServer.selectItems f.world.db o'.orderId := by
      have hboth := (hrun (fun _ => ⟨0, 0⟩) 0).symm.trans
        (run_fetchOrderSnapshot hrow (fun _ => ⟨0, 0⟩) 0)
      cases hboth
      rfl
    refine ⟨snapshot, hannounces.value, hannounces.orderId, hannounces.approved, ?_⟩
    rw [haddress, hannounces.items]
    exact hshows
  · obtain ⟨snapshot, o, ho, hannounces⟩ := hsent m hm
    exact ⟨o, ho, hannounces.key⟩

/-! ### An order whose client moved -/

/-- An order with an item, an order of the same client with another address, and the approval of the
first one. -/
def movedClient : List (Json × Json) :=
  [(orderWithItems "e1" "o1" "c1" "a1" (.str "Rua A") [itemOf "s1" 2 []], .str "e1"),
    (orderWithItems "e2" "o2" "c1" "a1" (.str "Rua B") [], .str "e2"),
    (statusChangedEvent "e3" (.str "o1") "APPROVED", .str "e3")]

lemma textAddress_orderWithItems (eventId order client address street : String)
    (items : List Json) :
    TextAddress (orderWithItems eventId order client address (.str street) items) :=
  textAddress_sampleAddress rfl rfl

lemma keptAddress_orderWithItems {eventId order client address street : String} {items : List Json}
    (hstreet : sql.Preserves AddressField.street.width street) :
    KeptAddress sql (orderWithItems eventId order client address (.str street) items) := by
  rintro - data fields hdata hfields
  cases hdata
  cases hfields
  exact keptContent_sampleAddress hstreet

lemma plainCreation_moved {event : Json × Json} (hevent : event ∈ movedClient) (db : Database)
    (call : Call) (h : call.event = event.1) : PlainCreation .plain db call := by
  obtain ⟨event', eventId, heq, failed⟩ := call
  obtain rfl : event' = event.1 := h
  simp only [movedClient, List.mem_cons, List.not_mem_nil, or_false] at hevent
  rcases hevent with rfl | rfl | rfl
  · refine ⟨textAddress_orderWithItems _ _ _ _ _ _,
      keptAddress_orderWithItems (SqlServer.preserves_of_ascii (by decide) (by decide)), ?_⟩
    rintro - data items hdata hitems mappings hmappings item hitem
    cases hdata
    cases hitems
    cases hmappings
    obtain rfl := List.mem_singleton.mp hitem
    rfl
  · refine ⟨textAddress_orderWithItems _ _ _ _ _ _,
      keptAddress_orderWithItems (SqlServer.preserves_of_ascii (by decide) (by decide)), ?_⟩
    rintro - data items hdata hitems mappings hmappings item hitem
    cases hdata
    cases hitems
    cases hmappings
    cases hitem
  · have hne : (statusChangedEvent "e3" (.str "o1") "APPROVED").getItem "event_type" ≠
        .ok (.str "ORDER_CREATED") :=
      fun htype => absurd (Json.str.inj (Except.ok.inj htype)) (by decide)
    exact ⟨fun htype => absurd htype hne, fun htype => absurd htype hne,
      fun htype => absurd htype hne⟩

/-- The first order keeps its address. -/
theorem order_picture_moved :
    ∃ (data : Json) (db₁ db : Database) (o : Order), o ∈ db.orders ∧ db.address.length = 2 ∧
      db.orderItems.length = 1 ∧ Pictured .plain data db₁ db o := by
  obtain ⟨w, hreach, hdb⟩ := exists_reachable movedClient
    (fun event hevent db call heq => plainCreation_moved hevent db call heq) (by decide)
    (by simp [movedClient, orderWithItems, statusChangedEvent, Json.getItem])
  obtain ⟨haddress, hitems, horders⟩ : w.db.address.length = 2 ∧ w.db.orderItems.length = 1 ∧
      0 < w.db.orders.length := by
    rw [hdb]
    decide
  obtain ⟨o, ho⟩ := List.exists_mem_of_length_pos horders
  obtain ⟨⟨f₀, f₁, data, hcreation, hpath⟩, hall⟩ := (order_picture _ hreach).1 o ho
  exact ⟨data, f₁.world.db, w.db, o, ho, haddress, hitems, (hall f₀ f₁ data hcreation hpath).1⟩

end EventPipeline

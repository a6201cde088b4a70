import EventPipeline.Consistency

/-!
# The items of an order

`insert_order_items` stores every item under `{"order_id": order_id, **item}`: a key `order_id`
in the item replaces the identifier of the order being created. The rows of the new order are
the items of the payload, and no other order gets a row, exactly when no item names a stored
order in this way (`own_items_iff`).
-/

namespace EventPipeline

open Transaction

variable {sql : SqlServer} {db db' : Database} {orderId : ℕ}

/-- The items `insert_order_items` is given, one by one. -/
def payloadItems (items : Json) : List Item :=
  if items.truthy then (itemMappings items).toOption.getD [] else []

def OrderItem.content (i : OrderItem) : SnapshotItem :=
  ⟨i.sku, i.description, i.quantity, i.unitPrice⟩

/-- What an item says, converted to the types of the columns. -/
def itemContent (sql : SqlServer) (item : Item) : Except Fault SnapshotItem := do
  let sku ← sql.text 64 "sku" (← SqlServer.parameter "sku" item)
  let description ← sql.text 200 "description" (← SqlServer.parameter "description" item)
  let quantity ← sql.bigint "quantity" (← SqlServer.parameter "quantity" item)
  let unitPrice ← sql.numeric "unit_price" (← SqlServer.parameter "unit_price" item)
  .ok ⟨sku, description, quantity, unitPrice⟩

lemma itemRow_eq_ok {item : Item} {row : OrderItem}
    (h : sql.itemRow db orderId item = .ok { row with orderItemId := 0 }) :
    sql.itemOrder db orderId item = .ok row.orderId ∧ itemContent sql item = .ok row.content := by
  simp only [SqlServer.itemRow, bind_eq_ok, Except.ok.injEq, OrderItem.mk.injEq, true_and] at h
  obtain ⟨order, horder, sku, hsku, text, htext, description, hdescription, text', htext', quantity,
    hquantity, n, hn, price, hprice, m, hm, rfl, rfl, rfl, rfl, rfl⟩ := h
  refine ⟨horder, ?_⟩
  simp only [itemContent, bind_eq_ok]
  exact ⟨_, hsku, _, htext, _, hdescription, _, htext', _, hquantity, _, hn, _, hprice, _, hm, rfl⟩

/-- The rows that were added, with the items they come from. -/
lemma ItemsInserted.rows_of {items : Json} (h : ItemsInserted sql orderId items db db') :
    ∃ rows, db'.orderItems = db.orderItems ++ rows ∧ db'.orders = db.orders ∧
      List.Forall₂ (fun item row => sql.itemOrder db orderId item = .ok row.orderId ∧
        itemContent sql item = .ok row.content) (payloadItems items) rows := by
  cases h with
  | empty h => exact ⟨[], by simp, rfl, by simp [payloadItems, h]⟩
  | @rows mappings rows _ h hparsed hrows =>
    refine ⟨rows, rfl, rfl, ?_⟩
    simp only [payloadItems, h, if_true, hparsed, Except.toOption, Option.getD_some]
    exact hrows.imp fun item row hrow => itemRow_eq_ok hrow

/-- No item has a key `order_id` that converts to the id of a stored order. -/
def NamesNoOrder (sql : SqlServer) (items : Json) (db : Database) : Prop :=
  ∀ item ∈ payloadItems items, ∀ v id, item.lookup "order_id" = some v →
    sql.bigint "order_id" v = .ok id → ∀ o ∈ db.orders, (o.orderId : Int) ≠ id

/-- The rows of the order are the items of the payload, and every other order keeps its rows. -/
structure OwnItems (sql : SqlServer) (orderId : ℕ) (items : Json) (db db' : Database) : Prop where
  own : ∃ contents, List.Forall₂ (fun item content => itemContent sql item = .ok content)
      (payloadItems items) contents ∧
    ((db'.orderItems.filter fun i => i.orderId = orderId).map OrderItem.content).Perm contents
  others : (db'.orderItems.filter fun i => i.orderId ≠ orderId) =
    db.orderItems.filter fun i => i.orderId ≠ orderId

lemma itemOrder_mem {item : Item} {id : ℕ} {row : Order}
    (h : sql.itemOrder (db.addOrder row) row.orderId item = .ok id) :
    id = row.orderId ∨ ∃ o ∈ db.orders, id = o.orderId := by
  unfold SqlServer.itemOrder at h
  split at h
  · cases h
    exact .inl rfl
  · simp only [bind_eq_ok] at h
    obtain ⟨n, -, h⟩ := h
    split at h
    · rename_i o ho
      cases h
      rcases List.mem_append.mp (List.mem_of_find?_eq_some ho) with hold | hrow
      · exact .inr ⟨o, hold, rfl⟩
      · exact .inl (by rw [List.mem_singleton.mp hrow])
    · cases h

/-- An item goes to the order being created unless it names a stored one. -/
lemma itemOrder_eq_iff {item : Item} {id : ℕ} {row : Order}
    (hnew : ∀ o ∈ db.orders, o.orderId ≠ row.orderId)
    (h : sql.itemOrder (db.addOrder row) row.orderId item = .ok id) :
    id = row.orderId ↔ ∀ v n, item.lookup "order_id" = some v → sql.bigint "order_id" v = .ok n →
      ∀ o ∈ db.orders, (o.orderId : Int) ≠ n := by
  unfold SqlServer.itemOrder at h
  cases hlookup : item.lookup "order_id" with
  | none =>
    rw [hlookup] at h
    cases h
    simp
  | some v =>
    simp only [hlookup, bind_eq_ok] at h
    obtain ⟨n, hn, h⟩ := h
    split at h
    · rename_i o ho
      cases h
      have hmem := List.mem_of_find?_eq_some ho
      have hid : (o.orderId : Int) = n := by simpa using List.find?_some ho
      constructor
      · rintro hrow v' n' hv hn' o' ho' heq
        cases hv
        rw [hn] at hn'
        cases hn'
        exact hnew o' ho' (by omega)
      · intro hnone
        rcases List.mem_append.mp hmem with hold | hrow
        · exact absurd hid (hnone v n rfl hn o hold)
        · rw [List.mem_singleton.mp hrow]
    · cases h

/-! ### Orders created -/

section Created

variable {event eventId data items : Json} {outbox : Option Outbox}

/-- The order an event creates, and the rows stored with it. -/
lemma created_items (hc : Consistent sql db)
    (htype : event.getItem "event_type" = .ok (.str "ORDER_CREATED"))
    (hdata : event.getItem "data" = .ok data) (hitems : data.get "items" (.arr []) = .ok items)
    (hrun : Runs sql.engine (eventTxn event eventId) db outbox db') :
    ∃ order rows, db'.orders = db.orders ++ [order] ∧
      (∀ o ∈ db.orders, o.orderId ≠ order.orderId) ∧ db'.orderItems = db.orderItems ++ rows ∧
      List.Forall₂ (fun item row => itemContent sql item = .ok row.content ∧
        (row.orderId = order.orderId ∨ ∃ o ∈ db.orders, row.orderId = o.orderId) ∧
        (row.orderId = order.orderId ↔ ∀ v n, item.lookup "order_id" = some v →
          sql.bigint "order_id" v = .ok n → ∀ o ∈ db.orders, (o.orderId : Int) ≠ n))
        (payloadItems items) rows := by
  obtain ⟨id, eventType, data', row, db₁, now, hcom, rfl⟩ := committed_of_runs hrun
  obtain rfl : eventType = .str "ORDER_CREATED" := Except.ok.inj (hcom.eventType_eq.symm.trans htype)
  obtain rfl : data' = data := Except.ok.inj (hcom.data_eq.symm.trans hdata)
  cases hcom.processed with
  | @created _ _ _ items' _ _ clientId addressId order history db₁ db₂ db₃ _ _ _ hitems' _ hclient _
      haddress _ horder hinserted _ =>
    obtain rfl : items' = items := Except.ok.inj (hitems'.symm.trans hitems)
    have hframe := created_frame hclient haddress hinserted
    have hold : db₂.orders = db.orders := by rw [haddress.frame, hclient.frame]
    have hfresh : ∀ o ∈ db.orders, o.orderId ≠ order.orderId := fun o ho =>
      hc.orderIds.key_ne (by rw [← next_order_eq hclient haddress]; exact horder.id_le) ho
    obtain ⟨rows, hrows, -, hforall⟩ := hinserted.rows_of
    refine ⟨order, rows, congrArg (·.orders) hframe, hfresh, ?_, ?_⟩
    · have hbefore : (db₂.addOrder order).orderItems = db.orderItems := by
        rw [show (db₂.addOrder order).orderItems = db₂.orderItems from rfl, haddress.frame,
          hclient.frame]
      rw [← hbefore]
      exact hrows
    · refine hforall.imp fun item row ⟨hitem, hcontent⟩ => ⟨hcontent, ?_, ?_⟩
      · exact hold ▸ itemOrder_mem hitem
      · rw [← hold]
        exact itemOrder_eq_iff (hold ▸ hfresh) hitem
  | statusChanged htype' => simp at htype'
  | paid htype' => simp at htype'
  | invoiced htype' => simp at htype'
  | unknownOrder _ _ hne => exact absurd rfl hne
  | unknownType hne => exact absurd rfl hne

/-- Where no item names a stored order, the rows of the new order are the items. -/
lemma ownItems_of_runs (hc : Consistent sql db)
    (htype : event.getItem "event_type" = .ok (.str "ORDER_CREATED"))
    (hdata : event.getItem "data" = .ok data) (hitems : data.get "items" (.arr []) = .ok items)
    (hrun : Runs sql.engine (eventTxn event eventId) db outbox db')
    (hcond : NamesNoOrder sql items db) :
    ∃ order, db'.orders = db.orders ++ [order] ∧ (∀ o ∈ db.orders, o.orderId ≠ order.orderId) ∧
      OwnItems sql order.orderId items db db' := by
  obtain ⟨o, rows, horders, hfresh, hrows, hforall⟩ := created_items hc htype hdata hitems hrun
  have hnone : (db.orderItems.filter fun i => i.orderId = o.orderId) = [] := by
    refine List.filter_eq_nil_iff.mpr fun i hi => ?_
    obtain ⟨o', ho', hid⟩ := hc.itemOrder i hi
    simpa [← hid] using hfresh o' ho'
  have hall : ∀ row ∈ rows, row.orderId = o.orderId := by
    intro row hrow
    obtain ⟨item, hitem, hpair⟩ := exists_of_mem_right hforall hrow
    exact hpair.2.2.mpr (hcond item hitem)
  refine ⟨o, horders, hfresh, ⟨rows.map OrderItem.content, ?_, ?_⟩, ?_⟩
  · exact List.forall₂_map_right_iff.mpr (hforall.imp fun item row hpair => hpair.1)
  · have hown : (rows.filter fun i => i.orderId = o.orderId) = rows :=
      List.filter_eq_self.mpr fun row hrow => by simpa using hall row hrow
    rw [hrows, List.filter_append, hnone, hown, List.nil_append]
  · have hother : (rows.filter fun i => i.orderId ≠ o.orderId) = [] :=
      List.filter_eq_nil_iff.mpr fun row hrow => by simpa using hall row hrow
    rw [hrows, List.filter_append, hother, List.append_nil]

/-- The order that is new in the tables is the one that was appended. -/
lemma eq_of_new {order o : Order} (horders : db'.orders = db.orders ++ [order]) (ho : o ∈ db'.orders)
    (hnew : ∀ o' ∈ db.orders, o'.orderId ≠ o.orderId) : o = order := by
  rw [horders] at ho
  exact (List.mem_append.mp ho).elim (fun hold => absurd rfl (hnew o hold)) List.mem_singleton.mp

/-- The rows of a new order are the items of its payload, and the other orders keep theirs,
exactly when no item names a stored order. -/
theorem own_items_iff (ext : Externals) {f : Fleet}
    (h : Fleet.Reachable ext (fun _ _ => True) f)
    (htype : event.getItem "event_type" = .ok (.str "ORDER_CREATED"))
    (hdata : event.getItem "data" = .ok data) (hitems : data.get "items" (.arr []) = .ok items)
    (hrun : Runs ext.sql.engine (eventTxn event eventId) f.world.db outbox db') {o : Order}
    (ho : o ∈ db'.orders) (hnew : ∀ o' ∈ f.world.db.orders, o'.orderId ≠ o.orderId) :
    OwnItems ext.sql o.orderId items f.world.db db' ↔ NamesNoOrder ext.sql items f.world.db := by
  have hc := h.consistent
  constructor
  · rintro ⟨-, hothers⟩ item hitem
    obtain ⟨order, rows, horders, -, hrows, hforall⟩ := created_items hc htype hdata hitems hrun
    obtain rfl := eq_of_new horders ho hnew
    rw [hrows, List.filter_append, List.append_right_eq_self, List.filter_eq_nil_iff] at hothers
    obtain ⟨row, hrow, hpair⟩ := exists_of_mem_left hforall hitem
    exact hpair.2.2.mp (by simpa using hothers row hrow)
  · intro hcond
    obtain ⟨order, horders, -, hown⟩ := ownItems_of_runs hc htype hdata hitems hrun hcond
    obtain rfl := eq_of_new horders ho hnew
    exact hown

end Created

/-- An order with one item, and a second one whose item may have keys of its own. -/
def firstOrder : Json :=
  orderWithItems "e1" "o1" "c1" "a1" (.str "Rua A") [itemOf "s1" 2 []]

def secondOrder (more : List (String × Json)) : Json :=
  orderWithItems "e2" "o2" "c1" "a1" (.str "Rua A") [itemOf "s2" 3 more]

/-- An item that says nothing about an order. -/
theorem own_items_second :
    ∃ db db' : Database, ∃ o ∈ db'.orders, db'.orderItems.length = 2 ∧
      OwnItems .plain o.orderId (.arr [itemOf "s2" 3 []]) db db' := by
  obtain ⟨w, hreach, hdb⟩ := exists_reachable [(firstOrder, .str "e1")]
    (fun _ _ _ _ _ => trivial) (by decide) (by simp [firstOrder, orderWithItems, Json.getItem])
  obtain ⟨outbox, hrun⟩ := @exists_runs .plain w.db .healthy (secondOrder []) (.str "e2")
    (by rw [hdb]; decide)
  obtain ⟨o, ho, hnew, hlength⟩ : ∃ o ∈ (runInTxn .plain .healthy (secondOrder []) (.str "e2")
      w.db).2.orders, (∀ o' ∈ w.db.orders, o'.orderId ≠ o.orderId) ∧
      (runInTxn .plain .healthy (secondOrder []) (.str "e2") w.db).2.orderItems.length = 2 := by
    rw [hdb]
    decide
  refine ⟨w.db, _, o, ho, hlength, (own_items_iff _ hreach rfl rfl rfl hrun ho hnew).mpr ?_⟩
  intro item hitem v id hv
  obtain rfl : item = [("sku", .str "s2"), ("description", .str "Caneta"), ("quantity", .int 3),
    ("unit_price", .int 2)] := List.mem_singleton.mp hitem
  cases hv

/-- The item of the second order goes to the first one. -/
theorem own_items_stray :
    ¬ ∀ (ext : Externals) (f : Fleet), Fleet.Reachable ext (fun _ _ => True) f →
      ∀ (event eventId data items : Json) (outbox : Option Outbox) (db' : Database),
      event.getItem "event_type" = .ok (.str "ORDER_CREATED") →
      event.getItem "data" = .ok data → data.get "items" (.arr []) = .ok items →
      Runs ext.sql.engine (eventTxn event eventId) f.world.db outbox db' → ∀ o ∈ db'.orders,
      (∀ o' ∈ f.world.db.orders, o'.orderId ≠ o.orderId) →
      OwnItems ext.sql o.orderId items f.world.db db' := by
  intro h
  obtain ⟨w, hreach, hdb⟩ := exists_reachable [(firstOrder, .str "e1")]
    (fun _ _ _ _ _ => trivial) (by decide) (by simp [firstOrder, orderWithItems, Json.getItem])
  obtain ⟨outbox, hrun⟩ := @exists_runs .plain w.db .healthy (secondOrder [("order_id", .int 1)])
    (.str "e2") (by rw [hdb]; decide)
  obtain ⟨o, ho, hnew, hothers⟩ : ∃ o ∈ (runInTxn .plain .healthy
      (secondOrder [("order_id", .int 1)]) (.str "e2") w.db).2.orders,
      (∀ o' ∈ w.db.orders, o'.orderId ≠ o.orderId) ∧
      ((runInTxn .plain .healthy (secondOrder [("order_id", .int 1)]) (.str "e2")
        w.db).2.orderItems.filter fun i => i.orderId ≠ o.orderId) ≠
        w.db.orderItems.filter fun i => i.orderId ≠ o.orderId := by
    rw [hdb]
    decide
  exact hothers (h _ _ hreach _ _ _ _ _ _ rfl rfl rfl hrun o ho hnew).others

end EventPipeline

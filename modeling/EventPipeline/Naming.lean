import EventPipeline.Fates

/-!
# The tables up to their surrogate keys

A client and an order are known by their external ids, and a version of an address by its client
and its number among the client's versions, so the content of the tables (`Database.shop`) together
with the version every order refers to (`Database.versions`) is the database up to its surrogate
keys and clock readings. An event changes both in a way the content alone decides
(`versions_of_runs`).
-/

namespace EventPipeline

open Transaction

variable {ext : Externals} {sql : SqlServer} {db db' : Database} {event eventId : Json}
  {outbox : Option Outbox}

/-! ### Versions of addresses -/

lemma findIdx_congr {α : Type} {p q : α → Bool} {l : List α} (h : ∀ a ∈ l, p a = q a) :
    l.findIdx p = l.findIdx q :=
  Nat.le_antisymm (List.findIdx_le_findIdx fun a ha hq => by rw [h a ha]; exact hq)
    (List.findIdx_le_findIdx fun a ha hp => by rw [← h a ha]; exact hp)

/-- The number of a row of `address` among the rows of its client. -/
def addressVersion (address : List Address) (id : ℕ) : Option ℕ :=
  (address.find? (·.addressId = id)).map fun a =>
    (address.filter (·.clientId = a.clientId)).findIdx (·.addressId = id)

/-- The version of an address every order refers to. -/
def Database.versions (db : Database) : List (Varchar 64 × Option ℕ) :=
  db.orders.map fun o => (o.externalOrderId, addressVersion db.address o.addressId)

lemma addressVersion_map {f : Address → Address} (hid : ∀ a, (f a).addressId = a.addressId)
    (hclient : ∀ a, (f a).clientId = a.clientId) (address : List Address) (id : ℕ) :
    addressVersion (address.map f) id = addressVersion address id := by
  simp only [addressVersion, List.find?_map, Function.comp_def, hid, Option.map_map, hclient,
    List.filter_map, List.findIdx_map]

/-- A version keeps its number when another is added. -/
lemma addressVersion_append {address : List Address} {id : ℕ} (h : ∃ a ∈ address, a.addressId = id)
    (row : Address) : addressVersion (address ++ [row]) id = addressVersion address id := by
  obtain ⟨a, ha, hid⟩ := h
  obtain ⟨b, hb⟩ := Option.isSome_iff_exists.mp
    (List.find?_isSome (p := fun a : Address => decide (a.addressId = id)).mpr
      ⟨a, ha, decide_eq_true hid⟩)
  have hbid : b.addressId = id := by simpa using List.find?_some hb
  have hmem : b ∈ address.filter (·.clientId = b.clientId) :=
    List.mem_filter.mpr ⟨List.mem_of_find?_eq_some hb, decide_eq_true rfl⟩
  simp only [addressVersion, List.find?_append, hb, Option.some_or, Option.map_some,
    List.filter_append, List.findIdx_append]
  rw [if_pos (List.findIdx_lt_length_of_exists ⟨b, hmem, decide_eq_true hbid⟩)]

/-- Later versions do not change the number of a version. -/
lemma AddressUpserted.addressVersion_eq {clientId id id' : ℕ} {ext : Json}
    {content : AddressField → Json} (h : AddressUpserted sql clientId ext content db id db')
    (hid : ∃ a ∈ db.address, a.addressId = id') :
    addressVersion db'.address id' = addressVersion db.address id' := by
  have hexpire : ∀ (expired now : ℕ), addressVersion
      (updateById (·.addressId) expired (·.expire now) db.address) id' =
        addressVersion db.address id' := fun expired now => by
    refine addressVersion_map (fun a => ?_) (fun a => ?_) db.address id'
    · split_ifs <;> rfl
    · split_ifs <;> rfl
  cases h with
  | reused => rfl
  | inserted => exact addressVersion_append hid _
  | @replaced current row now =>
    refine (addressVersion_append ?_ row).trans (hexpire current.addressId now)
    obtain ⟨a, ha, rfl⟩ := hid
    refine ⟨_, List.mem_map_of_mem ha, ?_⟩
    split_ifs <;> rfl

/-- The number of the version an order refers to, where it is the current one. -/
def Shop.version (s : Shop) (o : OrderInfo) : Option ℕ :=
  some ((s.address.filter (·.client = o.client)).findIdx fun a =>
    a.isCurrent && some (a.ext, a.content) = o.address)

lemma AddressUpserted.row {clientId id : ℕ} {ext : Json} {content : AddressField → Json}
    (h : AddressUpserted sql clientId ext content db id db') :
    ∃ a ∈ db'.address, a.addressId = id ∧ a.clientId = clientId ∧ a.isCurrent = true := by
  cases h with
  | @reused current selected =>
    obtain ⟨hmem, hclient, -, hcur⟩ := VersionsInv.mem_currentAddresses.mp
      (List.mem_of_mem_head? selected)
    exact ⟨current, hmem, rfl, hclient, hcur⟩
  | @inserted row _ hrow =>
    exact ⟨row, List.mem_append_right _ (List.mem_singleton_self _), rfl, hrow.clientId_eq,
      hrow.isCurrent⟩
  | @replaced current row now _ _ hrow =>
    exact ⟨row, List.mem_append_right _ (List.mem_singleton_self _), rfl, hrow.clientId_eq,
      hrow.isCurrent⟩

/-- The current version of an address, found by its identity or by what it says. -/
lemma Consistent.version_eq (hc : Consistent sql db) {a : Address} (ha : a ∈ db.address)
    (hcur : a.isCurrent = true) {o : OrderInfo} (hclient : o.client = clientKey db.clients a.clientId)
    (haddress : o.address = some (a.externalAddressId, a.content)) :
    db.shop.version o = addressVersion db.address a.addressId := by
  obtain ⟨c, hmem, hid⟩ := hc.addressClient a ha
  have hkey : clientKey db.clients a.clientId = some c.externalClientId := by
    have hkey := hc.clientKey_mem hmem
    rw [show c.clientId = a.clientId from hid] at hkey
    exact hkey
  have hfind : db.address.find? (·.addressId = a.addressId) = some a :=
    find?_eq_of_unique ha (decide_eq_true rfl) fun b hb hbid =>
      hc.addressIds.eq_of_key_eq hb ha (of_decide_eq_true hbid)
  rw [hkey] at hclient
  simp only [Shop.version, addressVersion, hfind, Option.map_some, hclient, hc.shop_addressOf hkey,
    List.findIdx_map, haddress]
  refine congrArg some (findIdx_congr fun b hb => ?_)
  obtain ⟨hb, hbclient⟩ := List.mem_filter.mp hb
  have hbclient : b.clientId = a.clientId := of_decide_eq_true hbclient
  rw [Bool.eq_iff_iff]
  simp only [Function.comp_apply, Address.info, Bool.and_eq_true, decide_eq_true_eq,
    Option.some.injEq, Prod.mk.injEq]
  constructor
  · rintro ⟨hbcur, hext, -⟩
    rw [hc.current.eq_of_current hb ha hbcur hcur hbclient (by rw [hext, sql.same_refl])]
  · intro hbid
    rw [hc.addressIds.eq_of_key_eq hb ha hbid]
    exact ⟨hcur, rfl, rfl⟩

/-! ### What an event does to the versions -/

/-- The orders of `s'` that are not in `s`. -/
def Shop.created (s s' : Shop) : List OrderInfo :=
  s'.orders.filter fun o => !s.orders.any (·.ext = o.ext)

/-- The versions the new orders refer to. -/
def Shop.newVersions (s s' : Shop) : List (Varchar 64 × Option ℕ) :=
  (Shop.created s s').map fun o => (o.ext, s'.version o)

lemma Shop.created_eq {s s' : Shop} {old new : List OrderInfo} (h : s'.orders = old ++ new)
    (hold : ∀ o ∈ old, ∃ o' ∈ s.orders, o'.ext = o.ext)
    (hnew : ∀ o ∈ new, ∀ o' ∈ s.orders, o'.ext ≠ o.ext) : Shop.created s s' = new := by
  rw [Shop.created, h, List.filter_append, List.filter_eq_nil_iff.mpr, List.nil_append]
  · refine List.filter_eq_self.mpr fun o ho => ?_
    simpa using hnew o ho
  · intro o ho
    simp only [Bool.not_eq_true', Bool.not_eq_false, List.any_eq_true, decide_eq_true_eq]
    exact hold o ho

/-- An event that creates no order. -/
lemma versions_of_map {f : Order → Order} (horders : db'.orders = db.orders.map f)
    (hf : ∀ o, (f o).externalOrderId = o.externalOrderId ∧ (f o).addressId = o.addressId)
    (haddress : db'.address = db.address) :
    db'.versions = db.versions ++ Shop.newVersions db.shop db'.shop := by
  have hcreated : Shop.created db.shop db'.shop = [] := by
    refine Shop.created_eq (List.append_nil _).symm (fun x hx => ?_) (by simp)
    simp only [Database.shop, horders, List.map_map] at hx
    obtain ⟨o, ho, rfl⟩ := List.mem_map.mp hx
    exact ⟨_, List.mem_map_of_mem ho, (hf o).1.symm⟩
  simp only [Shop.newVersions, hcreated, List.map_nil, List.append_nil, Database.versions, horders,
    List.map_map, Function.comp_def, hf, haddress]

/-- A new order refers to the version that is then the current one, and the others refer to the
version they did. -/
lemma versions_of_runs (hc : Consistent sql db)
    (h : Runs sql.engine (eventTxn event eventId) db outbox db') :
    db'.versions = db.versions ++ Shop.newVersions db.shop db'.shop := by
  have hc' := hc.step h
  obtain ⟨eventId', eventType, data, row, db₁, now, hcom, rfl⟩ := committed_of_runs h
  have hself : ∀ o : Order, o.externalOrderId = o.externalOrderId ∧ o.addressId = o.addressId :=
    fun _ => ⟨rfl, rfl⟩
  cases hcom.processed with
  | @created client address ext items p q clientId addressId order history db₁ db₂ db₃ _ _ _ _ _
      hclient _ haddress _ horder hitems _ =>
    have hframe := created_frame hclient haddress hitems
    obtain ⟨db', hdb'⟩ : ∃ db', db' = (db₃.addHistory history).marked sql eventId now := ⟨_, rfl⟩
    rw [← hdb'] at hc' ⊢
    have horders : db'.orders = db.orders ++ [order] := hdb' ▸ congrArg (·.orders) hframe
    have haddresses : db'.address = db₂.address := hdb' ▸ congrArg (·.address) hframe
    have hbefore : db₁.address = db.address := congrArg (·.address) hclient.frame
    have hshop : db'.shop.orders = (db.orders.map fun o =>
        o.info (clientKey db'.clients o.clientId) (addressKey db'.address o.addressId)) ++
          [order.info (clientKey db'.clients order.clientId)
            (addressKey db'.address order.addressId)] := by
      simp only [Database.shop, horders, List.map_append, List.map_cons, List.map_nil]
    have hcreated : Shop.created db.shop db'.shop = [order.info (clientKey db'.clients order.clientId)
        (addressKey db'.address order.addressId)] := by
      refine Shop.created_eq hshop (fun x hx => ?_) fun x hx y hy hext => ?_
      · obtain ⟨o, ho, rfl⟩ := List.mem_map.mp hx
        exact ⟨_, List.mem_map_of_mem ho, rfl⟩
      · obtain rfl := List.mem_singleton.mp hx
        obtain ⟨o, ho, rfl⟩ := List.mem_map.mp hy
        have hfresh := horder.fresh o (by
          rw [show db₂.orders = db.orders from (congrArg (·.orders) haddress.frame).trans
            (congrArg (·.orders) hclient.frame)]
          exact ho)
        have hext : o.externalOrderId = order.externalOrderId := hext
        rw [hext, sql.same_refl] at hfresh
        cases hfresh
    obtain ⟨a, ha, haid, haclient, hacur⟩ := haddress.row
    have ha' : a ∈ db'.address := haddresses ▸ ha
    have hversion : db'.shop.version (order.info (clientKey db'.clients order.clientId)
        (addressKey db'.address order.addressId)) = addressVersion db'.address a.addressId := by
      refine hc'.version_eq ha' hacur ?_ ?_
      · rw [haclient, ← horder.clientId_eq]
        rfl
      · have hkey := lookupBy_of_mem (g := fun a : Address => (a.externalAddressId, a.content))
          hc'.addressIds ha'
        rw [haid, ← horder.addressId_eq] at hkey
        exact hkey
    have hold : ∀ o ∈ db.orders, addressVersion db'.address o.addressId =
        addressVersion db.address o.addressId := by
      intro o ho
      rw [haddresses, ← hbefore]
      exact haddress.addressVersion_eq (hbefore ▸ hc.orderAddress o ho)
    simp only [Shop.newVersions, hcreated, List.map_cons, List.map_nil, hversion, Database.versions,
      horders, List.map_append, haid, ← horder.addressId_eq]
    refine congrArg (· ++ _) (List.map_congr_left fun o ho => ?_)
    rw [hold o ho]
  | statusChanged =>
    refine versions_of_map rfl (fun o => ?_) rfl
    split_ifs <;> exact ⟨rfl, rfl⟩
  | paid _ _ _ _ hpayment =>
    refine versions_of_map (f := id) ?_ hself (congrArg (·.address) hpayment.frame)
    exact (congrArg (·.orders) hpayment.frame).trans (List.map_id _).symm
  | invoiced _ _ _ _ hinvoice =>
    refine versions_of_map (f := id) ?_ hself (congrArg (·.address) hinvoice.frame)
    exact (congrArg (·.orders) hinvoice.frame).trans (List.map_id _).symm
  | unknownOrder => exact versions_of_map (List.map_id _).symm hself rfl
  | unknownType => exact versions_of_map (List.map_id _).symm hself rfl

end EventPipeline

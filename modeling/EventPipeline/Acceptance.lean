import EventPipeline.Fates
import EventPipeline.Interleaving
import EventPipeline.Refusals

/-!
# Orders that find their ids free

An order of a client that is not stored yet is refused for what it says itself, or because one of
its ids is taken. So once it can be stored, it can be stored in any other state in which its ids are
free as the columns store them, whether the client is known there or not (`accepted_of_free`).
-/

namespace EventPipeline

open Transaction

namespace Shop

variable {sql : SqlServer} {s s' t : Shop} {client number : String} {key key' : Varchar 64}

/-- Of each address one version is current at most, under one spelling of its id. -/
def CurrentOnce (sql : SqlServer) (address : List AddressInfo) : Prop :=
  ∀ a ∈ address, ∀ b ∈ address, a.isCurrent = true → b.isCurrent = true → a.client = b.client →
    sql.same a.ext.text b.ext.text = true → a.ext = b.ext

/-- No client and no address of a client is stored under the id. -/
structure Unknown (sql : SqlServer) (client : String) (s : Shop) : Prop where
  clients : ∀ c ∈ s.clients, sql.same client c.ext.text = false
  address : ∀ a ∈ s.address, ∀ key, a.client = some key → sql.same client key.text = false

/-- The current versions of the client that are stored like `ext` are found under it. -/
def FindsStored (sql : SqlServer) (client ext : String) (address : List AddressInfo) : Prop :=
  ∀ a ∈ address, a.isCurrent = true → ∀ key, a.client = some key → sql.same client key.text = true →
    ∀ v : Varchar 64, sql.stored 64 (.text ext) = some v → sql.same v.text a.ext.text = true →
      sql.same ext a.ext.text = true

/-- A client that could be created can be created or found. -/
lemma mergeClient_of_unknown {p : ClientParams} (hp : p.externalClientId = .str client)
    (hfinds : sql.Finds 64 client) (hnew : Unknown sql client s) {r : Varchar 64 × Shop}
    (h : mergeClient sql p s = some r) :
    sql.same client r.1.text = true ∧
      ∃ r', mergeClient sql p s' = some r' ∧ sql.same client r'.1.text = true := by
  simp only [mergeClient, Option.ite_none_right_eq_some, Option.bind_eq_bind,
    Option.bind_eq_some_iff, toOption_eq_some] at h
  obtain ⟨hbind, named, hnamed, name, hname, email, hemail, document, hdocument, h⟩ := h
  have hnone : named = [] := by
    rw [hp] at hnamed
    cases (sql.selectRows_str _ _ _ s.clients).symm.trans hnamed
    exact List.filter_eq_nil_iff.mpr fun c hc => by simp [hnew.clients c hc]
  subst hnone
  simp only [newClient, Option.bind_eq_bind, Option.bind_eq_some_iff, toOption_eq_some,
    Option.ite_none_left_eq_some] at h
  obtain ⟨ext, ⟨v, hv, -, hext⟩, h⟩ := h
  cases hext
  cases h
  have hsame : sql.same client ext.text = true :=
    hfinds ext (sql.textOf_str.mp (hp ▸ sql.text_eq_ok.mp hv))
  refine ⟨hsame, ?_⟩
  have hselect : selectRows (clientNamed sql p.externalClientId) s'.clients =
      .ok (s'.clients.filter fun c => sql.same client c.ext.text) := by
    rw [hp]
    exact sql.selectRows_str _ _ _ _
  simp only [mergeClient, hbind, if_true, hselect, hname, hemail, hdocument, Except.toOption,
    Option.bind_eq_bind, Option.bind_some]
  cases hrows : s'.clients.filter fun c => sql.same client c.ext.text with
  | nil =>
    have hfresh : ¬ (s'.clients.any fun c => sql.same ext.text c.ext.text) = true := by
      simp only [sql.same_congr hsame]
      simpa using List.filter_eq_nil_iff.mp hrows
    have hnewClient : newClient sql p.externalClientId s' = some ext := by
      simp only [newClient, hv, Except.toOption, Option.bind_eq_bind, Option.bind_some,
        if_neg hfresh]
    simp only [hnewClient, Option.bind_some]
    exact ⟨_, rfl, hsame⟩
  | cons c rest =>
    have hc : c ∈ s'.clients.filter fun c => sql.same client c.ext.text :=
      hrows ▸ List.mem_cons_self
    exact ⟨_, rfl, (List.mem_filter.mp hc).2⟩

/-- A client without addresses gets one. -/
lemma upsertAddress_new {address : Json} {ext : String}
    (hext : address.getItem "external_address_id" = .ok (.str ext))
    (hnone : ∀ a ∈ s.address, a.client ≠ some key) {r : AddressKey × Shop}
    (h : upsertAddress sql key address s = some r) :
    insertAddress sql key (.str ext) (addressContent address) s = some r := by
  have hempty : (s.address.filter fun a => a.client = some key) = [] :=
    List.filter_eq_nil_iff.mpr fun a ha => by simpa using hnone a ha
  simpa only [upsertAddress, hext, Except.toOption, currentVersions_str, hempty, List.filter_nil,
    Option.bind_eq_bind, Option.bind_some] using h

/-- The version that is inserted has what the column stores of its external id. -/
lemma insertAddress_row {ext : String} {content : AddressField → Json} {r : AddressKey × Shop}
    (h : insertAddress sql key (.str ext) content s = some r) :
    ∃ row : AddressInfo, r.2 = { s with address := s.address ++ [row] } ∧
      sql.stored 64 (.text ext) = some row.ext := by
  simp only [insertAddress, Option.ite_none_right_eq_some, Option.ite_none_left_eq_some,
    Option.bind_eq_bind, Option.bind_eq_some_iff, toOption_eq_some] at h
  obtain ⟨-, v, hv, content, -, -, hr⟩ := h
  cases hr
  exact ⟨_, rfl, sql.textOf_str.mp (sql.text_eq_ok.mp hv)⟩

/-- An address that could be inserted for a new client can be found or inserted. -/
lemma upsertAddress_of_unknown {address : Json} {ext : String}
    (hext : address.getItem "external_address_id" = .ok (.str ext))
    (hnone : ∀ a ∈ s.address, a.client ≠ some key) (hkey' : sql.same client key'.text = true)
    (hcurrent : CurrentOnce sql s'.address) (hstored : FindsStored sql client ext s'.address)
    {r : AddressKey × Shop} (h : upsertAddress sql key address s = some r) :
    ∃ r', upsertAddress sql key' address s' = some r' := by
  have h := upsertAddress_new hext hnone h
  simp only [insertAddress, Option.ite_none_right_eq_some, Option.ite_none_left_eq_some,
    Option.bind_eq_bind, Option.bind_eq_some_iff, toOption_eq_some] at h
  obtain ⟨hbind, v, hv, content, hcontent, -, -⟩ := h
  have hfound : ∀ a ∈ s'.address, a.isCurrent = true → a.client = some key' →
      sql.same v.text a.ext.text = true → sql.same ext a.ext.text = true :=
    fun a ha hcur hclient => hstored a ha hcur key' hclient hkey' v
      (sql.textOf_str.mp (sql.text_eq_ok.mp hv))
  have hinsert : ∀ s : Shop, (∀ a ∈ s.address, a.isCurrent = true → a.client = some key' →
      sql.same v.text a.ext.text = false) →
      ∃ r', insertAddress sql key' (.str ext) (addressContent address) s = some r' := by
    intro s hfree
    have hfresh : ¬ (s.address.any fun a => a.isCurrent && a.client = some key' &&
        sql.same v.text a.ext.text) = true := by
      simpa using hfree
    simp only [insertAddress, hbind, if_true, hv, hcontent, Except.toOption, Option.bind_eq_bind,
      Option.bind_some, if_neg hfresh]
    exact ⟨_, rfl⟩
  simp only [upsertAddress, hext, Except.toOption, currentVersions_str, Option.bind_eq_bind,
    Option.bind_some]
  split
  · rename_i hnil
    refine hinsert s' fun a ha hcur hclient => ?_
    by_contra hsame
    have hmem : a ∈ ((s'.address.filter fun a => a.client = some key').filter fun a =>
        sql.same ext a.ext.text).filter (·.isCurrent) := by
      simp [ha, hcur, hclient, hfound a ha hcur hclient (Bool.not_eq_false _ ▸ hsame)]
    rw [hnil] at hmem
    cases hmem
  · rename_i a rest hcons
    split_ifs with hsame
    · exact ⟨_, rfl⟩
    · have hmem : a ∈ ((s'.address.filter fun a => a.client = some key').filter fun a =>
          sql.same ext a.ext.text).filter (·.isCurrent) := by
        rw [hcons]
        exact List.mem_cons_self
      simp only [List.mem_filter, decide_eq_true_eq] at hmem
      obtain ⟨⟨⟨ha, haclient⟩, hasame⟩, hacur⟩ := hmem
      refine hinsert _ fun b' hb' hbcur hbclient => ?_
      obtain ⟨b, hb, rfl⟩ := List.mem_map.mp hb'
      split_ifs at hbcur hbclient ⊢ with hexpired
      -- a version left current under the id would be the one that is expired
      by_contra hbsame
      have hbfound := hfound b hb hbcur hbclient (Bool.not_eq_false _ ▸ hbsame)
      have hsame' := (sql.same_iff.mp hbfound).symm.trans (sql.same_iff.mp hasame)
      exact hexpired ⟨hbclient.trans haclient.symm, hcurrent b hb a ha hbcur hacur
        (hbclient.trans haclient.symm) (sql.same_iff.mpr hsame'), hbcur⟩

/-- The parameters of an order hold its number. -/
lemma externalOrderId_eq {order : Json} {p : OrderParams}
    (hnumber : order.getItem "external_order_id" = .ok (.str number))
    (hp : orderParams order = .ok p) : p.externalOrderId = .str number := by
  simp only [orderParams, hnumber, bind_eq_ok, Except.ok.injEq] at hp
  obtain ⟨_, rfl, _, -, _, -, _, -, rfl⟩ := hp
  rfl

/-- An order is inserted under what the column stores of its number, which was free. -/
lemma insertOrder_number {address : AddressKey} {order : Json}
    (hnumber : order.getItem "external_order_id" = .ok (.str number)) {r : Varchar 64 × Shop}
    (h : insertOrder sql key address order s = some r) :
    ∃ row : OrderInfo, sql.stored 64 (.text number) = some row.ext ∧
      (∀ q ∈ s.orders, sql.same row.ext.text q.ext.text = false) ∧
      r.2 = { s with orders := s.orders ++ [row] } := by
  simp only [insertOrder, addOrder, Option.ite_none_right_eq_some, Option.ite_none_left_eq_some,
    Option.bind_eq_bind, Option.bind_eq_some_iff, toOption_eq_some] at h
  obtain ⟨p, hp, -, v, hv, total, -, currency, -, date, -, hfresh, hr⟩ := h
  cases hr
  exact ⟨_, sql.textOf_str.mp (externalOrderId_eq hnumber hp ▸ sql.text_eq_ok.mp hv),
    by simpa using hfresh, rfl⟩

/-- An order that could be inserted can be inserted where its number is free. -/
lemma insertOrder_of_free {address address' : AddressKey} {order : Json}
    (hnumber : order.getItem "external_order_id" = .ok (.str number))
    (hfree : ∀ v : Varchar 64, sql.stored 64 (.text number) = some v →
      ∀ o ∈ s'.orders, sql.same v.text o.ext.text = false) {r : Varchar 64 × Shop}
    (h : insertOrder sql key address order s = some r) :
    ∃ r', insertOrder sql key' address' order s' = some r' := by
  simp only [insertOrder, addOrder, Option.ite_none_right_eq_some, Option.ite_none_left_eq_some,
    Option.bind_eq_bind, Option.bind_eq_some_iff, toOption_eq_some] at h ⊢
  obtain ⟨p, hp, hbind, v, hv, total, htotal, currency, hcurrency, date, hdate, -, -⟩ := h
  refine ⟨_, p, hp, hbind, v, hv, total, htotal, currency, hcurrency, date, hdate, ?_, rfl⟩
  simpa using hfree v (sql.textOf_str.mp (externalOrderId_eq hnumber hp ▸ sql.text_eq_ok.mp hv))

/-- The ledger takes an id that is free. -/
lemma claim_of_free {id : String} {eventType : Json}
    (hfree : ∀ v : Varchar 100, sql.stored 100 (.text id) = some v →
      ∀ e ∈ s'.ledger, sql.same v.text e.eventId.text = false)
    (h : claim sql (.str id) eventType s = some t) :
    ∃ row, claim sql (.str id) eventType s' = some { s' with ledger := s'.ledger ++ [row] } := by
  simp only [claim, Option.ite_none_right_eq_some, Option.ite_none_left_eq_some,
    Option.bind_eq_bind, Option.bind_eq_some_iff, toOption_eq_some] at h ⊢
  obtain ⟨hbind, v, hv, type, htype, -, -⟩ := h
  refine ⟨_, hbind, v, hv, type, htype, ?_, rfl⟩
  simpa using hfree v (sql.textOf_str.mp (sql.text_eq_ok.mp hv))

/-- The client that an order of an unknown client has created has no addresses so far. -/
lemma Unknown.address_ne (hnew : Unknown sql client s) (hkey : sql.same client key.text = true) :
    ∀ a ∈ s.address, a.client ≠ some key := by
  intro a ha heq
  rw [hnew.address a ha key heq] at hkey
  cases hkey

lemma Unknown.claim {eventId eventType : Json} (hnew : Unknown sql client s)
    (h : claim sql eventId eventType s = some t) : Unknown sql client t := by
  simp only [Shop.claim, Option.ite_none_right_eq_some, Option.ite_none_left_eq_some,
    Option.bind_eq_bind, Option.bind_eq_some_iff] at h
  obtain ⟨-, _, -, _, -, -, ht⟩ := h
  cases ht
  exact ⟨hnew.clients, hnew.address⟩

/-- An order of a client that is not known is accepted in any state where its ids are free, once it
is accepted anywhere. -/
lemma accepted_of_free {o : OrderEvent} {id : String} (hid : o.eventId = .str id)
    (hclient : o.params.externalClientId = .str client) (hfinds : sql.Finds 64 client)
    (hnumber : o.data.getItem "external_order_id" = .ok (.str number))
    (hnew : Unknown sql client s) (hcurrent : CurrentOnce sql s'.address)
    (hstored : FindsStored sql client o.externalAddressId s'.address)
    (hledger : ∀ v : Varchar 100, sql.stored 100 (.text id) = some v →
      ∀ e ∈ s'.ledger, sql.same v.text e.eventId.text = false)
    (horders : ∀ v : Varchar 64, sql.stored 64 (.text number) = some v →
      ∀ q ∈ s'.orders, sql.same v.text q.ext.text = false)
    (h : Shop.event sql o.event o.eventId s = some t) :
    ∃ t', Shop.event sql o.event o.eventId s' = some t' := by
  simp only [event, process, Option.bind_eq_bind, Option.bind_eq_some_iff, toOption_eq_some,
    o.eventId_eq, o.eventType_eq, o.data_eq, Except.ok.injEq, exists_eq_left', effect,
    Json.isText_iff, if_true, orderCreated, o.client_eq, o.address_eq, upsertClient,
    o.params_eq, hid] at h ⊢
  obtain ⟨s₁, ⟨s₀, hclaim, r₁, hmerge, r₂, haddress, r₃, horder, items, hitems, s₄, hinsert,
    hrecord⟩, -⟩ := h
  have hnew₀ : Unknown sql client s₀ := hnew.claim hclaim
  obtain ⟨row, hclaim'⟩ := claim_of_free hledger hclaim
  obtain ⟨hsame, r₁', hmerge', hsame'⟩ : sql.same client r₁.1.text = true ∧ ∃ r',
      mergeClient sql o.params { s' with ledger := s'.ledger ++ [row] } = some r' ∧
        sql.same client r'.1.text = true :=
    mergeClient_of_unknown hclient hfinds hnew₀ hmerge
  have haddress₁ : r₁.2.address = s₀.address := (mergeClient_frame hmerge).1
  have haddress₁' : r₁'.2.address = s'.address := (mergeClient_frame hmerge').1
  have horders₁' : r₁'.2.orders = s'.orders := (mergeClient_frame hmerge').2.1
  obtain ⟨r₂', haddress'⟩ := upsertAddress_of_unknown o.externalAddressId_eq
    (haddress₁ ▸ hnew₀.address_ne hsame) hsame' (haddress₁' ▸ hcurrent) (haddress₁' ▸ hstored)
    haddress
  have horders₂' : r₂'.2.orders = s'.orders := (upsertAddress_frame haddress').1.trans horders₁'
  obtain ⟨r₃', horder'⟩ := insertOrder_of_free hnumber (horders₂' ▸ horders) horder
  obtain ⟨s₄', hinsert'⟩ := insertItems_later hinsert
  obtain ⟨t', hrecord'⟩ := recordHistory_later hrecord
  have hmark : ∃ t'', mark sql (.str id) t' = some t'' := by
    have hselect : selectRows (ledgerNamed sql (.str id)) t'.ledger = .ok _ :=
      sql.selectRows_str _ _ _ _
    simp only [mark, List.all_cons, Json.bindable, List.all_nil, Bool.and_self, if_true, hselect,
      Except.toOption, Option.bind_eq_bind, Option.bind_some]
    exact ⟨_, rfl⟩
  obtain ⟨t'', hmark⟩ := hmark
  exact ⟨t'', t', ⟨_, hclaim', r₁', hmerge', r₂', haddress', r₃', horder', items, hitems, s₄',
    hinsert', hrecord'⟩, hmark⟩

/-- What an accepted order of a client that is not known adds to the ids: `id`, `number` and
`address`, which the first two were free. -/
structure Adds (sql : SqlServer) (s t : Shop) (id : Varchar 100) (number address : Varchar 64) :
    Prop where
  id_free : ∀ e ∈ s.ledger, sql.same id.text e.eventId.text = false
  number_free : ∀ q ∈ s.orders, sql.same number.text q.ext.text = false
  ledger : ∀ e ∈ t.ledger, (∃ e' ∈ s.ledger, e'.eventId = e.eventId) ∨ e.eventId = id
  orders : ∀ q ∈ t.orders, q ∈ s.orders ∨ q.ext = number
  address : ∀ a ∈ t.address, a ∈ s.address ∨ a.ext = address

lemma adds_of_event {o : OrderEvent} {id : String} (hid : o.eventId = .str id)
    (hclient : o.params.externalClientId = .str client) (hfinds : sql.Finds 64 client)
    (hnumber : o.data.getItem "external_order_id" = .ok (.str number))
    (hnew : Unknown sql client s) (h : Shop.event sql o.event o.eventId s = some t) :
    ∃ (v : Varchar 100) (w x : Varchar 64), sql.stored 100 (.text id) = some v ∧
      sql.stored 64 (.text number) = some w ∧ sql.stored 64 (.text o.externalAddressId) = some x ∧
      Adds sql s t v w x := by
  simp only [event, process, Option.bind_eq_bind, Option.bind_eq_some_iff, toOption_eq_some,
    o.eventId_eq, o.eventType_eq, o.data_eq, Except.ok.injEq, exists_eq_left', effect,
    Json.isText_iff, if_true, orderCreated, o.client_eq, o.address_eq, upsertClient,
    o.params_eq, hid] at h
  obtain ⟨s₁, ⟨s₀, hclaim, r₁, hmerge, r₂, haddress, r₃, horder, items, hitems, s₄, hinsert,
    hrecord⟩, hmark⟩ := h
  have hnew₀ : Unknown sql client s₀ := hnew.claim hclaim
  obtain ⟨hsame, -⟩ := @mergeClient_of_unknown _ _ s₀ _ _ hclient hfinds hnew₀ _ hmerge
  obtain ⟨haddress₁, horders₁, hledger₁⟩ := mergeClient_frame hmerge
  obtain ⟨version, hr₂, hversion⟩ := insertAddress_row (upsertAddress_new o.externalAddressId_eq
    (haddress₁ ▸ hnew₀.address_ne hsame) haddress)
  obtain ⟨row, hnumber', hfree, hr₃⟩ := insertOrder_number hnumber horder
  obtain ⟨rows, rfl⟩ := insertItems_rows hinsert
  obtain ⟨history, rfl⟩ := recordHistory_rows hrecord
  simp only [claim, Option.ite_none_right_eq_some, Option.ite_none_left_eq_some,
    Option.bind_eq_bind, Option.bind_eq_some_iff, toOption_eq_some] at hclaim
  obtain ⟨-, v, hv, type, -, hfresh, hs₀⟩ := hclaim
  cases hs₀
  simp only [mark, Option.ite_none_right_eq_some, Option.bind_eq_bind,
    Option.bind_eq_some_iff] at hmark
  obtain ⟨-, named, -, ht⟩ := hmark
  cases ht
  simp only [hr₂, horders₁] at hfree
  refine ⟨v, row.ext, version.ext, sql.textOf_str.mp (sql.text_eq_ok.mp hv), hnumber', hversion,
    by simpa using hfresh, hfree, fun e he => ?_, fun q hq => ?_, fun a ha => ?_⟩
  · simp only [hr₃, hr₂, hledger₁] at he
    obtain ⟨e', he', rfl⟩ := List.mem_map.mp he
    have hid' : (if holds (ledgerNamed sql (.str id) e') then { e' with processed := true }
        else e').eventId = e'.eventId := by
      split_ifs <;> rfl
    rw [hid']
    rcases List.mem_append.mp he' with hmem | hmem
    · exact .inl ⟨e', hmem, rfl⟩
    · rw [List.mem_singleton.mp hmem]
      exact .inr rfl
  · simp only [hr₃, hr₂, horders₁] at hq
    rcases List.mem_append.mp hq with hmem | hmem
    · exact .inl hmem
    · rw [List.mem_singleton.mp hmem]
      exact .inr rfl
  · simp only [hr₃, hr₂, haddress₁] at ha
    rcases List.mem_append.mp ha with hmem | hmem
    · exact .inl hmem
    · rw [List.mem_singleton.mp hmem]
      exact .inr rfl

/-- The columns store the ids of the second order so that they are told from those of the first one,
and what they are stored as is found. -/
structure StoredApart (sql : SqlServer) (o o' : OrderEvent) : Prop where
  eventIds : ∀ v w : Varchar 100, sql.TextOf o.eventId v → sql.TextOf o'.eventId w →
    sql.same w.text v.text = false
  numbers : ∀ number number', o.data.getItem "external_order_id" = .ok number →
    o'.data.getItem "external_order_id" = .ok number' → ∀ v w : Varchar 64,
      sql.TextOf number v → sql.TextOf number' w → sql.same w.text v.text = false
  addresses : ∀ v w : Varchar 64, sql.TextOf (.str o.externalAddressId) v →
    sql.TextOf (.str o'.externalAddressId) w → sql.same w.text v.text = true →
      sql.same o'.externalAddressId v.text = true

/-- Of two orders that could be the first one of a client, the second one is accepted after the
first. -/
lemma accepted_after {o o' : OrderEvent} {id id' number' : String} {t' : Shop}
    (hid : o.eventId = .str id) (hid' : o'.eventId = .str id')
    (hnumber : o.data.getItem "external_order_id" = .ok (.str number))
    (hnumber' : o'.data.getItem "external_order_id" = .ok (.str number'))
    (hclient : o.params.externalClientId = .str client)
    (hclient' : o'.params.externalClientId = .str client) (hfinds : sql.Finds 64 client)
    (hapart : StoredApart sql o o') (hnew : Unknown sql client s)
    (hcurrent : CurrentOnce sql t.address)
    (h : Shop.event sql o.event o.eventId s = some t)
    (h' : Shop.event sql o'.event o'.eventId s = some t') :
    ∃ t'', Shop.event sql o'.event o'.eventId t = some t'' := by
  obtain ⟨v, w, x, hv, hw, hx, hadds⟩ := adds_of_event hid hclient hfinds hnumber hnew h
  obtain ⟨v', w', x', hv', hw', hx', hadds'⟩ := adds_of_event hid' hclient' hfinds hnumber' hnew h'
  refine accepted_of_free hid' hclient' hfinds hnumber' hnew hcurrent ?_ ?_ ?_ h'
  · intro a ha _ key hkey hsame y hy hya
    rcases hadds.address a ha with hmem | heq
    · exact absurd hkey (hnew.address_ne hsame a hmem)
    · rw [heq] at hya ⊢
      exact hapart.addresses x y (sql.textOf_str.mpr hx) (sql.textOf_str.mpr hy) hya
  · intro y hy e he
    obtain rfl := Option.some.inj (hv'.symm.trans hy)
    rcases hadds.ledger e he with ⟨e', he', heq⟩ | heq
    · exact heq ▸ hadds'.id_free e' he'
    · rw [heq]
      exact hapart.eventIds v v' (hid ▸ sql.textOf_str.mpr hv) (hid' ▸ sql.textOf_str.mpr hv')
  · intro y hy q hq
    obtain rfl := Option.some.inj (hw'.symm.trans hy)
    rcases hadds.orders q hq with hmem | heq
    · exact hadds'.number_free q hmem
    · rw [heq]
      exact hapart.numbers _ _ hnumber hnumber' w w' (sql.textOf_str.mpr hw) (sql.textOf_str.mpr hw')

end Shop

/-! ### The database -/

section Database

variable {sql : SqlServer} {db : Database} {client : String}

lemma unknown_shop (hnew : db.clientsNamed sql (.str client) = []) :
    Shop.Unknown sql client db.shop := by
  have hclients : ∀ c ∈ db.clients, sql.same client c.externalClientId.text = false := by
    intro c hmem
    by_contra hsame
    have hnamed : c ∈ db.clientsNamed sql (.str client) := by
      refine List.mem_filter.mpr ⟨hmem, ?_⟩
      simpa [SqlServer.matchesClient, SqlServer.compare_str, holds] using hsame
    rw [hnew] at hnamed
    cases hnamed
  constructor
  · intro info hinfo
    obtain ⟨c, hmem, rfl⟩ := List.mem_map.mp hinfo
    exact hclients c hmem
  · intro info hinfo key hkey
    obtain ⟨a, hmem, rfl⟩ := List.mem_map.mp hinfo
    obtain ⟨c, hcmem, -, hext⟩ := lookupBy_eq_some hkey
    exact hext ▸ hclients c hcmem

lemma Consistent.currentOnce (hc : Consistent sql db) :
    Shop.CurrentOnce sql db.shop.address := by
  intro a ha b hb hacur hbcur hclient hsame
  obtain ⟨x, hx, rfl⟩ := List.mem_map.mp ha
  obtain ⟨y, hy, rfl⟩ := List.mem_map.mp hb
  obtain ⟨c, hcmem, hcid : c.clientId = x.clientId⟩ := hc.addressClient x hx
  have hkey := hc.clientKey_mem hcmem
  rw [hcid] at hkey
  have hids := hc.clientKey_inj hkey (hclient.symm.trans hkey)
  rw [hc.current.eq_of_current hx hy hacur hbcur hids hsame]

/-- Where nothing goes wrong, the order is stored. -/
def Accepted (sql : SqlServer) (o : OrderEvent) (db : Database) : Prop :=
  ∀ attempt : Attempt, attempt.Undisturbed →
    ∃ outbox db', runInTxn sql attempt o.event o.eventId db = (.ok outbox, db')

lemma accepted_iff {o : OrderEvent} (hc : Consistent sql db) (hplain : PlainEvent o.event) :
    Accepted sql o db ↔ ∃ s, Shop.event sql o.event o.eventId db.shop = some s := by
  constructor
  · intro h
    by_contra hnone
    obtain ⟨outbox, db', hrun⟩ := h .healthy Attempt.undisturbed_healthy
    obtain ⟨x, hrefused⟩ := Attempt.undisturbed_healthy.refused hc hplain
      (Option.not_isSome_iff_eq_none.mp fun hsome => hnone (Option.isSome_iff_exists.mp hsome))
    rw [hrefused] at hrun
    cases hrun
  · rintro ⟨s, hs⟩ attempt hu
    obtain ⟨outbox, db', hrun, -⟩ := hu.accepted hc hplain hs
    exact ⟨outbox, db', hrun⟩

end Database

end EventPipeline

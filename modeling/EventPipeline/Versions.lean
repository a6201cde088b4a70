import EventPipeline.Library.Growth
import EventPipeline.Library.Versions
import EventPipeline.Consistency

/-!
# The versions of an address

`upsert_current_address` keeps every version of an address: it reuses the current one if the
payload says the same, and otherwise expires it and inserts the next one in the same
transaction. So the latest version of each address is the current one, and a version changes once,
when it is expired; neighbours differ where the columns store what they are given
(`address_versions`).
-/

namespace EventPipeline

open Transaction

variable {sql : SqlServer} {db db' : Database} {event eventId eventType data : Json}
  {outbox : Option Outbox}

/-! ### Replacements -/

/-- The `ORDER_CREATED` event says something else than `current`, which is the version of its
address in the state; `ext` is its external address id. -/
def Replaces (sql : SqlServer) (event : Json) (db : Database) (ext : Json) (current : Address) :
    Prop :=
  ∃ data client address p c, event.getItem "data" = .ok data ∧
    data.getItem "client" = .ok client ∧ data.getItem "address" = .ok address ∧
    address.getItem "external_address_id" = .ok ext ∧ clientParams client = .ok p ∧
    (db.clientsNamed sql p.externalClientId).head? = some c ∧
    (db.currentAddresses sql c.clientId ext).head? = some current ∧
    unchanged current (addressContent address) = false

/-- A new client has no addresses. -/
lemma ClientUpserted.named_of_address {p : ClientParams} {clientId : ℕ} (hc : Consistent sql db)
    (h : ClientUpserted sql p db clientId db') {a : Address} (ha : a ∈ db.address)
    (hclient : a.clientId = clientId) :
    ∃ c, (db.clientsNamed sql p.externalClientId).head? = some c ∧ c.clientId = clientId := by
  cases h with
  | updated named => exact ⟨_, named, rfl⟩
  | inserted _ _ _ _ _ _ id_le =>
    obtain ⟨c, hc', hid⟩ := hc.addressClient a ha
    exact absurd (hid.trans hclient) (hc.clientIds.key_ne id_le hc')

/-! ### Texts -/

/-- A string or null. -/
def Json.TextOrNull : Json → Prop
  | .str _ => True
  | .null => True
  | _ => False

/-- The string, null being the empty one. -/
def Json.textD : Json → String
  | .str s => s
  | _ => ""

/-- The address of an `ORDER_CREATED` event has strings or nulls in its fields. -/
def TextAddress (event : Json) : Prop :=
  event.getItem "event_type" = .ok (.str "ORDER_CREATED") →
    ∀ data address, event.getItem "data" = .ok data → data.getItem "address" = .ok address →
      (∀ ext, address.getItem "external_address_id" = .ok ext → ext.TextOrNull) ∧
        ∀ f, (addressContent address f).TextOrNull

/-- The columns do not alter the texts of the fields. -/
def KeptContent (sql : SqlServer) (content : AddressField → Json) : Prop :=
  ∀ f t, content f = .str t → sql.Preserves f.width t

/-- The columns do not alter the address of an `ORDER_CREATED` event. -/
def KeptAddress (sql : SqlServer) (event : Json) : Prop :=
  event.getItem "event_type" = .ok (.str "ORDER_CREATED") →
    ∀ data address, event.getItem "data" = .ok data → data.getItem "address" = .ok address →
      KeptContent sql (addressContent address)

lemma textD_of_contentColumn {f : AddressField} {p : Json} (hp : p.TextOrNull)
    (hkept : ∀ t, p = .str t → sql.Preserves f.width t) {v : Option String}
    (h : sql.contentColumn f p = .ok v) : v.getD "" = p.textD := by
  simp only [SqlServer.contentColumn, bind_eq_ok, SqlServer.varchar_eq_ok] at h
  obtain ⟨w, hw, h⟩ := h
  split_ifs at h
  cases h
  cases p with
  | null =>
    rcases hw with ⟨-, rfl⟩ | ⟨w, rfl, s, hs, -⟩
    · rfl
    · cases hs
  | str s =>
    rcases hw with ⟨hs, -⟩ | ⟨w, rfl, hw⟩
    · cases hs
    · exact hkept s rfl w (sql.textOf_str.mp hw)
  | bool b => exact absurd hp id
  | num n => exact absurd hp id
  | arr items => exact absurd hp id
  | obj fields => exact absurd hp id

/-- The comparison of `upsert_current_address` identifies NULL with the empty string. -/
lemma sameField_iff {p : Json} (hp : p.TextOrNull) (current : Option String) :
    sameField current p = true ↔ current.getD "" = p.textD := by
  cases p with
  | null =>
    cases current with
    | none => simp [sameField, Json.truthy, Json.textD]
    | some s => by_cases hs : s = "" <;> simp [sameField, Json.truthy, Json.textD, hs]
  | str t =>
    cases current with
    | none => simp [sameField, Json.truthy, Json.textD, eq_comm]
    | some s =>
      by_cases hs : s = ""
      · subst hs
        simp [sameField, Json.truthy, Json.textD, eq_comm]
      · rw [sameField, if_neg hs, Json.isText_iff, Json.str.injEq]
        exact eq_comm
  | bool b => exact absurd hp id
  | num n => exact absurd hp id
  | arr items => exact absurd hp id
  | obj fields => exact absurd hp id

/-! ### Versions -/

/-- The address `a` is a version of, external ids being compared under the collation. -/
def Address.identity (sql : SqlServer) (a : Address) : ℕ × String :=
  (a.clientId, sql.key a.externalAddressId.text)

/-- Two versions of one address. -/
def SameAddress (sql : SqlServer) (a b : Address) : Prop :=
  a.clientId = b.clientId ∧ sql.same a.externalAddressId.text b.externalAddressId.text = true

/-- One of the compared fields differs, NULL being the empty string. -/
def Differs (a b : Address) : Prop :=
  ∃ f, (a.content f).getD "" ≠ (b.content f).getD ""

lemma identity_eq_iff {a b : Address} : a.identity sql = b.identity sql ↔ SameAddress sql a b := by
  simp [Address.identity, SameAddress, SqlServer.same]

lemma AddressRow.identity_ne {clientId : ℕ} {ext : Json} {content : AddressField → Json}
    {row : Address} (h : AddressRow sql clientId ext content db row) :
    ∀ a ∈ db.address, a.isCurrent = true → a.identity sql ≠ row.identity sql := by
  intro a ha hcurrent heq
  obtain ⟨hclient, hsame⟩ := identity_eq_iff.mp heq
  have hne := h.unique a ha hcurrent (hclient.trans h.clientId_eq)
  rw [sql.same_comm, hsame] at hne
  cases hne

/-- Each address has a current version, its last, and that one alone is not expired. -/
structure VersionsInv (sql : SqlServer) (rows : List Address) : Prop where
  table : VersionTable (·.isCurrent) Differs (·.identity sql) rows
  validTo : ∀ a ∈ rows, a.validTo = none ↔ a.isCurrent = true

namespace VersionsInv

lemma nil : VersionsInv sql [] :=
  ⟨.nil, by simp⟩

variable {clientId id : ℕ} {ext : Json} {content : AddressField → Json}

lemma mem_currentAddresses {a : Address} : a ∈ db.currentAddresses sql clientId ext ↔
    a ∈ db.address ∧ a.clientId = clientId ∧ sql.matchesAddress ext a = .ok true ∧
      a.isCurrent = true := by
  simp only [Database.currentAddresses, List.mem_filter, decide_eq_true_eq, holds_iff]
  tauto

/-- The version inserted after an expired one differs from it. -/
lemma differs_of_changed {current row : Address} (hcontent : ∀ f, (content f).TextOrNull)
    (hkept : KeptContent sql content) (hrow : AddressRow sql clientId ext content db row)
    (h : unchanged current content = false) : Differs current row := by
  obtain ⟨f, -, hf⟩ := List.all_eq_false.mp h
  refine ⟨f, fun heq => hf ?_⟩
  rw [sameField_iff (hcontent f), heq, textD_of_contentColumn (hcontent f) (hkept f) (hrow.content f)]

lemma upsertAddress (h : VersionsInv sql db.address) (hc : Consistent sql db)
    (hcontent : ∀ f, (content f).TextOrNull)
    (hreplaced : ∀ current, (db.currentAddresses sql clientId ext).head? = some current →
      unchanged current content = false →
      (∀ v : Varchar 64, sql.TextOf ext v →
        sql.same current.externalAddressId.text v.text = true) ∧ KeptContent sql content)
    (ha : AddressUpserted sql clientId ext content db id db') : VersionsInv sql db'.address := by
  cases ha with
  | reused selected same => exact h
  | @inserted row selected hrow =>
    constructor
    · refine h.table.append hrow.isCurrent fun a ha hsame => ?_
      by_contra hcur
      exact hrow.identity_ne a ha (by simpa using hcur) hsame
    · intro a ha
      rcases List.mem_append.mp ha with ha | ha
      · exact h.validTo a ha
      · rw [List.mem_singleton.mp ha]
        simp [hrow.validTo, hrow.isCurrent]
  | @replaced current row now selected changed hrow =>
    obtain ⟨hmem, hclient, -, hcur⟩ := mem_currentAddresses.mp (List.mem_of_mem_head? selected)
    obtain ⟨hsame, hkept⟩ := hreplaced current selected changed
    constructor
    · refine h.table.replace hc.addressIds.increasing hmem hcur (f := (·.expire now)) (fun _ => rfl)
        rfl (fun _ => id) (differs_of_changed hcontent hkept hrow changed) ?_ hrow.isCurrent
      exact (identity_eq_iff.mpr ⟨hclient.trans hrow.clientId_eq.symm,
        hsame _ hrow.ext⟩).symm
    · intro a ha
      rcases List.mem_append.mp ha with ha | ha
      · obtain ⟨b, hb, rfl⟩ := List.mem_map.mp ha
        split_ifs
        · simp [Address.expire]
        · exact h.validTo b hb
      · rw [List.mem_singleton.mp ha]
        simp [hrow.validTo, hrow.isCurrent]

end VersionsInv

/-! ### Events -/

/-- An event leaves the addresses alone, or it creates an order, and they are what
`upsert_current_address` made of them. -/
lemma addresses_of_runs (h : Runs sql.engine (eventTxn event eventId) db outbox db') :
    db'.address = db.address ∨
      ∃ data client address ext p clientId id db₀ db₁ db₂,
        event.getItem "event_type" = .ok (.str "ORDER_CREATED") ∧
        event.getItem "data" = .ok data ∧ data.getItem "client" = .ok client ∧
        clientParams client = .ok p ∧ data.getItem "address" = .ok address ∧
        address.getItem "external_address_id" = .ok ext ∧
        ClientUpserted sql p { db with processedEvents := db₀ } clientId db₁ ∧
        AddressUpserted sql clientId ext (addressContent address) db₁ id db₂ ∧
        db₁.address = db.address ∧ db'.address = db₂.address := by
  obtain ⟨_, eventType, data, row, db₁, now, hcom, rfl⟩ := committed_of_runs h
  cases hcom.processed with
  | created type_eq client_eq address_eq _ hp hclient hext haddress _ _ hitems _ =>
    refine .inr ⟨data, _, _, _, _, _, _, _, _, _, type_eq ▸ hcom.eventType_eq, hcom.data_eq,
      client_eq, hp, address_eq, hext, hclient, haddress, ?_, ?_⟩
    · rw [hclient.frame]
    · exact congrArg (·.address) (created_frame hclient haddress hitems)
  | statusChanged => exact .inl rfl
  | paid _ _ _ _ hpayment => exact .inl (congrArg (·.address) hpayment.frame)
  | invoiced _ _ _ _ hinvoice => exact .inl (congrArg (·.address) hinvoice.frame)
  | unknownOrder => exact .inl rfl
  | unknownType => exact .inl rfl

/-- Where an event replaces a version, the columns store the new one as the payload gives it, and
under the external id of the old one. -/
def ReplacedAsGiven (sql : SqlServer) (event : Json) (db : Database) : Prop :=
  ∀ ext current, Replaces sql event db ext current →
    (∀ v : Varchar 64, sql.TextOf ext v →
      sql.same current.externalAddressId.text v.text = true) ∧
    ∀ data address, event.getItem "data" = .ok data → data.getItem "address" = .ok address →
      KeptContent sql (addressContent address)

lemma VersionsInv.step (h : VersionsInv sql db.address) (hc : Consistent sql db)
    (htext : TextAddress event) (hgiven : ReplacedAsGiven sql event db)
    (hrun : Runs sql.engine (eventTxn event eventId) db outbox db') :
    VersionsInv sql db'.address := by
  rcases addresses_of_runs hrun with heq | ⟨data, client, address, ext, p, clientId, id, _, db₁, db₂,
    htype, hdata, hc', hp, haddress, hext, hclient, hupsert, heq₁, heq₂⟩
  · rw [heq]
    exact h
  rw [heq₂]
  refine VersionsInv.upsertAddress (heq₁ ▸ h) ((hc.ledger _).upsertClient hclient)
    (htext htype data address hdata haddress).2 (fun current hselected hchanged => ?_) hupsert
  obtain ⟨hmem, hclientId, -, -⟩ := mem_currentAddresses.mp (List.mem_of_mem_head? hselected)
  rw [heq₁] at hmem
  obtain ⟨c, hnamed, rfl⟩ := ClientUpserted.named_of_address (hc.ledger _) hclient hmem hclientId
  have hreplaces : Replaces sql event db ext current := by
    refine ⟨data, client, address, p, c, hdata, hc', haddress, hext, hp, hnamed, ?_, hchanged⟩
    rw [← hselected]
    simp only [Database.currentAddresses, heq₁]
  obtain ⟨hsame, hkept⟩ := hgiven ext current hreplaces
  exact ⟨hsame, hkept data address hdata haddress⟩

/-- What becomes of a version: at most, the current one is expired. -/
def Address.Kept (a a' : Address) : Prop :=
  a' = a ∨ a.isCurrent = true ∧ ∃ now, a' = a.expire now

lemma Address.Kept.trans {a a' a'' : Address} (h : a.Kept a') (h' : a'.Kept a'') : a.Kept a'' := by
  rcases h with rfl | ⟨hcur, now, rfl⟩
  · exact h'
  · rcases h' with rfl | ⟨hcur', -⟩
    · exact .inr ⟨hcur, now, rfl⟩
    · cases hcur'

lemma grows_of_upsertAddress {clientId id : ℕ} {ext : Json} {content : AddressField → Json}
    (hc : Consistent sql db) (h : AddressUpserted sql clientId ext content db id db') :
    Grows Address.Kept db.address db'.address := by
  have hself : ∀ a : Address, a.Kept a := fun a => .inl rfl
  cases h with
  | reused => exact .refl hself _
  | inserted => exact .append hself _ _
  | @replaced current row now selected =>
    obtain ⟨hmem, -, -, hcur⟩ := VersionsInv.mem_currentAddresses.mp
      (List.mem_of_mem_head? selected)
    refine Grows.trans (fun _ _ _ => Address.Kept.trans) (.map_self fun a ha => ?_)
      (.append hself _ _)
    split_ifs with hid
    · obtain rfl := hc.addressIds.eq_of_key_eq ha hmem hid
      exact .inr ⟨hcur, now, rfl⟩
    · exact hself a

lemma grows_of_runs (hc : Consistent sql db)
    (h : Runs sql.engine (eventTxn event eventId) db outbox db') :
    Grows Address.Kept db.address db'.address := by
  rcases addresses_of_runs h with heq | ⟨data, client, address, ext, p, clientId, id, _, db₁, db₂, -,
    -, -, -, -, -, hclient, hupsert, heq₁, heq₂⟩
  · rw [heq]
    exact .refl (fun a => .inl rfl) _
  · rw [← heq₁, heq₂]
    exact grows_of_upsertAddress ((hc.ledger _).upsertClient hclient) hupsert

lemma Fleet.Reachable.versions {ext : Externals} {f : Fleet}
    (h : Fleet.Reachable ext (fun db call =>
      TextAddress call.event ∧ ReplacedAsGiven ext.sql call.event db) f) :
    VersionsInv ext.sql f.world.db.address :=
  (h.db_invariant (I := fun db => Consistent ext.sql db ∧ VersionsInv ext.sql db.address)
    ⟨.empty _, .nil⟩ fun _ _ _ _ ha ⟨hc, hv⟩ hrun =>
      ⟨hc.step hrun, hv.step hc ha.1 ha.2 hrun⟩).2

/-- Later states have the versions of earlier ones. -/
lemma Fleet.Reachable.grows {ext : Externals} {allowed : Database → Call → Prop} {f f' : Fleet}
    (h : Fleet.Reachable ext allowed f)
    (hs : Relation.ReflTransGen (Fleet.Step ext fun _ _ => True) f f') :
    Grows Address.Kept f.world.db.address f'.world.db.address := by
  refine (Fleet.db_preserved (I := fun db => Consistent ext.sql db ∧
    Grows Address.Kept f.world.db.address db.address) (fun _ db outbox db' _ hdb hrun => ?_) hs
    ⟨h.consistent, .refl (fun a => .inl rfl) _⟩).2
  exact ⟨hdb.1.step hrun, hdb.2.trans (fun _ _ _ => Address.Kept.trans) (grows_of_runs hdb.1 hrun)⟩

/-- The address of the sample orders. -/
def sampleAddress (address : String) (street : Json) : Json :=
  .obj [("external_address_id", .str address), ("street", street), ("number", .str "1"),
    ("neighborhood", .str "Centro"), ("city", .str "Recife"), ("state", .str "PE"),
    ("postal_code", .str "50000"), ("country", .str "BR")]

lemma textAddress_sampleAddress {data : Json} {address street : String}
    (hdata : event.getItem "data" = .ok data)
    (haddress : data.getItem "address" = .ok (sampleAddress address (.str street))) :
    TextAddress event := by
  rintro - data' address' hdata' haddress'
  cases hdata.symm.trans hdata'
  cases haddress.symm.trans haddress'
  refine ⟨fun ext hext => ?_, fun f => ?_⟩
  · cases hext
    trivial
  · cases f <;> trivial

lemma keptContent_sampleAddress {address street : String}
    (hstreet : sql.Preserves AddressField.street.width street) :
    KeptContent sql (addressContent (sampleAddress address (.str street))) := by
  intro f t hf
  cases f with
  | street =>
    cases hf
    exact hstreet
  | complement => cases hf
  | _ =>
    cases hf
    exact SqlServer.preserves_of_ascii (by decide) (by decide)

lemma textAddress_orderCreatedEvent (eventId order client address street : String) :
    TextAddress (orderCreatedEvent eventId order client address (.str street)) :=
  textAddress_sampleAddress rfl rfl

/-- The column stores a text as the external id of the version it selects. -/
lemma same_of_selected {clientId : ℕ} {t : String} {current : Address} {v : Varchar 64}
    (hfinds : sql.Finds 64 t)
    (hselected : (db.currentAddresses sql clientId (.str t)).head? = some current)
    (hv : sql.TextOf (.str t) v) : sql.same current.externalAddressId.text v.text = true := by
  obtain ⟨-, -, hmatch, -⟩ := VersionsInv.mem_currentAddresses.mp (List.mem_of_mem_head? hselected)
  rw [SqlServer.matchesAddress, SqlServer.compare_str, Except.ok.injEq] at hmatch
  rw [sql.same_congr hmatch]
  exact hfinds v (sql.textOf_str.mp hv)

lemma replacedAsGiven_orderCreatedEvent {eventId order client address street : String}
    (haddress : sql.Finds 64 address) (hstreet : sql.Preserves AddressField.street.width street) :
    ReplacedAsGiven sql (orderCreatedEvent eventId order client address (.str street)) db := by
  rintro ext current ⟨data, _, fields, _, _, hdata, -, hfields, hext, -, -, hselected, -⟩
  cases hdata
  cases hfields
  cases hext
  refine ⟨fun v => same_of_selected haddress hselected, fun data' fields' hdata' hfields' => ?_⟩
  cases hdata'
  cases hfields'
  exact keptContent_sampleAddress hstreet

/-- Two orders of one client, who has moved in between. -/
def movedOrders : List (Json × Json) :=
  [(orderCreatedEvent "e1" "o1" "c1" "a1" (.str "Rua A"), .str "e1"),
    (orderCreatedEvent "e2" "o2" "c1" "a1" (.str "Rua B"), .str "e2")]

lemma movedOrders_given (db : Database) :
    ∀ event ∈ movedOrders, TextAddress event.1 ∧ ReplacedAsGiven .plain event.1 db := by
  have haddress : SqlServer.plain.Preserves 64 "a1" :=
    SqlServer.preserves_of_ascii (by decide) (by decide)
  intro event hevent
  simp only [movedOrders, List.mem_cons, List.not_mem_nil, or_false] at hevent
  rcases hevent with rfl | rfl <;> exact ⟨textAddress_orderCreatedEvent _ _ _ _ _,
    replacedAsGiven_orderCreatedEvent haddress.finds
      (SqlServer.preserves_of_ascii (by decide) (by decide))⟩

end EventPipeline

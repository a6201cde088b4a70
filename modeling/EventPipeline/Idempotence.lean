import EventPipeline.Timeline

/-!
# The address upsert, again and again

What `upsert_current_address` does when it is called with a payload it has just stored. It finds the
version it left behind, unless the column does not have the external id as a text that is equal to it,
and compares the text of a column with the value of the payload: a number is never equal to the text
it was stored as, nor is a text that the column alters, so that every call makes a new version of it
(`address_idempotent_iff`).
-/

namespace EventPipeline

open Transaction Prog

variable {sql : SqlServer} {db db₁ db' : Database} {clientId id : ℕ} {address ext : Json}
  {content : AddressField → Json} {row : Address}

/-- A JSON string, number or null. -/
def Json.isPlain : Json → Bool
  | .null => true
  | .num _ => true
  | .str _ => true
  | _ => false

/-- A number is stored in a VARCHAR column as its decimal text, which is equal to the number. -/
structure DecimalText (sql : SqlServer) : Prop where
  nonempty : ∀ n, sql.render n ≠ ""
  noBlank : ∀ n, ' ' ∉ (sql.render n).toList
  converts : ∀ n, sql.converts (.num n) (sql.render n) = some true

/-- A number of calls with one payload. -/
def upsertTimes (clientId : ℕ) (address : Json) : ℕ → Prog (List ℕ)
  | 0 => return []
  | k + 1 => do
    let id ← upsertCurrentAddress clientId address
    let ids ← upsertTimes clientId address k
    return id :: ids

/-- The version that a payload finds first says what the payload says. -/
def FoundUnchanged (sql : SqlServer) (clientId : ℕ) (ext : Json) (content : AddressField → Json)
    (id : ℕ) (db : Database) : Prop :=
  ∃ current, (db.currentAddresses sql clientId ext).head? = some current ∧
    current.addressId = id ∧ unchanged current content = true

/-! ### The current versions -/

lemma currentAddresses_eq (db : Database) (sql : SqlServer) (clientId : ℕ) (ext : Json) :
    db.currentAddresses sql clientId ext = db.address.filter fun a =>
      a.isCurrent && (holds (sql.matchesAddress ext a) && decide (a.clientId = clientId)) := by
  simp only [Database.currentAddresses, List.filter_filter]

/-- A version that ends is taken out of the current ones. -/
lemma currentAddresses_expireAddress (db : Database) (addressId now : ℕ) :
    (db.expireAddress addressId now).currentAddresses sql clientId ext =
      (db.currentAddresses sql clientId ext).filter fun a => a.addressId ≠ addressId := by
  simp only [currentAddresses_eq, Database.expireAddress, updateById, List.filter_filter,
    List.filter_map]
  rw [List.map_congr_left (g := id) fun a ha => ?_, List.map_id]
  · refine List.filter_congr fun a _ => ?_
    by_cases ha : a.addressId = addressId
    · simp [ha, Address.expire]
    · simp [ha]
  · by_cases hid : a.addressId = addressId
    · simp [hid, Address.expire] at ha
    · simp [hid]

lemma currentAddresses_addAddress (db : Database) (hclient : row.clientId = clientId)
    (hcurrent : row.isCurrent = true) :
    (db.addAddress row).currentAddresses sql clientId ext = db.currentAddresses sql clientId ext ++
      if holds (sql.matchesAddress ext row) then [row] else [] := by
  simp [currentAddresses_eq, Database.addAddress, List.filter_append, List.filter_cons, hclient,
    hcurrent]

/-- The column has an external id as a text that is equal to it. -/
def FoundAgain (sql : SqlServer) (ext : Json) : Prop :=
  ∀ t, ext = .str t → sql.Finds 64 t

/-- The payload can be compared with the version it made, and finds it where the id is found. -/
lemma AddressRow.matches_iff (hrow : AddressRow sql clientId ext content db row)
    (hdecimal : DecimalText sql) (hext : ext.isPlain = true) :
    ∃ b, sql.matchesAddress ext row = .ok b ∧ (b = true ↔ FoundAgain sql ext) := by
  obtain ⟨v, hv, hstored⟩ := hrow.ext
  unfold SqlServer.matchesAddress
  cases ext with
  | str s =>
    cases hv
    refine ⟨_, sql.compare_str _ _ _, fun hsame t ht w hw => ?_, fun hfound => hfound s rfl _ hstored⟩
    cases ht
    obtain rfl := Option.some.inj (hstored.symm.trans hw)
    exact hsame
  | num n =>
    cases hv
    have htext : row.externalAddressId.text = sql.render n :=
      SqlServer.text_of_stored hstored (hdecimal.noBlank n)
    refine ⟨true, ?_, iff_of_true rfl fun t ht => by cases ht⟩
    simp only [SqlServer.compare, Json.scalar, htext, hdecimal.converts]
  | null => cases hv
  | bool b => cases hext
  | arr items => cases hext
  | obj fields => cases hext

/-- A new version says what its payload says, unless a number was stored as a text or a text was
altered. -/
lemma AddressRow.unchanged_iff (hrow : AddressRow sql clientId ext content db row)
    (hdecimal : DecimalText sql) (hcontent : ∀ f, (content f).isPlain = true) :
    unchanged row content = true ↔ (∀ f n, content f ≠ .num n) ∧ KeptContent sql content := by
  have hfield : ∀ f, sameField (row.content f) (content f) = true ↔
      (∀ n, content f ≠ .num n) ∧ ∀ t, content f = .str t → sql.Preserves f.width t := by
    intro f
    have hstored := hrow.content f
    have hplain := hcontent f
    simp only [SqlServer.contentColumn, bind_eq_ok] at hstored
    obtain ⟨v, hv, hstored⟩ := hstored
    split_ifs at hstored
    rw [← Except.ok.inj hstored]
    cases hvalue : content f with
    | null =>
      rw [hvalue] at hv
      cases hv
      simp [sameField, Json.truthy]
    | str s =>
      rw [hvalue, SqlServer.varchar_eq_ok] at hv
      obtain ⟨hnone, -⟩ | ⟨w, rfl, htext⟩ := hv
      · cases hnone
      · have hpreserves : sql.Preserves f.width s ↔ w.text = s :=
          ⟨fun h => h w (sql.textOf_str.mp htext), fun h w' hw' => by
            rwa [← Option.some.inj ((sql.textOf_str.mp htext).symm.trans hw')]⟩
        rw [sameField_iff (p := .str s) trivial]
        simp [Json.textD, hpreserves]
    | num n =>
      rw [hvalue, SqlServer.varchar_eq_ok] at hv
      obtain ⟨hnone, -⟩ | ⟨w, rfl, s, hs, htext⟩ := hv
      · cases hnone
      · cases hs
        have hnonempty : w.text ≠ "" := by
          rw [SqlServer.text_of_stored htext (hdecimal.noBlank n)]
          exact hdecimal.nonempty n
        simp [sameField, hnonempty, Json.isText]
    | bool b =>
      rw [hvalue] at hplain
      cases hplain
    | arr items =>
      rw [hvalue] at hplain
      cases hplain
    | obj fields =>
      rw [hvalue] at hplain
      cases hplain
  simp only [unchanged, List.all_eq_true, hfield]
  exact ⟨fun h => ⟨fun f => (h f (AddressField.mem_fields f)).1,
    fun f => (h f (AddressField.mem_fields f)).2⟩, fun h f _ => ⟨h.1 f, h.2 f⟩⟩

/-! ### One call -/

/-- The server can compare every address of the client with the payload's. -/
def Selectable (sql : SqlServer) (clientId : ℕ) (ext : Json) (db : Database) : Prop :=
  ∀ a ∈ db.address, a.clientId = clientId → ∃ b, sql.matchesAddress ext a = .ok b

lemma selectAddress_iff : Selectable sql clientId ext db ↔
    sql.selectAddress db clientId ext = .ok (db.currentAddresses sql clientId ext) := by
  simp only [SqlServer.selectAddress, bind_eq_ok, selectRows_eq_ok, Except.ok.injEq]
  constructor
  · refine fun h => ⟨_, ⟨fun a ha => ?_, rfl⟩, rfl⟩
    obtain ⟨hmem, hclient⟩ := List.mem_filter.mp ha
    exact h a hmem (by simpa using hclient)
  · rintro ⟨_, ⟨h, -⟩, -⟩ a ha hclient
    exact h a (List.mem_filter.mpr ⟨ha, by simpa using hclient⟩)

/-- A call that returns could compare. -/
lemma selectable_of_runs (hext : address.getItem "external_address_id" = .ok ext)
    (h : Runs sql.engine (upsertCurrentAddress clientId address) db id db') :
    Selectable sql clientId ext db := by
  simp only [upsertCurrentAddress, runs_bind, runs_item] at h
  obtain ⟨ext', _, ⟨hext', rfl⟩, rows, _, hrows, -⟩ := h
  obtain rfl := Except.ok.inj (hext.symm.trans hext')
  obtain ⟨t, ws, -, hselect, -⟩ := runs_execute.mp hrows
  simp only [SqlServer.perform, SqlServer.readOnly, bind_eq_ok, Except.ok.injEq,
    Prod.mk.injEq] at hselect
  obtain ⟨_, hselect, -, -⟩ := hselect
  simp only [SqlServer.selectAddress, bind_eq_ok, selectRows_eq_ok] at hselect
  obtain ⟨_, ⟨h, -⟩, -⟩ := hselect
  exact fun a ha hclient => h a (List.mem_filter.mpr ⟨ha, by simpa using hclient⟩)

/-- A version that is found and says what the payload says is reused. -/
lemma run_found {statement : ℕ → Except SqlError Tick} {n : ℕ} {t : Tick}
    (hext : address.getItem "external_address_id" = .ok ext) (hplain : ext.isPlain = true)
    (hselectable : Selectable sql clientId ext db)
    (hfound : FoundUnchanged sql clientId ext (addressContent address) id db)
    (ht : statement n = .ok t) :
    (upsertCurrentAddress clientId address).run sql.engine statement n db =
      .ok (id, n + 1, db) := by
  obtain ⟨current, hhead, rfl, hsame⟩ := hfound
  have hbindable : ext.bindable = true := by
    cases ext <;> first | rfl | cases hplain
  refine Program.run_bind_eq_ok.mpr ⟨ext, n, db, run_item_eq_ok.mpr ⟨hext, rfl, rfl⟩, ?_⟩
  refine Program.run_bind_eq_ok.mpr ⟨db.currentAddresses sql clientId ext, n + 1, db,
    run_execute_eq_ok.mpr ⟨rfl, t, [], ht, by simpa [Stmt.parameters] using hbindable, ?_, rfl⟩, ?_⟩
  · simp only [SqlServer.perform, SqlServer.readOnly, selectAddress_iff.mp hselectable]
    rfl
  · simp only [hhead, hsame, if_true]
    rfl

/-- What a call leaves is selectable again. -/
lemma Selectable.upserted (h : Selectable sql clientId ext db) (hdecimal : DecimalText sql)
    (hplain : ext.isPlain = true)
    (hupserted : AddressUpserted sql clientId ext content db id db') :
    Selectable sql clientId ext db' := by
  have hexpired : ∀ addressId now, Selectable sql clientId ext (db.expireAddress addressId now) := by
    intro addressId now a ha hclient
    simp only [Database.expireAddress, updateById, List.mem_map] at ha
    obtain ⟨a', ha', rfl⟩ := ha
    split_ifs at hclient ⊢ <;> exact h a' ha' hclient
  have hadded : ∀ {db : Database} {row}, AddressRow sql clientId ext content db row →
      Selectable sql clientId ext db → Selectable sql clientId ext (db.addAddress row) := by
    intro db row hrow hdb a ha hclient
    rcases List.mem_append.mp ha with ha | ha
    · exact hdb a ha hclient
    · obtain rfl := List.mem_singleton.mp ha
      obtain ⟨b, hb, -⟩ := hrow.matches_iff hdecimal hplain
      exact ⟨b, hb⟩
  cases hupserted with
  | reused => exact h
  | inserted _ hrow => exact hadded hrow h
  | replaced _ _ hrow => exact hadded hrow (hexpired _ _)

/-- The current versions after a call that made one. -/
lemma currentAddresses_made (hc : Consistent sql db)
    (hupserted : AddressUpserted sql clientId ext content db id db') :
    FoundUnchanged sql clientId ext content id db ∧ db' = db ∨
      ¬ (∃ id, FoundUnchanged sql clientId ext content id db) ∧ ∃ row db₁,
        AddressRow sql clientId ext content db₁ row ∧ row.addressId = id ∧
          db.next.address ≤ row.addressId ∧ db'.address.length = db.address.length + 1 ∧
            db'.currentAddresses sql clientId ext =
              (db.currentAddresses sql clientId ext).tail ++
                if holds (sql.matchesAddress ext row) then [row] else [] := by
  cases hupserted with
  | @reused current hselected hsame => exact .inl ⟨⟨current, hselected, rfl, hsame⟩, rfl⟩
  | @inserted row hselected hrow =>
    refine .inr ⟨?_, row, db, hrow, rfl, hrow.id_le, by simp [Database.addAddress], ?_⟩
    · rintro ⟨id, current, hhead, -⟩
      rw [hselected] at hhead
      cases hhead
    · rw [currentAddresses_addAddress db hrow.clientId_eq hrow.isCurrent, hselected]
      rfl
  | @replaced current row now hselected hchanged hrow =>
    refine .inr ⟨?_, row, _, hrow, rfl, hrow.id_le,
      by simp [Database.addAddress, Database.expireAddress, updateById], ?_⟩
    · rintro ⟨id, current', hhead, -, hsame⟩
      rw [hselected] at hhead
      cases hhead
      rw [hchanged] at hsame
      cases hsame
    · rw [currentAddresses_addAddress _ hrow.clientId_eq hrow.isCurrent,
        currentAddresses_expireAddress]
      obtain ⟨rest, hrest⟩ := List.head?_eq_some_iff.mp hselected
      have hkeys : (current :: rest).Pairwise fun a b => a.addressId < b.addressId := by
        rw [← hrest]
        exact ((hc.addressIds.increasing.filter _).filter _).filter _
      have hothers : ∀ a ∈ rest, a.addressId ≠ current.addressId := fun a ha =>
        (List.pairwise_cons.mp hkeys).1 a ha |>.ne'
      rw [hrest, List.filter_cons_of_neg (by simp), List.filter_eq_self.mpr (by simpa using hothers)]
      rfl

/-! ### More calls -/

/-- The payload is stored as it will be compared, under an id that finds it. -/
structure StoredAsCompared (sql : SqlServer) (ext : Json) (content : AddressField → Json) :
    Prop where
  noNumber : ∀ f n, content f ≠ .num n
  kept : KeptContent sql content
  found : FoundAgain sql ext

/-- The payload is in the database already, or it is stored as it will be compared, and finds one
version at most. -/
def Reusable (sql : SqlServer) (clientId : ℕ) (ext : Json) (content : AddressField → Json)
    (db : Database) : Prop :=
  (∃ id, FoundUnchanged sql clientId ext content id db) ∨
    StoredAsCompared sql ext content ∧ (db.currentAddresses sql clientId ext).length ≤ 1

/-- What a call returns is found by the next one. -/
lemma foundUnchanged_iff (hc : Consistent sql db) (hdecimal : DecimalText sql)
    (hplain : ext.isPlain = true) (hcontent : ∀ f, (content f).isPlain = true)
    (hupserted : AddressUpserted sql clientId ext content db id db') :
    FoundUnchanged sql clientId ext content id db' ↔ Reusable sql clientId ext content db := by
  obtain ⟨hfound, rfl⟩ | ⟨hnone, row, db₁, hrow, rfl, hid, -, hcurrent⟩ :=
    currentAddresses_made hc hupserted
  · exact iff_of_true hfound (.inl ⟨id, hfound⟩)
  have hsame := hrow.unchanged_iff hdecimal hcontent
  obtain ⟨b, hb, hmatches⟩ := hrow.matches_iff hdecimal hplain
  have hstored : StoredAsCompared sql ext content ↔ b = true ∧ unchanged row content = true := by
    rw [hmatches, hsame]
    exact ⟨fun h => ⟨h.found, h.noNumber, h.kept⟩, fun h => ⟨h.2.1, h.2.2, h.1⟩⟩
  rw [Reusable, or_iff_right hnone, hstored, FoundUnchanged, hcurrent, hb]
  cases htail : (db.currentAddresses sql clientId ext).tail with
  | nil =>
    have hlength : (db.currentAddresses sql clientId ext).length ≤ 1 := by
      have := List.length_tail (l := db.currentAddresses sql clientId ext)
      rw [htail, List.length_nil] at this
      omega
    cases b <;> simp [hlength, holds]
  | cons other rest =>
    have hother : other ∈ db.address := by
      have hmem : other ∈ (db.currentAddresses sql clientId ext).tail := by simp [htail]
      exact (VersionsInv.mem_currentAddresses.mp (List.mem_of_mem_tail hmem)).1
    have hlt := hc.addressIds.lt_next other hother
    refine iff_of_false ?_ ?_
    · rintro ⟨current, hhead, hcurrentId, -⟩
      cases hhead
      omega
    · rintro ⟨-, hlength⟩
      have := List.length_tail (l := db.currentAddresses sql clientId ext)
      rw [htail, List.length_cons] at this
      omega

/-- Any number of calls return the id, and change nothing. -/
def Repeats (sql : SqlServer) (clientId : ℕ) (address : Json) (id : ℕ) (db : Database) : Prop :=
  ∀ k statement n, (∀ i, ∃ t, statement i = .ok t) → ∃ m,
    (upsertTimes clientId address k).run sql.engine statement n db =
      .ok (List.replicate k id, m, db)

lemma repeats_iff (hc : Consistent sql db)
    (hext : address.getItem "external_address_id" = .ok ext) (hplain : ext.isPlain = true)
    (hselectable : Selectable sql clientId ext db) :
    Repeats sql clientId address id db ↔
      FoundUnchanged sql clientId ext (addressContent address) id db := by
  constructor
  · intro h
    obtain ⟨m, hrun⟩ := h 1 (fun _ => .ok ⟨0, 0⟩) 0 fun _ => ⟨_, rfl⟩
    obtain ⟨id', _, db', hupsert, hrest⟩ := Program.run_bind_eq_ok.mp hrun
    obtain ⟨hids, -, rfl⟩ := Program.run_ret_eq_ok.mp hrest
    obtain rfl : id' = id := by simpa using hids
    obtain ⟨ext', hext', hupserted⟩ := runs_upsertCurrentAddress (.of_run hupsert)
    obtain rfl := Except.ok.inj (hext.symm.trans hext')
    obtain ⟨hfound, -⟩ | ⟨-, row, db₁, -, -, -, hlength, -⟩ :=
      currentAddresses_made hc hupserted
    · exact hfound
    · omega
  · intro hfound k
    induction k with
    | zero => exact fun statement n _ => ⟨n, rfl⟩
    | succ k ih =>
      intro statement n hall
      obtain ⟨t, ht⟩ := hall n
      obtain ⟨m, hm⟩ := ih statement (n + 1) hall
      refine ⟨m, Program.run_bind_eq_ok.mpr ⟨id, n + 1, db,
        run_found hext hplain hselectable hfound ht, ?_⟩⟩
      exact Program.run_bind_eq_ok.mpr ⟨_, m, db, hm, rfl⟩

/-! ### Orders -/

/-- The event creates an order of the client, with the payload as its address. -/
structure OrderOf (clientId : ℕ) (address event : Json) (db db' : Database) : Prop where
  type_eq : event.getItem "event_type" = .ok (.str "ORDER_CREATED")
  address_eq : ∃ data, event.getItem "data" = .ok data ∧ data.getItem "address" = .ok address
  client : ∀ o ∈ db'.orders, (∀ o' ∈ db.orders, o'.orderId ≠ o.orderId) → o.clientId = clientId

/-- Orders of the client with the address commit one after the other. -/
inductive Orders (sql : SqlServer) (clientId : ℕ) (address : Json) (db : Database) :
    Database → Prop
  | none : Orders sql clientId address db db
  | created {db₁ db₂ : Database} {event eventId : Json} {outbox : Option Outbox}
      (h : Orders sql clientId address db db₁) (horder : OrderOf clientId address event db₁ db₂)
      (hrun : Runs sql.engine (eventTxn event eventId) db₁ outbox db₂) :
      Orders sql clientId address db db₂

lemma Orders.consistent (hc : Consistent sql db) (h : Orders sql clientId address db db') :
    Consistent sql db' := by
  induction h with
  | none => exact hc
  | created _ _ hrun ih => exact ih.step hrun

/-- An order touches the addresses in its upsert alone. -/
lemma OrderOf.upserted {event eventId : Json} {outbox : Option Outbox} (hc : Consistent sql db)
    (hext : address.getItem "external_address_id" = .ok ext)
    (horder : OrderOf clientId address event db db')
    (hrun : Runs sql.engine (eventTxn event eventId) db outbox db') :
    ∃ db₁ db₂ id, Consistent sql db₁ ∧ db₁.address = db.address ∧
      AddressUpserted sql clientId ext (addressContent address) db₁ id db₂ ∧
        db'.address = db₂.address := by
  obtain ⟨data, hdata, haddress⟩ := horder.address_eq
  obtain ⟨_, eventType, data', row, _, now, hcommitted, rfl⟩ := committed_of_runs hrun
  obtain rfl := Except.ok.inj (hcommitted.data_eq.symm.trans hdata)
  obtain rfl := Except.ok.inj (hcommitted.eventType_eq.symm.trans horder.type_eq)
  cases hcommitted.processed with
  | @created client address' ext' items p q clientId' id order history db₁ db₂ db₃ _ _ haddress' _ _
      hclient hext' hupserted _ hrow hitems _ =>
    obtain rfl := Except.ok.inj (haddress.symm.trans haddress')
    obtain rfl := Except.ok.inj (hext.symm.trans hext')
    have hframe := created_frame hclient hupserted hitems
    have horders : db₃.orders = db.orders ++ [order] := by rw [hframe]
    have haddresses : db₃.address = db₂.address := by rw [hframe]
    have hnew : order.clientId = clientId := by
      refine horder.client order ?_ fun o ho => ?_
      · simp [Database.marked, Database.addHistory, horders]
      · have hle := hrow.id_le
        rw [next_order_eq hclient hupserted] at hle
        exact (hc.orderIds.key_ne hle ho)
    obtain rfl : clientId' = clientId := hrow.clientId_eq.symm.trans hnew
    refine ⟨db₁, db₂, id, (hc.ledger _).upsertClient hclient, ?_, hupserted, ?_⟩
    · rw [hclient.frame]
    · exact haddresses
  | statusChanged type_eq => exact absurd type_eq (by simp)
  | paid type_eq => exact absurd type_eq (by simp)
  | invoiced type_eq => exact absurd type_eq (by simp)
  | unknownOrder _ _ not_created => exact absurd rfl not_created
  | unknownType not_created => exact absurd rfl not_created

lemma FoundUnchanged.congr (h : FoundUnchanged sql clientId ext content id db)
    (haddress : db'.address = db.address) : FoundUnchanged sql clientId ext content id db' := by
  unfold FoundUnchanged Database.currentAddresses at h ⊢
  rwa [haddress]

lemma Reusable.congr (h : Reusable sql clientId ext content db)
    (haddress : db'.address = db.address) : Reusable sql clientId ext content db' := by
  refine h.imp (fun ⟨id, hfound⟩ => ⟨id, hfound.congr haddress⟩) (And.imp_right fun hlength => ?_)
  unfold Database.currentAddresses at hlength ⊢
  rwa [haddress]

/-- The first of the orders may make a version, which the others find. -/
lemma Orders.reusable (hc : Consistent sql db) (hdecimal : DecimalText sql)
    (hext : address.getItem "external_address_id" = .ok ext) (hplain : ext.isPlain = true)
    (hcontent : ∀ f, (addressContent address f).isPlain = true)
    (hreusable : Reusable sql clientId ext (addressContent address) db)
    (h : Orders sql clientId address db db') :
    Reusable sql clientId ext (addressContent address) db' ∧
        db'.address.length = db.address.length ∨
      (∃ id, FoundUnchanged sql clientId ext (addressContent address) id db') ∧
        db'.address.length = db.address.length + 1 := by
  induction h with
  | none => exact .inl ⟨hreusable, rfl⟩
  | @created db₁ db₂ event eventId outbox h horder hrun ih =>
    obtain ⟨dbᵢ, dbⱼ, id, hcᵢ, haddressᵢ, hupserted, haddressⱼ⟩ :=
      horder.upserted (h.consistent hc) hext hrun
    obtain ⟨hfound, rfl⟩ | ⟨hnone, row, dbₖ, -, -, -, hlength, -⟩ :=
      currentAddresses_made hcᵢ hupserted
    · -- the version is reused, and the table stays as it is
      have hlength : db₂.address.length = db₁.address.length := by rw [haddressⱼ, haddressᵢ]
      rw [hlength]
      have hfound₂ := hfound.congr haddressⱼ
      exact ih.imp (And.imp_left fun _ => .inl ⟨id, hfound₂⟩) (And.imp_left fun _ => ⟨id, hfound₂⟩)
    · obtain ⟨hreusable₁, hlength₁⟩ | ⟨⟨id', hfound⟩, -⟩ := ih
      · have hfound := (foundUnchanged_iff hcᵢ hdecimal hplain hcontent hupserted).mpr
          (hreusable₁.congr haddressᵢ)
        refine .inr ⟨⟨id, hfound.congr haddressⱼ⟩, ?_⟩
        rw [haddressⱼ, hlength, haddressᵢ, hlength₁]
      · exact absurd ⟨id', hfound.congr haddressᵢ⟩ hnone

/-- What the calls behind the first one do is decided where it was made. -/
lemma repeats_upserted_iff (hc : Consistent sql db) (hdecimal : DecimalText sql)
    (hext : address.getItem "external_address_id" = .ok ext) (hplain : ext.isPlain = true)
    (hcontent : ∀ f, (addressContent address f).isPlain = true)
    (hrun : Runs sql.engine (upsertCurrentAddress clientId address) db id db') :
    Repeats sql clientId address id db' ↔
      Reusable sql clientId ext (addressContent address) db := by
  obtain ⟨ext', hext', hupserted⟩ := runs_upsertCurrentAddress hrun
  obtain rfl := Except.ok.inj (hext.symm.trans hext')
  have hselectable := (selectable_of_runs hext hrun).upserted hdecimal hplain hupserted
  rw [repeats_iff (hc.upsertAddress hupserted) hext hplain hselectable]
  exact foundUnchanged_iff hc hdecimal hplain hcontent hupserted

/-- A textual id finds one version at most. -/
lemma Consistent.length_currentAddresses (hc : Consistent sql db) (clientId : ℕ) (s : String) :
    (db.currentAddresses sql clientId (.str s)).length ≤ 1 := by
  have hpairs : (db.currentAddresses sql clientId (.str s)).Pairwise fun _ _ => False := by
    have hrows := ((hc.current.filter fun a => a.clientId = clientId).filter fun a =>
      holds (sql.matchesAddress (.str s) a)).filter (·.isCurrent)
    refine hrows.imp_of_mem fun ha hb hdiff => ?_
    obtain ⟨-, hclient, hmatches, hcurrent⟩ := VersionsInv.mem_currentAddresses.mp ha
    obtain ⟨-, hclient', hmatches', hcurrent'⟩ := VersionsInv.mem_currentAddresses.mp hb
    have hsame := hdiff hcurrent hcurrent' (hclient.trans hclient'.symm)
    have hkey := sql.same_iff.mp (Except.ok.inj hmatches)
    have hkey' := sql.same_iff.mp (Except.ok.inj hmatches')
    rw [sql.same_iff.mpr (hkey.symm.trans hkey')] at hsame
    cases hsame
  match hrows : db.currentAddresses sql clientId (.str s) with
  | [] => exact Nat.zero_le _
  | [_] => exact Nat.le_refl _
  | a :: b :: rest =>
    rw [hrows] at hpairs
    exact ((List.pairwise_cons.mp hpairs).1 b List.mem_cons_self).elim

/-- The next calls return the id of the first and change no row, and orders with the address make at
most one version, if and only if the version that is found says what the payload says, or nothing in
the payload is stored as another value, its id is found again, and it finds at most one version. -/
theorem address_idempotent_iff (ext : Externals) {f : Fleet} {key : Json}
    (h : Fleet.Reachable ext (fun _ _ => True) f) (hdecimal : DecimalText ext.sql)
    (hkey : address.getItem "external_address_id" = .ok key) (hplain : key.isPlain = true)
    (hcontent : ∀ f, (addressContent address f).isPlain = true)
    (hrun : Runs ext.sql.engine (upsertCurrentAddress clientId address) f.world.db id db') :
    (Repeats ext.sql clientId address id db' ∧
        ∀ db'', Orders ext.sql clientId address f.world.db db'' →
          db''.address.length ≤ f.world.db.address.length + 1) ↔
      Reusable ext.sql clientId key (addressContent address) f.world.db := by
  have hc := h.consistent
  rw [repeats_upserted_iff hc hdecimal hkey hplain hcontent hrun]
  refine and_iff_left_of_imp fun hreusable db'' horders => ?_
  obtain ⟨-, hlength⟩ | ⟨-, hlength⟩ :=
    horders.reusable hc hdecimal hkey hplain hcontent hreusable
  · omega
  · exact hlength.le

/-! ### A customer moves -/

/-- The plain server, where a number is stored as it is written. -/
def SqlServer.textual : SqlServer :=
  { SqlServer.plain with
    render := fun n => (Json.num n).render
    converts := fun v value =>
      match v with
      | .num n => some (value = (Json.num n).render)
      | _ => none }

lemma decimalText_textual : DecimalText .textual where
  nonempty n := by
    have hint : ∀ i : Int, toString i ≠ "" := by
      intro i
      cases i with
      | ofNat m => exact Nat.repr_ne_empty
      | negSucc m =>
        intro h
        have htext : "-" ++ Nat.repr (m + 1) = "" := h
        simpa using congrArg String.toList htext
    simp only [SqlServer.textual, Json.render]
    split_ifs
    · exact hint _
    · exact fun h => hint n.mantissa (by simpa using congrArg String.toList h)
  noBlank n := by
    have hnat : ∀ m : ℕ, ' ' ∉ Nat.toDigits 10 m := fun m hmem =>
      absurd (Nat.isDigit_of_mem_toDigits (by decide) (by decide) hmem) (by decide)
    have hint : ∀ i : Int, ' ' ∉ i.repr.toList := by
      intro i
      cases i with
      | ofNat m => simpa [Int.repr] using hnat m
      | negSucc m => simpa [Int.repr] using hnat (m + 1)
    simp only [SqlServer.textual, Json.render]
    split_ifs
    · exact hint n.mantissa
    · simpa using And.intro (hint n.mantissa) (hnat n.scale)
  converts n := by simp [SqlServer.textual]

def movedAddress (number : Json) : Json :=
  .obj [("external_address_id", .str "a1"), ("street", .str "Rua B"), ("number", number),
    ("neighborhood", .str "Centro"), ("city", .str "Recife"), ("state", .str "PE"),
    ("postal_code", .str "50000"), ("country", .str "BR")]

def textualExternals : Externals :=
  { sampleExternals with sql := .textual }

lemma decodeEvent_textual :
    decodeEvent textualExternals sampleMessage.value = .ok (sampleOrder, .str "e1") := by
  have hloads : ∀ value, decodeEvent textualExternals value = decodeEvent sampleExternals value :=
    fun _ => rfl
  rw [hloads]
  exact decodeEvent_sample

/-- The state after the sample order. -/
lemma reachable_textual : ∃ w : World,
    Fleet.Reachable textualExternals (fun _ _ => True) ⟨w, []⟩ ∧
      w.db = (runAttempts .textual CallEnv.healthy.attempts sampleOrder (.str "e1") .empty).2 := by
  refine ⟨(handleMessage textualExternals .healthy sampleMessage .start).2, ?_, ?_⟩
  · exact .trans .start (Fleet.handleMessage_reaches (fun _ _ _ => trivial) _ _ _)
  · exact handleMessage_db decodeEvent_textual _ _

/-- Where the client of the sample order has moved. -/
lemma runs_moved {number : Json} (hnumber : number = .str "1" ∨ number = .int 7) :
    ∃ id db', Runs SqlServer.textual.engine (upsertCurrentAddress 1 (movedAddress number))
      (runAttempts .textual CallEnv.healthy.attempts sampleOrder (.str "e1") .empty).2 id db' := by
  have hok : ((upsertCurrentAddress 1 (movedAddress number)).run SqlServer.textual.engine
      Attempt.healthy.statement 0 (runAttempts .textual CallEnv.healthy.attempts sampleOrder
        (.str "e1") .empty).2).isOk = true := by
    obtain rfl | rfl := hnumber <;> decide
  cases hrun : (upsertCurrentAddress 1 (movedAddress number)).run SqlServer.textual.engine
      Attempt.healthy.statement 0 (runAttempts .textual CallEnv.healthy.attempts sampleOrder
        (.str "e1") .empty).2 with
  | error x =>
    rw [hrun] at hok
    cases hok
  | ok result => exact ⟨result.1, result.2.2, .of_run hrun⟩

lemma storedAsCompared_moved :
    StoredAsCompared .textual (.str "a1") (addressContent (movedAddress (.str "1"))) := by
  refine ⟨fun f n => by cases f <;> exact Json.noConfusion, fun f t hf => ?_, fun t ht => ?_⟩
  · cases f with
    | complement => cases hf
    | _ =>
      cases hf
      exact SqlServer.preserves_of_ascii (by decide) (by decide)
  · cases ht
    exact (SqlServer.preserves_of_ascii (by decide) (by decide)).finds

/-- The new address, reported again, is found. -/
theorem moved_address_repeats :
    ∃ (w : World) (id : ℕ) (db' : Database),
      Runs SqlServer.textual.engine (upsertCurrentAddress 1 (movedAddress (.str "1"))) w.db id db' ∧
        Repeats .textual 1 (movedAddress (.str "1")) id db' := by
  obtain ⟨w, hreach, hdb⟩ := reachable_textual
  obtain ⟨id, db', hrun⟩ := runs_moved (.inl rfl)
  rw [← hdb] at hrun
  refine ⟨w, id, db', hrun, ((address_idempotent_iff textualExternals hreach decimalText_textual rfl
    rfl (fun f => by cases f <;> rfl) hrun).mpr (.inr ⟨storedAsCompared_moved,
      hreach.consistent.length_currentAddresses 1 "a1"⟩)).1⟩

/-- With a number in it, the same address makes a version with every call. -/
theorem numeric_address_versions :
    ∃ (w : World) (id : ℕ) (db' : Database),
      Fleet.Reachable textualExternals (fun _ _ => True) ⟨w, []⟩ ∧ DecimalText .textual ∧
        Runs SqlServer.textual.engine (upsertCurrentAddress 1 (movedAddress (.int 7))) w.db id db' ∧
          ¬ Repeats .textual 1 (movedAddress (.int 7)) id db' := by
  obtain ⟨w, hreach, hdb⟩ := reachable_textual
  obtain ⟨id, db', hrun⟩ := runs_moved (.inr rfl)
  rw [← hdb] at hrun
  refine ⟨w, id, db', hreach, decimalText_textual, hrun, fun hrepeats => ?_⟩
  have hplain : ∀ f, (addressContent (movedAddress (.int 7)) f).isPlain = true := fun f => by
    cases f <;> rfl
  have hreusable : Reusable .textual 1 (.str "a1") (addressContent (movedAddress (.int 7))) w.db :=
    (repeats_upserted_iff hreach.consistent decimalText_textual rfl rfl hplain hrun).mp hrepeats
  obtain ⟨id', current, hhead, -, hsame⟩ | ⟨hstored, -⟩ := hreusable
  · have hchanged : (w.db.currentAddresses .textual 1 (.str "a1")).head?.any
        (unchanged · (addressContent (movedAddress (.int 7)))) = false := by
      rw [hdb]
      decide
    rw [hhead, Option.any_some, hsame] at hchanged
    cases hchanged
  · exact hstored.noNumber .number ⟨7, 0⟩ rfl

end EventPipeline

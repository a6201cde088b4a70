import EventPipeline.Versions

/-!
# The periods of an address

`upsert_current_address` ends the period of a version and begins that of the next one in two
statements, each with its own reading of the clock. Where no replacement sees the clock move in
between, and the new version has the external id of the old one, the periods of an address meet:
every instant since its first version lies in exactly one of them (`timeline_covered`).
-/

namespace EventPipeline

open Transaction Prog

variable {sql : SqlServer} {db db' : Database} {event eventId : Json} {env : Attempt}
  {now now' n m : ℕ} {outbox : Option Outbox} {reading : ℕ → Except SqlError Tick}

/-! ### Statements by number -/

@[simp] lemma run_eval_eq_ok {α : Type} {r : Except PyError α} {a : α} :
    (eval r).run sql.engine reading n db = .ok (a, m, db') ↔ r = .ok a ∧ n = m ∧ db = db' := by
  cases r <;> simp [eval]

@[simp] lemma run_item_eq_ok {value v : Json} {key : String} :
    (item value key).run sql.engine reading n db = .ok (v, m, db') ↔
      value.getItem key = .ok v ∧ n = m ∧ db = db' :=
  run_eval_eq_ok

lemma run_execute_eq_ok {stmt : Stmt} {r : stmt.Result} :
    (execute stmt).run sql.engine reading n db = .ok (r, m, db') ↔
      m = n + 1 ∧ ∃ t ws, reading n = .ok t ∧ stmt.parameters.all Json.bindable = true ∧
        sql.perform t db stmt = .ok (r, ws) ∧ db' = sql.engine.applyAll db ws := by
  simp only [execute, Program.run_statement_eq_ok, exec_eq_ok, and_assoc]

/-- Claiming an event is one statement. -/
lemma run_claimEvent_next {eventType : Json} {u : Unit}
    (h : (claimEvent eventId eventType).run sql.engine reading n db = .ok (u, m, db')) :
    m = n + 1 := by
  simp only [claimEvent, Program.run] at h
  cases hanswer : (sql.engine.answer (reading n) (.insertEvent eventId eventType) db).1 with
  | ok r =>
    simp only [hanswer, Program.run_ret_eq_ok] at h
    exact h.2.1.symm
  | error e =>
    simp only [hanswer] at h
    split_ifs at h
    · cases h
    · cases h

lemma run_upsertClient_next {client : Json} {id : ℕ}
    (h : (upsertClient client).run sql.engine reading n db = .ok (id, m, db')) : m = n + 1 := by
  simp only [upsertClient, Program.run_bind_eq_ok, run_eval_eq_ok] at h
  obtain ⟨p, _, _, ⟨-, rfl, rfl⟩, rows, _, db₁, hmerge, hfirst⟩ := h
  obtain ⟨rfl, -⟩ := run_execute_eq_ok.mp hmerge
  cases rows with
  | nil => cases hfirst
  | cons row rows => exact (Program.run_ret_eq_ok.mp hfirst).2.1.symm

lemma run_insertAddress {clientId id : ℕ} {ext : Json} {content : AddressField → Json}
    (h : (execute (.insertAddress clientId ext content)).run sql.engine reading n db =
      .ok (id, m, db')) :
    ∃ row t, AddressRow sql clientId ext content db row ∧ reading n = .ok t ∧
      row.validFrom = t.now ∧ db' = db.addAddress row := by
  obtain ⟨-, t, ws, ht, -, hp, rfl⟩ := run_execute_eq_ok.mp h
  obtain ⟨row, hrow, hfrom, -, rfl⟩ := insertAddress_eq_ok hp
  exact ⟨row, t, hrow, ht, hfrom, rfl⟩

/-- What `upsert_current_address` does in the statements from the `n`-th on. -/
lemma run_upsertCurrentAddress {clientId id : ℕ} {address : Json}
    (h : (upsertCurrentAddress clientId address).run sql.engine reading n db = .ok (id, m, db')) :
    ∃ ext, address.getItem "external_address_id" = .ok ext ∧ (db' = db ∨
      (∃ row t, AddressRow sql clientId ext (addressContent address) db row ∧
        reading (n + 1) = .ok t ∧ row.validFrom = t.now ∧ db' = db.addAddress row) ∨
      ∃ current row t t', (db.currentAddresses sql clientId ext).head? = some current ∧
        unchanged current (addressContent address) = false ∧
        reading (n + 1) = .ok t ∧ reading (n + 2) = .ok t' ∧
        AddressRow sql clientId ext (addressContent address)
          (db.expireAddress current.addressId t.now) row ∧ row.validFrom = t'.now ∧
        db' = (db.expireAddress current.addressId t.now).addAddress row) := by
  simp only [upsertCurrentAddress, Program.run_bind_eq_ok, run_item_eq_ok] at h
  obtain ⟨ext, _, _, ⟨hext, rfl, rfl⟩, rows, _, db₁, hselect, h⟩ := h
  refine ⟨ext, hext, ?_⟩
  obtain ⟨rfl, rfl⟩ := runs_selectAddress (.of_run hselect)
  obtain ⟨rfl, -⟩ := run_execute_eq_ok.mp hselect
  split at h
  · obtain ⟨row, t, hrow, ht, hfrom, rfl⟩ := run_insertAddress h
    exact .inr (.inl ⟨row, t, hrow, ht, hfrom, rfl⟩)
  · rename_i current hcurrent
    split_ifs at h with hsame
    · exact .inl (Program.run_ret_eq_ok.mp h).2.2.symm
    · obtain ⟨u, _, db₂, hexpire, hinsert⟩ := Program.run_bind_eq_ok.mp h
      obtain ⟨rfl, t, ws, ht, -, hp, rfl⟩ := run_execute_eq_ok.mp hexpire
      simp only [SqlServer.perform, Except.ok.injEq, Prod.mk.injEq, true_and] at hp
      subst hp
      obtain ⟨row, t', hrow, ht', hfrom, rfl⟩ := run_insertAddress hinsert
      exact .inr (.inr ⟨current, row, t, t', hcurrent, by simpa using hsame, ht, ht', hrow, hfrom,
        rfl⟩)

/-! ### Replacements -/

/-- The rows of `address` after an attempt, by the clock readings of its statements. -/
inductive AddressChange (sql : SqlServer) (reading : ℕ → Except SqlError Tick) (event : Json)
    (db : Database) : List Address → Prop
  | same : AddressChange sql reading event db db.address
  | inserted {row : Address} {t : Tick} (ht : reading 3 = .ok t) (hfrom : row.validFrom = t.now)
      (isCurrent : row.isCurrent = true) (validTo : row.validTo = none)
      (unique : ∀ a ∈ db.address, a.isCurrent = true → a.identity sql ≠ row.identity sql) :
      AddressChange sql reading event db (db.address ++ [row])
  | replaced {ext : Json} {current row : Address} {t t' : Tick}
      (hreplaces : Replaces sql event db ext current) (hmem : current ∈ db.address)
      (hcurrent : current.isCurrent = true) (ht : reading 3 = .ok t) (ht' : reading 4 = .ok t')
      (hfrom : row.validFrom = t'.now) (hext : sql.TextOf ext row.externalAddressId)
      (clientId_eq : row.clientId = current.clientId) (isCurrent : row.isCurrent = true)
      (validTo : row.validTo = none) :
      AddressChange sql reading event db
        (updateById (·.addressId) current.addressId (·.expire t.now) db.address ++ [row])

/-- The branch of `ORDER_CREATED` touches the addresses in `upsert_current_address` alone. -/
lemma run_orderCreated_address {data : Json}
    (h : (orderCreated eventId data).run sql.engine reading n db = .ok (outbox, m, db')) :
    ∃ client p clientId db₁ address addressId n₂ db₂, data.getItem "client" = .ok client ∧
      clientParams client = .ok p ∧ ClientUpserted sql p db clientId db₁ ∧
      data.getItem "address" = .ok address ∧
      (upsertCurrentAddress clientId address).run sql.engine reading (n + 1) db₁ =
        .ok (addressId, n₂, db₂) ∧ db'.address = db₂.address := by
  simp only [orderCreated, Program.run_bind_eq_ok, run_item_eq_ok, run_eval_eq_ok] at h
  obtain ⟨client, _, _, ⟨hclient, rfl, rfl⟩, clientId, _, db₁, hupsert, address, _, _,
    ⟨haddress, rfl, rfl⟩, addressId, n₂, db₂, hcurrent, orderId, _, db₃, horder, items, _, _,
    ⟨-, rfl, rfl⟩, _, _, db₄, hinsert, _, _, db₅, hhistory, hret⟩ := h
  obtain rfl := run_upsertClient_next hupsert
  obtain ⟨p, hp, hclientUpserted⟩ := runs_upsertClient (.of_run hupsert)
  refine ⟨client, p, clientId, db₁, address, addressId, n₂, db₂, hclient, hp, hclientUpserted,
    haddress, hcurrent, ?_⟩
  obtain ⟨q, order, -, -, -, rfl⟩ := runs_insertOrder (.of_run horder)
  have hitems := (runs_insertOrderItems (.of_run hinsert)).frame
  obtain ⟨history, -, rfl⟩ := runs_recordStatusHistory (.of_run hhistory)
  obtain ⟨-, -, rfl⟩ := Program.run_ret_eq_ok.mp hret
  exact congrArg (·.address) hitems

lemma addressChange_of_run (hc : Consistent sql db)
    (htype : event.getItem "event_type" = .ok (.str "ORDER_CREATED"))
    (h : (eventTxn event eventId).run sql.engine reading 0 db = .ok (outbox, n, db')) :
    AddressChange sql reading event db db'.address := by
  simp only [eventTxn, processEvent, Program.run_bind_eq_ok, run_item_eq_ok] at h
  obtain ⟨o, _, db₃, ⟨id, _, _, ⟨-, rfl, rfl⟩, eventType, _, _, ⟨htype', rfl, rfl⟩, data, _, _,
    ⟨hdata, rfl, rfl⟩, u, _, db₀, hclaim, happly⟩, v, _, db₄, hmark, hret⟩ := h
  obtain rfl := Except.ok.inj (htype.symm.trans htype')
  obtain rfl := run_claimEvent_next hclaim
  obtain ⟨claimed, -, rfl⟩ := runs_claimEvent (.of_run hclaim)
  obtain ⟨client, p, clientId, db₁, address, addressId, n₂, db₂, hclient, hp, hupserted, haddress,
    hcurrent, haddress₂⟩ := run_orderCreated_address happly
  have hdb' : db'.address = db₂.address := by
    obtain ⟨-, -, rfl⟩ := Program.run_ret_eq_ok.mp hret
    obtain ⟨now, rfl⟩ := runs_markEventProcessed (.of_run hmark)
    exact haddress₂
  have hdb₁ : db₁.address = db.address := by rw [hupserted.frame]
  rw [hdb']
  obtain ⟨ext, hext, rfl | ⟨row, t, hrow, ht, hfrom, rfl⟩ | ⟨current, row, t, t', hselected, hchanged,
    ht, ht', hrow, hfrom, rfl⟩⟩ := run_upsertCurrentAddress hcurrent
  · rw [hdb₁]
    exact .same
  · have hunique := hrow.identity_ne
    simp only [Database.addAddress, hdb₁] at hunique ⊢
    exact .inserted ht hfrom hrow.isCurrent hrow.validTo hunique
  · obtain ⟨hmem, hclientId, -, hcur⟩ := VersionsInv.mem_currentAddresses.mp
      (List.mem_of_mem_head? hselected)
    rw [hdb₁] at hmem
    obtain ⟨c, hc', rfl⟩ := ClientUpserted.named_of_address (hc.ledger _) hupserted hmem hclientId
    simp only [Database.addAddress, Database.expireAddress, hdb₁]
    refine .replaced ⟨data, client, address, p, c, hdata, hclient, haddress, hext, hp, hc', ?_,
      hchanged⟩ hmem hcur ht ht' hfrom hrow.ext (hrow.clientId_eq.trans hclientId.symm)
      hrow.isCurrent hrow.validTo
    rw [← hselected]
    simp only [Database.currentAddresses, hdb₁]

/-! ### The clock -/

/-- The readings of an attempt between `now` and `now'`, none of them before an earlier one. -/
structure Attempt.Clocked (env : Attempt) (now now' : ℕ) : Prop where
  le : now ≤ now'
  from_le : ∀ i t, env.statement i = .ok t → now ≤ t.now
  le_to : ∀ i t, env.statement i = .ok t → t.now ≤ now'
  mono : ∀ i j t t', i ≤ j → env.statement i = .ok t → env.statement j = .ok t' → t.now ≤ t'.now

/-- The states that attempts at events leave, with an instant no reading so far is after; an attempt
is made where `allowed` holds. -/
inductive AddressRun (sql : SqlServer) (allowed : Attempt → Json → Json → Database → Prop) :
    Database → ℕ → Prop
  | start (now : ℕ) : AddressRun sql allowed .empty now
  | waited {db : Database} {now now' : ℕ} (h : AddressRun sql allowed db now) (hle : now ≤ now') :
      AddressRun sql allowed db now'
  | attempted {db : Database} {now now' : ℕ} {env : Attempt} {event eventId : Json}
      (h : AddressRun sql allowed db now) (hclock : env.Clocked now now')
      (hid : event.getItem "event_id" = .ok eventId)
      (htype : event.getItem "event_type" = .ok (.str "ORDER_CREATED"))
      (ha : allowed env event eventId db) :
      AddressRun sql allowed (runInTxn sql env event eventId db).2 now'

/-- Where the attempt replaces a version and its transaction gets through, the new version has the
external id of the old one, and the clock has not moved between the two statements. -/
def Seamless (sql : SqlServer) (env : Attempt) (event eventId : Json) (db : Database) : Prop :=
  ∀ ext current, Replaces sql event db ext current →
    (∃ result, (eventTxn event eventId).run sql.engine env.statement 0 db = .ok result) →
    (∀ v : Varchar 64, sql.TextOf ext v →
      sql.same current.externalAddressId.text v.text = true) ∧
    ∀ t t', env.statement 3 = .ok t → env.statement 4 = .ok t' → t.now = t'.now

/-- The instant is in the period of the version. -/
abbrev Address.covers (a : Address) (instant : ℕ) : Prop :=
  Covers Address.validFrom Address.validTo a instant

/-- The periods of the versions of an address meet, and none begins after `now`. -/
structure TimelineInv (sql : SqlServer) (now : ℕ) (rows : List Address) : Prop where
  table : VersionTable (·.isCurrent) (Meets Address.validFrom Address.validTo) (·.identity sql) rows
  validTo : ∀ a ∈ rows, a.isCurrent = true → a.validTo = none
  from_le : ∀ a ∈ rows, a.validFrom ≤ now

namespace TimelineInv

lemma nil : TimelineInv sql now [] :=
  ⟨.nil, by simp, by simp⟩

lemma later (h : TimelineInv sql now db.address) (hle : now ≤ now') :
    TimelineInv sql now' db.address :=
  ⟨h.table, h.validTo, fun a ha => (h.from_le a ha).trans hle⟩

lemma change {rows : List Address} (h : TimelineInv sql now db.address) (hc : Consistent sql db)
    (hclock : env.Clocked now now')
    (hseamless : ∀ ext current, Replaces sql event db ext current →
      (∀ v : Varchar 64, sql.TextOf ext v →
        sql.same current.externalAddressId.text v.text = true) ∧
      ∀ t t', env.statement 3 = .ok t → env.statement 4 = .ok t' → t.now = t'.now)
    (ha : AddressChange sql env.statement event db rows) : TimelineInv sql now' rows := by
  have hlater := h.later hclock.le
  cases ha with
  | same => exact hlater
  | @inserted row t ht hfrom isCurrent validTo unique =>
    refine ⟨h.table.append isCurrent fun a ha hsame => ?_, fun a ha hcur => ?_, fun a ha => ?_⟩
    · by_contra hcur
      exact unique a ha (by simpa using hcur) hsame
    · rcases List.mem_append.mp ha with ha | ha
      · exact h.validTo a ha hcur
      · rw [List.mem_singleton.mp ha]
        exact validTo
    · rcases List.mem_append.mp ha with ha | ha
      · exact hlater.from_le a ha
      · rw [List.mem_singleton.mp ha, hfrom]
        exact hclock.le_to _ _ ht
  | @replaced ext current row t t' hreplaces hmem hcurrent ht ht' hfrom hext clientId_eq isCurrent
      validTo =>
    obtain ⟨hsame, hreadings⟩ := hseamless ext current hreplaces
    have hreading := hreadings t t' ht ht'
    refine ⟨?_, fun a ha hcur => ?_, fun a ha => ?_⟩
    · refine h.table.replace hc.addressIds.increasing hmem hcurrent (f := (·.expire t.now))
        (fun _ => rfl) rfl (fun _ => id) ?_ ?_ isCurrent
      · -- the period that ends was begun before the attempt
        refine ⟨?_, ?_⟩
        · rw [hfrom, ← hreading]
          rfl
        · rw [hfrom]
          exact (h.from_le current hmem).trans (hclock.from_le _ _ ht')
      · exact identity_eq_iff.mpr ⟨clientId_eq, by rw [sql.same_comm]; exact hsame _ hext⟩
    · rcases List.mem_append.mp ha with ha | ha
      · obtain ⟨b, hb, rfl⟩ := List.mem_map.mp ha
        split_ifs at hcur ⊢
        · cases hcur
        · exact h.validTo b hb hcur
      · rw [List.mem_singleton.mp ha]
        exact validTo
    · rcases List.mem_append.mp ha with ha | ha
      · obtain ⟨b, hb, rfl⟩ := List.mem_map.mp ha
        split_ifs
        · exact hlater.from_le b hb
        · exact hlater.from_le b hb
      · rw [List.mem_singleton.mp ha, hfrom]
        exact hclock.le_to _ _ ht'

end TimelineInv

/-! ### Runs -/

lemma AddressRun.consistent {allowed : Attempt → Json → Json → Database → Prop}
    (h : AddressRun sql allowed db now) : Consistent sql db := by
  induction h with
  | start => exact .empty sql
  | waited _ _ ih => exact ih
  | @attempted db _ _ env event eventId _ _ _ _ _ ih =>
    rcases runInTxn_db sql env event eventId db with heq | ⟨outbox, hrun⟩
    · rw [heq]
      exact ih
    · exact ih.step hrun

lemma AddressRun.timeline (h : AddressRun sql (Seamless sql) db now) :
    TimelineInv sql now db.address := by
  induction h with
  | start => exact .nil
  | waited _ hle ih => exact ih.later hle
  | @attempted db _ _ env event eventId h hclock _ htype ha ih =>
    rcases runInTxn_run sql env event eventId db with heq | ⟨outbox, n, hrun⟩
    · rw [heq]
      exact ih.later hclock.le
    · exact ih.change h.consistent hclock (fun ext current hreplaces =>
        ha ext current hreplaces ⟨_, hrun⟩) (addressChange_of_run h.consistent htype hrun)

/-- Where every replacement is seamless, every instant from the first version of an address up to
now lies in the period of exactly one version. -/
theorem timeline_covered (sql : SqlServer) {db : Database} {now : ℕ}
    (h : AddressRun sql (Seamless sql) db now) :
    ∀ a ∈ db.address, ∀ instant, a.validFrom ≤ instant → instant ≤ now →
      ∃ v ∈ db.address, SameAddress sql v a ∧ v.covers instant ∧
        ∀ v' ∈ db.address, SameAddress sql v' a → v'.covers instant → v' = v := by
  intro a ha instant hfrom _
  obtain ⟨v, hv, hsame, hcovers, hunique⟩ := h.timeline.table.exists_unique_covers
    h.timeline.validTo ha hfrom
  exact ⟨v, hv, identity_eq_iff.mp hsame, hcovers, fun v' hv' hsame' =>
    hunique v' hv' (identity_eq_iff.mpr hsame')⟩

/-- The attempts of a call of `handle_message`, one after the other. -/
lemma AddressRun.handleMessage {ext : Externals}
    {allowed : Attempt → Json → Json → Database → Prop} {call : CallEnv} {msg : Message} {w : World}
    {times : ℕ → ℕ} (h : AddressRun ext.sql allowed w.db (times 0))
    (hdec : decodeEvent ext msg.value = .ok (event, eventId))
    (htype : event.getItem "event_type" = .ok (.str "ORDER_CREATED"))
    (hclock : ∀ i, (call.attempts i).Clocked (times i) (times (i + 1)))
    (ha : ∀ i db, allowed (call.attempts i) event eventId db) :
    AddressRun ext.sql allowed (handleMessage ext call msg w).2.db (times 3) := by
  have hid := decodeEvent_eventId hdec
  have hreaches : ∀ {i j db db'}, Reaches Exn.isOperational
      (fun i => runInTxn ext.sql (call.attempts i) event eventId) i db j db' →
      AddressRun ext.sql allowed db (times i) → AddressRun ext.sql allowed db' (times j) := by
    intro i j db db' hr
    induction hr with
    | here => exact id
    | @next i _ db db₁ _ _ hattempt _ _ ih =>
      intro hdb
      have hnext := hdb.attempted (hclock i) hid htype (ha i db)
      rw [hattempt] at hnext
      exact ih hnext
  have hmono : Monotone times := monotone_nat_of_le_succ fun i => (hclock i).le
  obtain ⟨j, db', hj, hr, heq, -⟩ := retry_reaches Exn.isOperational
    (fun i => runInTxn ext.sql (call.attempts i) event eventId) 2 0 w.db
  rw [handleMessage_db hdec, runAttempts, heq]
  exact ((hreaches hr h).attempted (hclock j) hid htype (ha j db')).waited (hmono (by omega))

/-! ### A client that moved -/

lemma seamless_of_given (hgiven : ReplacedAsGiven sql event db)
    (hreadings : ∀ t t', env.statement 3 = .ok t → env.statement 4 = .ok t' → t.now = t'.now) :
    Seamless sql env event eventId db :=
  fun ext current hreplaces _ => ⟨(hgiven ext current hreplaces).1, hreadings⟩

/-- A healthy attempt whose statements read the clock one after the other, `step` apart. -/
def Attempt.ticking (start step : ℕ) : Attempt where
  begin := none
  statement n := .ok ⟨start + step * min n 9, 0⟩
  commit := .acknowledged

lemma clocked_ticking (start step : ℕ) :
    (Attempt.ticking start step).Clocked start (start + step * 9) where
  le := Nat.le_add_right _ _
  from_le i t h := by
    cases h
    exact Nat.le_add_right _ _
  le_to i t h := by
    cases h
    exact Nat.add_le_add_left (Nat.mul_le_mul_left _ (Nat.min_le_right _ _)) _
  mono i j t t' hij h h' := by
    cases h
    cases h'
    exact Nat.add_le_add_left (Nat.mul_le_mul_left _ (Nat.le_min.mpr
      ⟨(Nat.min_le_left _ _).trans hij, Nat.min_le_right _ _⟩)) _

/-- The order of a client, and another one after the client has moved; `step` is how far the clock
moves between two statements. -/
def movedAt (step : ℕ) : Database :=
  (runInTxn .plain (.ticking 100 step) (orderCreatedEvent "e2" "o2" "c1" "a1" (.str "Rua B"))
    (.str "e2") (runInTxn .plain (.ticking 0 step)
      (orderCreatedEvent "e1" "o1" "c1" "a1" (.str "Rua A")) (.str "e1") .empty).2).2

lemma addressRun_movedAt (allowed : Attempt → Json → Json → Database → Prop) (step : ℕ)
    (hstep : step * 9 ≤ 100)
    (ha : ∀ start eventId db, ∀ event ∈ movedOrders,
      allowed (.ticking start step) event.1 eventId db) :
    AddressRun .plain allowed (movedAt step) (100 + step * 9) := by
  have hfirst : AddressRun .plain allowed (runInTxn .plain (.ticking 0 step)
      (orderCreatedEvent "e1" "o1" "c1" "a1" (.str "Rua A")) (.str "e1") .empty).2 100 :=
    ((AddressRun.start 0).attempted (clocked_ticking 0 step) rfl rfl
      (ha 0 _ _ _ List.mem_cons_self)).waited (by omega)
  exact hfirst.attempted (clocked_ticking 100 step) rfl rfl
    (ha 100 _ _ _ (List.mem_cons_of_mem _ List.mem_cons_self))

lemma periods_movedAt :
    (movedAt 0).address.map (fun a => (a.validFrom, a.validTo)) = [(0, some 100), (100, none)] ∧
      (movedAt 1).address.map (fun a => (a.validFrom, a.validTo)) = [(3, some 103), (104, none)] := by
  decide

/-- A lookup at an instant after the move finds one address. -/
theorem timeline_covered_moved :
    ∃ a ∈ (movedAt 0).address, ∃ v ∈ (movedAt 0).address, SameAddress .plain v a ∧ v.covers 100 ∧
      ∀ v' ∈ (movedAt 0).address, SameAddress .plain v' a → v'.covers 100 → v' = v := by
  have hperiods := periods_movedAt.1
  cases haddress : (movedAt 0).address with
  | nil => simp [haddress] at hperiods
  | cons a rest =>
    have hfrom : a.validFrom = 0 := by
      rw [haddress, List.map_cons, List.cons.injEq, Prod.mk.injEq] at hperiods
      exact hperiods.1.1
    rw [← haddress]
    have hrun : AddressRun .plain (Seamless .plain) (movedAt 0) 100 := by
      refine addressRun_movedAt _ 0 (by omega) fun start eventId db event hevent => ?_
      refine seamless_of_given (movedOrders_given db event hevent).2 fun t t' ht ht' => ?_
      cases ht
      cases ht'
      rfl
    exact ⟨a, haddress ▸ List.mem_cons_self, timeline_covered .plain hrun a
      (haddress ▸ List.mem_cons_self) 100 (by omega) (Nat.le_refl _)⟩

/-- When the clock ticks between the UPDATE and the INSERT, no version holds that instant. -/
theorem timeline_gap :
    ¬ ∀ (sql : SqlServer) (db : Database) (now : ℕ), AddressRun sql (fun _ _ _ _ => True) db now →
      ∀ a ∈ db.address, ∀ instant, a.validFrom ≤ instant → instant ≤ now →
        ∃ v ∈ db.address, SameAddress sql v a ∧ v.covers instant ∧
          ∀ v' ∈ db.address, SameAddress sql v' a → v'.covers instant → v' = v := by
  intro h
  have hrun := addressRun_movedAt (fun _ _ _ _ => True) 1 (by omega) fun _ _ _ _ _ => trivial
  have hperiods := periods_movedAt.2
  have hmem : ∀ v ∈ (movedAt 1).address,
      (v.validFrom, v.validTo) = (3, some 103) ∨ (v.validFrom, v.validTo) = (104, none) := by
    intro v hv
    have hmap := List.mem_map_of_mem (f := fun a : Address => (a.validFrom, a.validTo)) hv
    rw [hperiods] at hmap
    simpa using hmap
  cases haddress : (movedAt 1).address with
  | nil => simp [haddress] at hperiods
  | cons a rest =>
    have ha : a ∈ (movedAt 1).address := haddress ▸ List.mem_cons_self
    have hfrom : a.validFrom ≤ 103 := by
      rw [haddress, List.map_cons, List.cons.injEq, Prod.mk.injEq] at hperiods
      omega
    obtain ⟨v, hv, -, hcovers, -⟩ := h .plain _ _ hrun a ha 103 hfrom (by omega)
    rcases hmem v hv with hv | hv
    · exact absurd (hcovers.2 103 (congrArg Prod.snd hv)) (Nat.lt_irrefl _)
    · have hstart : v.validFrom = 104 := congrArg Prod.fst hv
      have := hcovers.1
      omega

end EventPipeline

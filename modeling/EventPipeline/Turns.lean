import EventPipeline.Interleaving
import EventPipeline.Versions

/-!
# Orders of one client

The SELECT of `upsert_current_address` takes no lock, and the UPDATE that expires a version does not
look at `is_current` again. The row of the client is locked before, by the MERGE of
`upsert_client`. So the orders of a stored client might as well have been processed one after the
other, and no version of an address is inserted next to a current one, where the SELECT finds what
the INSERT stores (`orders_in_turn`).
-/

namespace EventPipeline

open Transaction Prog

variable {sql : SqlServer} {db db' : Database} {t : Tick} {clientId : ℕ} {ext : String}
  {content : AddressField → Json} {disturbed : SqlError → Prop} {ws : List Write}

/-! ### The filtered index -/

/-- No current version of the address is stored. -/
def NoneCurrent (sql : SqlServer) (clientId : ℕ) (ext : String) (db : Database) : Prop :=
  ∀ a ∈ db.address, a.isCurrent = true → a.clientId = clientId →
    sql.same ext a.externalAddressId.text = false

lemma text_ne_duplicate {n : ℕ} {column constraint : String} {p : Json} :
    sql.text n column p ≠ .error (.duplicateKey constraint) := by
  simp only [SqlServer.text, SqlServer.varchar, ne_eq, bind_eq_error, not_or, not_exists, not_and]
  constructor
  · split
    · simp
    · split <;> simp
  · rintro (_ | v) - <;> simp [required]

lemma contentColumn_ne_duplicate {f : AddressField} {p : Json} {constraint : String} :
    sql.contentColumn f p ≠ .error (.duplicateKey constraint) := by
  simp only [SqlServer.contentColumn, SqlServer.varchar, ne_eq, bind_eq_error, not_or, not_exists,
    not_and]
  constructor
  · split
    · simp
    · split <;> simp
  · intro v _
    split_ifs <;> simp

lemma contentColumns_ne_duplicate {constraint : String} :
    sql.contentColumns content ≠ .error (.duplicateKey constraint) := by
  simp [SqlServer.contentColumns, bind_eq_error, contentColumn_ne_duplicate]

/-- Where no version is current, the index refuses none under an id that is found again. -/
lemma insertAddress_ne_duplicate (h : NoneCurrent sql clientId ext db) (hfinds : sql.Finds 64 ext)
    {constraint : String} :
    sql.insertAddress t db clientId (.str ext) content ≠ .error (.duplicateKey constraint) := by
  intro he
  simp only [SqlServer.insertAddress, bind_eq_error, text_ne_duplicate, contentColumns_ne_duplicate,
    false_or, SqlServer.text_eq_ok] at he
  obtain ⟨v, hv, w, -, he⟩ := he
  split_ifs at he with hclient hany
  · cases he
  · obtain ⟨a, ha, hcur⟩ := List.any_eq_true.mp hany
    simp only [Bool.and_eq_true, decide_eq_true_eq] at hcur
    have hsame := h a ha hcur.1.1 hcur.1.2
    rw [← sql.same_congr (hfinds v (sql.textOf_str.mp hv)), hcur.2] at hsame
    cases hsame

lemma noneCurrent_of_selected (h : db.currentAddresses sql clientId (.str ext) = []) :
    NoneCurrent sql clientId ext db := by
  intro a ha hcur hclient
  by_contra hsame
  have hmem : a ∈ db.currentAddresses sql clientId (.str ext) := by
    refine VersionsInv.mem_currentAddresses.mpr ⟨ha, hclient, ?_, hcur⟩
    simpa [SqlServer.matchesAddress, SqlServer.compare_str] using hsame
  rw [h] at hmem
  cases hmem

/-- Once the current version is expired, there is none. -/
lemma noneCurrent_of_expired (hdb : Consistent sql db) {current : Address} {now : ℕ}
    (h : (db.currentAddresses sql clientId (.str ext)).head? = some current) :
    NoneCurrent sql clientId ext (db.expireAddress current.addressId now) := by
  obtain ⟨hmem, hclient, hmatch, hcur⟩ :=
    VersionsInv.mem_currentAddresses.mp (List.mem_of_mem_head? h)
  have hmatch : sql.same ext current.externalAddressId.text = true := by
    simpa [SqlServer.matchesAddress, SqlServer.compare_str] using hmatch
  intro a ha hacur haclient
  obtain ⟨b, hb, rfl⟩ := List.mem_map.mp ha
  split_ifs at hacur haclient ⊢ with hid
  · cases hacur
  · by_contra hsame
    have hsame : sql.same ext b.externalAddressId.text = true := by simpa using hsame
    refine hid (congrArg (·.addressId) (hdb.current.eq_of_current hb hmem hacur hcur
      (haclient.trans hclient.symm) ?_))
    exact sql.same_iff.mpr ((sql.same_iff.mp hsame).symm.trans (sql.same_iff.mp hmatch))

/-! ### How far an address is -/

lemma follows_execute {stmt stmt' : Stmt} {k : Except SqlError stmt'.Result → Prog stmt.Result}
    (h : Follows sql.engine disturbed (execute stmt) db (.call stmt' k) ws) :
    stmt' = stmt ∧ ws = [] := by
  cases h with
  | here => exact ⟨rfl, rfl⟩
  | executed he hk => cases hk
  | raised he hk => cases hk

/-- The transaction inserts a version once none is current. -/
lemma noneCurrent_of_follows (hdb : Consistent sql db) {address externalAddressId : Json} {id : ℕ}
    {k : Except SqlError ℕ → Prog ℕ}
    (hext : address.getItem "external_address_id" = .ok (.str ext))
    (h : Follows sql.engine disturbed (upsertCurrentAddress clientId address) db
      (.call (.insertAddress id externalAddressId content) k) ws) :
    id = clientId ∧ externalAddressId = .str ext ∧
      NoneCurrent sql clientId ext (sql.engine.applyAll db ws) := by
  simp only [upsertCurrentAddress, item, hext, eval, Program.ret_bind] at h
  rcases follows_statement h with ⟨hq, -⟩ | ⟨t, rows, ws₁, ws₂, hselect, h, rfl⟩ | ⟨e, -, hq, -⟩
  · cases hq
  · obtain ⟨rfl, hsame⟩ := runs_selectAddress (runs_statement.mpr ⟨t, ws₁, hselect, rfl⟩)
    rw [sql.engine.applyAll_append, hsame]
    rw [hsame] at h
    split at h
    · rename_i hnone
      obtain ⟨heq, rfl⟩ := follows_execute h
      cases heq
      exact ⟨rfl, rfl, noneCurrent_of_selected (List.head?_eq_none_iff.mp hnone)⟩
    · rename_i current hcurrent
      split_ifs at h
      · cases (follows_ret.mp h).1
      · rcases follows_statement h with ⟨hq, -⟩ | ⟨t, u, ws₃, ws₄, hexpire, hinsert, rfl⟩ |
          ⟨e, -, hq, -⟩
        · cases hq
        · obtain ⟨now, hexpired⟩ := runs_expireAddress (runs_statement.mpr ⟨t, ws₃, hexpire, rfl⟩)
          obtain ⟨heq, rfl⟩ := follows_execute hinsert
          cases heq
          rw [List.append_nil, hexpired]
          exact ⟨rfl, rfl, noneCurrent_of_expired hdb hcurrent⟩
        · cases hq
  · cases hq

lemma callsOnly_eval {α : Type} {Q : Stmt → Prop} (r : Except PyError α) : (eval r).CallsOnly Q := by
  cases r <;> trivial

/-- What the transaction sends once it has an address. -/
def Stmt.AfterAddress : Stmt → Prop
  | .insertOrder _ _ _ => True
  | .insertItems _ _ => True
  | .insertHistory _ _ _ _ => True
  | .markEvent _ => True
  | _ => False

lemma callsOnly_afterAddress (o : OrderEvent) (clientId addressId : ℕ) :
    (o.afterAddress clientId addressId).CallsOnly Stmt.AfterAddress := by
  have hcall : ∀ stmt : Stmt, stmt.AfterAddress → (execute stmt).CallsOnly Stmt.AfterAddress :=
    fun stmt h => .statement h
  have hitems : ∀ orderId items, (insertOrderItems orderId items).CallsOnly Stmt.AfterAddress := by
    intro orderId items
    unfold insertOrderItems
    split_ifs
    · exact .bind (callsOnly_eval _) fun rows => hcall _ trivial
    · trivial
  refine .bind (.bind (callsOnly_eval _) fun params => hcall _ trivial) fun orderId => ?_
  refine .bind (callsOnly_eval _) fun items => .bind (hitems _ _) fun _ => ?_
  exact .bind (hcall _ trivial) fun _ => .bind (hcall _ trivial) fun _ => trivial

namespace OrderEvent

variable {o : OrderEvent} {id : ℕ} {externalAddressId : Json}
  {k : Except SqlError ℕ → Prog (Option Outbox)}

lemma noneCurrent_of_follows (hdb : Consistent sql db)
    (h : Follows sql.engine disturbed o.txn db (.call (.insertAddress id externalAddressId content) k)
      ws) :
    externalAddressId = .str o.externalAddressId ∧
      NoneCurrent sql id o.externalAddressId (sql.engine.applyAll db ws) := by
  rcases o.follows_txn h with ⟨hq, -⟩ | ⟨e, -, hq, -⟩ | ⟨t, row, ws', -, -, rfl, hafter⟩
  · rw [o.txn_eq] at hq
    cases hq
  · cases hq
  · rcases follows_statement hafter with ⟨hq, -⟩ | ⟨t, rows, ws₁, ws₂, hmerge, hrest, rfl⟩ |
      ⟨e, -, hq, -⟩
    · cases hq
    · cases rows with
      | nil => cases (follows_fail.mp hrest).1
      | cons clientId rest =>
        have hupserted := runs_mergeClient (runs_statement.mpr ⟨t, ws₁, hmerge, rfl⟩)
          (rfl : (clientId :: rest).head? = some clientId)
        have hdb₂ := (hdb.ledger _).upsertClient hupserted
        have hrest : Follows sql.engine disturbed
            (upsertCurrentAddress clientId o.address >>= o.afterAddress clientId) _ _ _ := hrest
        rcases follows_bind hrest with ⟨p', hp, hq⟩ | ⟨addressId, ws₃, ws₄, -, hlater, -⟩
        · cases p' with
          | ret addressId =>
            have hcalls := callsOnly_afterAddress o clientId addressId
            rw [Program.ret_bind] at hq
            rw [← hq] at hcalls
            exact hcalls.1.elim
          | fail x => cases hq
          | call stmt k' =>
            cases hq
            obtain ⟨rfl, rfl, hnone⟩ :=
              EventPipeline.noneCurrent_of_follows hdb₂ o.externalAddressId_eq hp
            refine ⟨rfl, ?_⟩
            rwa [sql.engine.applyAll_cons, sql.engine.applyAll_append]
        · have hcalls := hlater.callsOnly (callsOnly_afterAddress o clientId addressId)
          exact hcalls.1.elim
    · cases hq

end OrderEvent

/-! ### One after the other -/

section Turns

variable {ι : Type} {orders : ι → OrderEvent}

/-- The orders of the log, processed one after the other, each in one transaction of its own. The
environment raises no errors but those that are `disturbed`. -/
inductive InTurn (sql : SqlServer) (orders : ι → OrderEvent) (disturbed : SqlError → Prop)
    (db : Database) : List (ι × Except Exn (Option Outbox)) → Database → Prop
  | nil : InTurn sql orders disturbed db [] db
  | next {log : List (ι × Except Exn (Option Outbox))} {db₁ db₂ : Database} {i : ι}
      {attempt : Attempt} {result : Except Exn (Option Outbox)}
      (h : InTurn sql orders disturbed db log db₁) (hbegin : attempt.begin = none)
      (hstatement : ∀ n e, attempt.statement n = .error e → disturbed e)
      (hcommit : attempt.commit = .acknowledged)
      (hrun : runInTxn sql attempt (orders i).event (orders i).eventId db₁ = (result, db₂)) :
      InTurn sql orders disturbed db (log ++ [(i, result)]) db₂

lemma InTurn.nil_eq (h : InTurn sql orders disturbed db [] db') : db' = db := by
  generalize hlog : ([] : List (ι × Except Exn (Option Outbox))) = log at h
  cases h with
  | nil => rfl
  | next => simp at hlog

lemma inTurn_of_serial {log : List (ι × Except Exn (Option Outbox))}
    (h : Serial sql.engine (consumers orders disturbed) db log db') :
    InTurn sql orders disturbed db log db' := by
  induction h with
  | nil => exact .nil
  | @committed _ s' i a ws _ hp ih =>
    obtain ⟨m, -, env, henv, hrun⟩ := hp.run 0
    have hattempt : runInTxn sql ⟨none, env, .acknowledged⟩ (orders i).event (orders i).eventId s' =
        (.ok a, sql.engine.applyAll s' ws) := by
      have hrun' : (eventTxn (orders i).event (orders i).eventId).run sql.engine env 0 s' = _ := hrun
      simp only [runInTxn, hrun', Program.run_ret]
    exact ih.next (by rfl) henv (by rfl) hattempt
  | @failed _ s' i x ws _ hp ih =>
    obtain ⟨m, -, env, henv, hrun⟩ := hp.run 0
    have hattempt : runInTxn sql ⟨none, env, .acknowledged⟩ (orders i).event (orders i).eventId s' =
        (.error x, s') := by
      have hrun' : (eventTxn (orders i).event (orders i).eventId).run sql.engine env 0 s' = _ := hrun
      simp only [runInTxn, hrun', Program.run_fail]
    exact ih.next (by rfl) henv (by rfl) hattempt

variable [DecidableEq ι]

/-- The INSERT that the session is about to execute violates the filtered index. -/
def Violates (c : Consumers sql ι) (i : ι) : Prop :=
  ∃ clientId externalAddressId content found k t,
    (c.sessions i).stage = .writing (.insertAddress clientId externalAddressId content) found k ∧
      sql.insertAddress t (c.view i) clientId externalAddressId content =
        .error (.duplicateKey "uq_address_current_per_client")

/-- Consumers that process orders of one stored client, each in at most three attempts: whatever
they do between two statements of each other, none violates the index on the current addresses if
the ids of these are found again, and the tables are those that the orders leave one after the
other. -/
theorem orders_in_turn {ext : Externals} {allowed : Database → Call → Prop} {f : Fleet}
    (hf : Fleet.Reachable ext allowed f) {client : Client}
    (hclient : ∀ i, client ∈ f.world.db.clientsNamed ext.sql (orders i).params.externalClientId)
    (hfinds : ∀ i, ext.sql.Finds 64 (orders i).externalAddressId) {c : Consumers ext.sql ι}
    (h : Cluster.Reachable (consumers orders disturbed) (fun _ _ => True) f.world.db c) :
    (∀ i, ¬ Violates c i) ∧
      ∃ log, InTurn ext.sql orders disturbed f.world.db log c.committed ∧
        (log.map Prod.fst).Nodup ∧ ∀ i r, (i, r) ∈ log ↔ (c.sessions i).stage = .ended r := by
  have hsteady : Steady ext.sql orders client.clientId f.world.db :=
    ⟨hf.consistent, fun i => List.mem_map_of_mem (hclient i)⟩
  obtain ⟨hcommitted, hinv⟩ := inv_of_reachable hsteady h
  constructor
  · rintro i ⟨id, externalAddressId, content, found, k, t, hstage, hviolated⟩
    have htracks := hinv.tracks_writing hstage
    rw [ext.sql.shared_engine] at htracks
    obtain ⟨rfl, hnone⟩ := OrderEvent.noneCurrent_of_follows hcommitted.consistent htracks
    rw [Cluster.view, ext.sql.shared_engine] at hviolated
    exact insertAddress_ne_duplicate hnone (hfinds i) hviolated
  · obtain ⟨log, hserial, hnodup, hlog⟩ := hinv.serial
    rw [ext.sql.shared_engine] at hserial
    exact ⟨log, inTurn_of_serial hserial, hnodup, hlog⟩

/-! ### A client that moves twice -/

/-- Two orders of one client, each with another street. -/
def movers : Bool → OrderEvent
  | false => .created "e2" "o2" "c1" "a1" "Rua B"
  | true => .created "e3" "o3" "c1" "a1" "Rua C"

/-- Both have claimed their events and found the client when the first one locks it. -/
def moverTurns : List (Bool × Tick) :=
  ([false, false, true, true, false, true] ++ List.replicate 14 false ++ List.replicate 14 true).map
    fun i => (i, ⟨0, 0⟩)

theorem orders_in_turn_movers :
    ∃ (f : Fleet) (c : Consumers .plain Bool), f.world.db.orders.length = 1 ∧
      c.committed.orders.length = 3 ∧ (∀ i, ¬ Violates c i) ∧
      ∃ log, InTurn .plain movers (fun _ => False) f.world.db log c.committed ∧
        (log.map Prod.fst).Nodup ∧ ∀ i r, (i, r) ∈ log ↔ (c.sessions i).stage = .ended r := by
  obtain ⟨w, hreach, hdb⟩ := @exists_reachable (fun _ _ => True) [(sampleOrder, .str "e1")]
    (fun _ _ _ _ _ => trivial) (by decide) (by simp [sampleOrder, orderCreatedEvent, Json.getItem])
  have hrun : (Cluster.acts (consumers movers fun _ => False) (fun _ _ => True) moverTurns
      (Cluster.start (consumers movers fun _ => False) w.db : Consumers .plain Bool)).map
        (·.committed.orders.length) = some 3 := by
    rw [hdb]
    rfl
  obtain ⟨c, hacts, hlength⟩ := Option.map_eq_some_iff.mp hrun
  obtain ⟨client, hnamed⟩ : ∃ client, w.db.clientsNamed .plain (.str "c1") = [client] := by
    rw [hdb]
    exact ⟨_, rfl⟩
  have hclient : ∀ i, client ∈ w.db.clientsNamed .plain (movers i).params.externalClientId := by
    have hmem : client ∈ w.db.clientsNamed .plain (.str "c1") := by simp [hnamed]
    intro i
    cases i <;> exact hmem
  have hfinds : ∀ i, SqlServer.plain.Finds 64 (movers i).externalAddressId := by
    have hpreserves : SqlServer.plain.Preserves 64 "a1" :=
      SqlServer.preserves_of_ascii (by decide) (by decide)
    intro i
    cases i <;> exact hpreserves.finds
  exact ⟨⟨w, []⟩, c, by rw [hdb]; rfl, hlength,
    orders_in_turn hreach hclient hfinds (Cluster.reachable_of_acts .start hacts)⟩

/-! ### An address id the code page does not have -/

/-- An order of a client for an address whose id is not in the code page. -/
def foreignAddress (eventId order street : String) : OrderEvent :=
  .created eventId order "c1" "日本" street

/-- The INSERT the consumer is about to execute violates the index. -/
def refused (c : Consumers .plain Unit) : Bool :=
  match (c.sessions ()).stage with
  | .writing (.insertAddress clientId externalAddressId content) _ _ =>
    match SqlServer.plain.insertAddress ⟨0, 0⟩ (c.view ()) clientId externalAddressId content with
    | .error fault => fault = .duplicateKey "uq_address_current_per_client"
    | .ok _ => false
  | _ => false

lemma violates_of_refused {c : Consumers .plain Unit} (h : refused c = true) : Violates c () := by
  unfold refused at h
  split at h
  · rename_i clientId externalAddressId content found k hstage
    split at h
    · rename_i fault hfault
      rw [of_decide_eq_true h] at hfault
      exact ⟨clientId, externalAddressId, content, found, k, _, hstage, hfault⟩
    · cases h
  · cases h

/-- The id is stored as `??`, so the SELECT of the next order finds no version, and its INSERT
violates the index, with nobody else around. -/
theorem orders_in_turn_foreign :
    ∃ (f : Fleet) (client : Client) (c : Consumers .plain Unit),
      Fleet.Reachable (.rendered [(foreignAddress "e1" "o1" "Rua A").event]) (fun _ _ => True) f ∧
      client ∈ f.world.db.clientsNamed .plain (.str "c1") ∧
      Cluster.Reachable (consumers (fun _ => foreignAddress "e2" "o2" "Rua B") fun _ => False)
        (fun _ _ => True) f.world.db c ∧
      Violates c () := by
  obtain ⟨w, hreach, hdb⟩ := @exists_reachable (fun _ _ => True)
    [((foreignAddress "e1" "o1" "Rua A").event, .str "e1")] (fun _ _ _ _ _ => trivial) (by decide)
    (by simp [foreignAddress, OrderEvent.created, orderCreatedEvent, Json.getItem])
  have hrun : (Cluster.acts (consumers (fun _ => foreignAddress "e2" "o2" "Rua B") fun _ => False)
      (fun _ _ => True) (List.replicate 7 ((), ⟨0, 0⟩)) (Cluster.start (consumers
        (fun _ => foreignAddress "e2" "o2" "Rua B") fun _ => False) w.db :
          Consumers .plain Unit)).map refused = some true := by
    rw [hdb]
    rfl
  obtain ⟨c, hacts, hrefused⟩ := Option.map_eq_some_iff.mp hrun
  obtain ⟨client, hnamed⟩ : ∃ client, w.db.clientsNamed .plain (.str "c1") = [client] := by
    rw [hdb]
    exact ⟨_, rfl⟩
  exact ⟨⟨w, []⟩, client, c, hreach, by simp [hnamed], Cluster.reachable_of_acts .start hacts,
    violates_of_refused hrefused⟩

end Turns

end EventPipeline

import EventPipeline.Acceptance
import EventPipeline.Turns

/-!
# The first orders of a client

The MERGE of `upsert_client` tests for the client and inserts afterwards. Of two consumers that both
find no client, the second to insert waits for the first one and is refused when that commits. Its
error is an integrity error, which `handle_message` neither repeats nor distinguishes from data that
can never be stored: the event is dropped (`first_orders_race`). As long as no consumer inserts a
client that has been committed since its test, both orders are stored, if the columns store their
ids as different texts and the client is found under what is stored of it (`first_orders_stored`).
-/

namespace EventPipeline

open Transaction Prog

variable {sql : SqlServer} {db db' : Database} {orders : Bool → OrderEvent} {client : String}
  {o : OrderEvent} {ws : List Write} {q : Prog (Option Outbox)} {t : Tick}

/-- Two orders of one client that is not stored yet, with ids of their own. Either could be stored
if it were the only one. -/
structure FirstOrders (sql : SqlServer) (orders : Bool → OrderEvent) (client : String)
    (db : Database) : Prop where
  new : db.clientsNamed sql (.str client) = []
  clients : ∀ b, (orders b).params.externalClientId = .str client
  eventIds : ∃ ids : Bool → String, (∀ b, (orders b).eventId = .str (ids b)) ∧
    sql.same (ids false) (ids true) = false
  numbers : ∃ numbers : Bool → String,
    (∀ b, (orders b).data.getItem "external_order_id" = .ok (.str (numbers b))) ∧
      sql.same (numbers false) (numbers true) = false
  plain : ∀ b, PlainEvent (orders b).event
  accepted : ∀ b, Accepted sql (orders b) db

/-- The client is found again, and the columns store the ids of either order so that they are told
from those of the other. -/
structure KeptApart (sql : SqlServer) (orders : Bool → OrderEvent) (client : String) : Prop where
  found : sql.Finds 64 client
  apart : ∀ b, Shop.StoredApart sql (orders b) (orders !b)

/-- The environment disturbs nothing. -/
abbrev Calm : SqlError → Prop := fun _ => False

lemma undisturbed_of_turn {attempt : Attempt} (hbegin : attempt.begin = none)
    (hstatement : ∀ n e, attempt.statement n = .error e → Calm e)
    (hcommit : attempt.commit = .acknowledged) : attempt.Undisturbed := by
  refine ⟨hbegin, fun n => ?_, hcommit⟩
  cases henv : attempt.statement n with
  | ok t => exact ⟨t, rfl⟩
  | error e => exact (hstatement n e henv).elim

namespace FirstOrders

/-- Whichever order is stored first, the other one can be stored afterwards. -/
lemma accepted_after (h : FirstOrders sql orders client db) (hkept : KeptApart sql orders client)
    (hc : Consistent sql db) {b : Bool} {attempt : Attempt} (hu : attempt.Undisturbed)
    {outbox : Option Outbox}
    (hrun : runInTxn sql attempt (orders b).event (orders b).eventId db = (.ok outbox, db')) :
    Accepted sql (orders !b) db' := by
  have hc' : Consistent sql db' := hc.step (runInTxn_ok hrun)
  obtain ⟨s, hs⟩ := (accepted_iff hc (h.plain b)).mp (h.accepted b)
  obtain ⟨s', hs'⟩ := (accepted_iff hc (h.plain !b)).mp (h.accepted !b)
  obtain ⟨outbox', db'', hrun', hshop⟩ := hu.accepted hc (h.plain b) hs
  obtain rfl : db' = db'' := congrArg Prod.snd (hrun.symm.trans hrun')
  obtain ⟨ids, hids, -⟩ := h.eventIds
  obtain ⟨numbers, hnumbers, -⟩ := h.numbers
  refine (accepted_iff hc' (h.plain !b)).mpr ?_
  rw [hshop]
  exact Shop.accepted_after (hids b) (hids !b) (hnumbers b) (hnumbers !b) (h.clients b)
    (h.clients !b) hkept.found (hkept.apart b) (unknown_shop h.new) (hshop ▸ hc'.currentOnce) hs hs'

/-- An order that is not in the log yet is accepted. -/
lemma accepted_of_inTurn (h : FirstOrders sql orders client db)
    (hkept : KeptApart sql orders client) (hc : Consistent sql db)
    {log : List (Bool × Except Exn (Option Outbox))} (hlog : InTurn sql orders Calm db log db')
    {b : Bool} (hnodup : (log.map Prod.fst ++ [b]).Nodup) : Accepted sql (orders b) db' := by
  have hlength := hnodup.length_le_card
  cases hlog with
  | nil => exact h.accepted b
  | @next log₀ db₀ _ b' attempt result hlog₀ hbegin hstatement hcommit hrun =>
    -- there are two orders, so that the log has one entry
    obtain rfl : log₀ = [] := by
      simp only [List.length_append, List.length_map, List.length_singleton, Fintype.card_bool]
        at hlength
      exact List.length_eq_zero_iff.mp (by omega)
    obtain rfl := hlog₀.nil_eq
    obtain ⟨outbox, db₁, hok⟩ := h.accepted b' attempt (undisturbed_of_turn hbegin hstatement hcommit)
    have hresult : result = .ok outbox := congrArg Prod.fst (hrun.symm.trans hok)
    have hne : b' ≠ b := by simpa using hnodup
    rw [Bool.eq_not_of_ne hne.symm]
    exact h.accepted_after hkept hc (undisturbed_of_turn hbegin hstatement hcommit) (hresult ▸ hrun)

/-- One after the other, both orders are stored. -/
lemma results_ok (h : FirstOrders sql orders client db) (hkept : KeptApart sql orders client)
    (hc : Consistent sql db) {log : List (Bool × Except Exn (Option Outbox))}
    (hlog : InTurn sql orders Calm db log db') (hnodup : (log.map Prod.fst).Nodup) :
    ∀ e ∈ log, ∃ outbox, e.2 = .ok outbox := by
  induction hlog with
  | nil => simp
  | @next log₁ db₁ _ b attempt result hlog₁ hbegin hstatement hcommit hrun ih =>
    rw [List.map_append, List.map_singleton] at hnodup
    have haccepted := h.accepted_of_inTurn hkept hc hlog₁ hnodup
    obtain ⟨outbox, db₂, hok⟩ := haccepted attempt (undisturbed_of_turn hbegin hstatement hcommit)
    intro e he
    rcases List.mem_append.mp he with hmem | hmem
    · exact ih (List.nodup_append.mp hnodup).1 e hmem
    · rw [List.mem_singleton.mp hmem]
      exact ⟨outbox, congrArg Prod.fst (hrun.symm.trans hok)⟩

/-- Alone, an order does not fail. -/
lemma not_fails (h : FirstOrders sql orders client db) {b : Bool} {x : Exn} :
    ¬ Follows sql.engine Calm (orders b).txn db (.fail x) ws := by
  intro hfollows
  obtain ⟨m, -, env, henv, hrun⟩ := hfollows.run 0
  obtain ⟨outbox, db', hok⟩ := h.accepted b ⟨none, env, .acknowledged⟩
    (undisturbed_of_turn rfl henv rfl)
  have hrun' : (eventTxn (orders b).event (orders b).eventId).run sql.engine env 0 db = _ := hrun
  simp only [runInTxn, hrun', Program.run_fail] at hok
  cases hok

/-- The MERGE of an order is not refused. -/
lemma merge_ok (h : FirstOrders sql orders client db) {b : Bool} {row : ProcessedEvent}
    {e : SqlError} :
    sql.engine.exec t (.mergeClient (orders b).params) (db.apply (.insertEvent row)) ≠ .error e := by
  intro hmerge
  cases hclaim : sql.engine.exec t (.insertEvent (orders b).eventId (.str "ORDER_CREATED")) db with
  | error e => exact h.not_fails (OrderEvent.follows_refused (.inl ⟨t, hclaim⟩))
  | ok r =>
    obtain ⟨u, ws⟩ := r
    obtain ⟨row', -, rfl⟩ := exec_insertEvent_cases hclaim
    exact h.not_fails (OrderEvent.follows_claimed hclaim (.raised (.inl ⟨t, hmerge⟩) (.here _ _)))

end FirstOrders

/-! ### Locks and findings -/

/-- The MERGE that inserts a client locks its key. -/
lemma locks_inserted {rows : List ℕ} (hclient : o.params.externalClientId = .str client)
    (hfinds : sql.Finds 64 client) (hnew : db.clientsNamed sql (.str client) = [])
    (he : sql.engine.exec t (.mergeClient o.params) db = .ok (rows, ws)) :
    Lock.clientKey (sql.key client) ∈ sql.shared.held ws := by
  obtain ⟨-, hperform⟩ := exec_eq_ok.mp he
  simp only [SqlServer.perform, SqlServer.mergeClient, SqlServer.writeClient, bind_eq_ok,
    selectRows_eq_ok, SqlServer.text_eq_ok] at hperform
  obtain ⟨matched, ⟨-, hmatched⟩, name, -, email, -, document, -, hwrite⟩ := hperform
  obtain rfl : matched = [] := by
    rw [hmatched, hclient]
    exact hnew
  simp only [List.isEmpty_nil, if_true, bind_eq_ok, SqlServer.text_eq_ok] at hwrite
  obtain ⟨ext, hext, hwrite⟩ := hwrite
  split_ifs at hwrite
  cases hwrite
  rw [sql.same_iff.mp (hfinds ext (sql.textOf_str.mp (hclient ▸ hext)))]
  exact List.mem_cons_of_mem _ (List.mem_cons_self)

/-- What the transaction sends once it has the client. -/
def Stmt.AfterClient : Stmt → Prop
  | .insertEvent _ _ => False
  | .mergeClient _ => False
  | _ => True

lemma callsOnly_afterClient (o : OrderEvent) (clientId : ℕ) :
    (upsertCurrentAddress clientId o.address >>= o.afterAddress clientId).CallsOnly
      Stmt.AfterClient := by
  have hinsert : ∀ ext, (execute (.insertAddress clientId ext
      (addressContent o.address))).CallsOnly Stmt.AfterClient := fun _ => .statement trivial
  have haddress : (upsertCurrentAddress clientId o.address).CallsOnly Stmt.AfterClient := by
    refine .bind (callsOnly_eval _) fun ext => .bind (.statement trivial) fun rows => ?_
    split
    · exact hinsert ext
    · split_ifs
      · trivial
      · exact .bind (.statement trivial) fun _ => hinsert ext
  refine haddress.bind fun addressId => (callsOnly_afterAddress o clientId addressId).mono ?_
  intro stmt hstmt
  cases stmt <;> trivial

/-- A transaction that is at its MERGE has claimed its event and no more. -/
lemma follows_mergeClient {disturbed : SqlError → Prop} {p : ClientParams}
    {k : Except SqlError (List ℕ) → Prog (Option Outbox)}
    (h : Follows sql.engine disturbed o.txn db (.call (.mergeClient p) k) ws) :
    p = o.params ∧ ∃ row, ws = [.insertEvent row] := by
  rcases o.follows_txn h with ⟨hq, -⟩ | ⟨e, -, hq, -⟩ | ⟨t, row, ws', -, -, rfl, hafter⟩
  · rw [o.txn_eq] at hq
    cases hq
  · cases hq
  · rcases follows_statement hafter with ⟨hq, rfl⟩ | ⟨t, rows, ws₁, ws₂, -, hrest, -⟩ |
      ⟨e, -, hq, -⟩
    · cases hq
      exact ⟨rfl, row, rfl⟩
    · cases rows with
      | nil => cases (follows_fail.mp hrest).1
      | cons clientId rest =>
        exact (hrest.callsOnly (callsOnly_afterClient o clientId)).1.elim
    · cases hq

/-- What the session has found is nothing, or what it would find now. -/
def Sound (c : Consumers sql Bool) (b : Bool) : Prop :=
  ∀ op found k, (c.sessions b).stage = .writing op found k →
    (∃ db, sql.look op db = .ok found) ∧ (found = ([] : List Client) ∨
      ∃ found', sql.look op (c.view b) = .ok found' ∧
        found.map (·.clientId) = found'.map (·.clientId))

/-- The client the session is about to insert, its MERGE having found none. -/
def unmatched (session : Session sql.shared Exn (Option Outbox)) : Option ClientParams :=
  match session.stage with
  | .writing (.mergeClient p) matched _ => if (matched : List Client).isEmpty then some p else none
  | _ => none

/-- A client that the consumer is about to insert is not committed so far. -/
def StillNew (b : Bool) (c : Consumers sql Bool) : Prop :=
  ∀ p ∈ unmatched (c.sessions b), c.committed.clientsNamed sql p.externalClientId = []

instance (b : Bool) (c : Consumers sql Bool) : Decidable (StillNew b c) :=
  inferInstanceAs (Decidable
    (∀ p ∈ unmatched (c.sessions b), c.committed.clientsNamed sql p.externalClientId = []))

section Runs

variable {c c' : Consumers sql Bool} {b : Bool}

/-- The consumers of two orders that nothing disturbs. -/
abbrev calmConsumers (orders : Bool → OrderEvent) :
    Clients Stmt Stmt.Result SqlError Exn (Option Outbox) Bool :=
  consumers orders Calm

lemma follows_of_running (hinv : Cluster.Inv (calmConsumers orders) db c)
    (hstage : (c.sessions b).stage = .running q) :
    Follows sql.engine Calm (orders b).txn c.committed q (c.sessions b).own := by
  rw [← sql.shared_engine]
  exact hinv.tracks_view hstage

/-- A MERGE that found no client finds none now, if none is committed so far. -/
lemma look_of_stillNew (hclients : ∀ b, (orders b).params.externalClientId = .str client)
    (hinv : Cluster.Inv (calmConsumers orders) db c) {p : ClientParams}
    {k : Except SqlError (List ℕ) → Prog (Option Outbox)}
    {found : List Client} (hstage : (c.sessions b).stage = .writing (.mergeClient p) found k)
    (hlook : sql.look (.mergeClient p) db' = .ok found)
    (hnew : c.committed.clientsNamed sql p.externalClientId = []) :
    sql.look (.mergeClient p) (c.view b) = .ok [] := by
  have htracks := hinv.tracks_writing hstage
  rw [sql.shared_engine] at htracks
  obtain ⟨rfl, row, hown⟩ := follows_mergeClient htracks
  have hselect : selectRows (sql.matchesClient (orders b).params.externalClientId)
      c.committed.clients = .ok [] := by
    rw [← hnew, Database.clientsNamed, hclients b]
    exact sql.selectRows_str _ _ _ _
  rw [Cluster.view, hown, sql.shared_engine]
  simp only [SqlServer.look] at hlook ⊢
  split_ifs at hlook ⊢
  have hview : (sql.engine.applyAll c.committed [.insertEvent row]).clients =
      c.committed.clients := rfl
  rw [hview, hselect]
  rfl

lemma Sound.upToDate (hsound : Sound c b)
    (hclients : ∀ b, (orders b).params.externalClientId = .str client)
    (hinv : Cluster.Inv (calmConsumers orders) db c) (hnew : StillNew b c) : c.UpToDate b := by
  intro op found k hstage
  obtain ⟨⟨db', hlook⟩, hnil | hup⟩ := hsound op found k hstage
  · subst hnil
    cases op with
    | mergeClient p =>
      have hunmatched : p ∈ unmatched (c.sessions b) := by
        simp only [unmatched, hstage]
        rfl
      exact ⟨[], look_of_stillNew hclients hinv hstage hlook (hnew p hunmatched), rfl⟩
    | _ => exact ⟨[], rfl, rfl⟩
  · exact hup

/-- While a consumer is at a statement and the other one is about to commit, nothing is
committed. -/
lemma committed_eq_of_open {i : Bool} (hinv : Cluster.Inv (calmConsumers orders) db c) (hb : b ≠ i)
    (hi : ∀ r, (c.sessions i).stage ≠ .ended r) (hopen : ∀ r, (c.sessions b).stage ≠ .ended r) :
    c.committed = db := by
  refine hinv.committed_eq fun j r => ?_
  have hj : j = b ∨ j = i := by cases j <;> cases b <;> cases i <;> simp_all
  rcases hj with rfl | rfl
  · exact hopen r
  · exact hi r

namespace FirstOrders

variable {i : Bool}

lemma sound_step (h : FirstOrders sql orders client db)
    (hinv : Cluster.Inv (calmConsumers orders) db c)
    (hs : Cluster.Step (calmConsumers orders) i c c') (hsound : ∀ b, Sound c b) : Sound c' b := by
  intro op found k hstage
  by_cases hb : b = i
  · subst hb
    exact ⟨⟨_, hs.look_eq hstage⟩, .inr ⟨found, hs.look_eq hstage, rfl⟩⟩
  · rw [hs.sessions_of_ne hb] at hstage
    obtain ⟨⟨db', hlooked⟩, hfound⟩ := hsound b op found k hstage
    refine ⟨⟨db', hlooked⟩, ?_⟩
    rcases hs.committed_cases with hsame | ⟨a, hcommits, -⟩
    · rw [Cluster.view, hs.sessions_of_ne hb, hsame]
      exact hfound
    · rcases hfound with hnil | ⟨found', hlook, halike⟩
      · exact .inl hnil
      · cases op with
        | mergeClient p =>
          -- nothing is committed so far, so that nothing can have been found
          have hcommitted := committed_eq_of_open hinv hb (by simp [hcommits]) (by simp [hstage])
          have htracks := hinv.tracks_writing hstage
          rw [sql.shared_engine] at htracks
          obtain ⟨rfl, -⟩ := follows_mergeClient htracks
          have hnone := look_of_stillNew h.clients hinv hstage hlooked
            (by rw [hcommitted, h.clients]; exact h.new)
          cases hlook.symm.trans hnone
          exact .inl (List.map_eq_nil_iff.mp halike)
        | _ => exact .inr ⟨found', hlook, halike⟩

/-- A consumer whose order is still to be stored is led nowhere by the commit of the other one. -/
lemma tracks_of_commit (h : FirstOrders sql orders client db) (hfinds : sql.Finds 64 client)
    (hinv : Cluster.Inv (calmConsumers orders) db c) {a : Option Outbox}
    (hcommits : (c.sessions i).stage = .running (.ret a)) (hb : b ≠ i)
    (htracks : (c.sessions b).Tracks Calm (orders b).txn c.committed) :
    (c.sessions b).Tracks Calm (orders b).txn (c.view i) := by
  have hfollows : ∀ q, (∀ r, (c.sessions b).stage ≠ .ended r) →
      Follows sql.engine Calm (orders b).txn c.committed q (c.sessions b).own →
      Follows sql.engine Calm (orders b).txn (c.view i) q (c.sessions b).own := by
    intro q hopen hq
    have hcommitted := committed_eq_of_open hinv hb (by simp [hcommits]) hopen
    have hcommit := follows_of_running hinv hcommits
    rw [hcommitted] at hq hcommit
    rw [Cluster.view, sql.shared_engine, hcommitted]
    obtain ⟨key, hother, hevent⟩ := otherEvent_of_follows hcommit
    obtain ⟨row, t, rows, ws₁, ws₂, hmerge, hown⟩ := OrderEvent.merged_of_follows hcommit
    have hnew : ∀ row, (db.apply (.insertEvent row)).clientsNamed sql (.str client) = [] :=
      fun _ => h.new
    have hlock : ∀ {b rows ws t row}, sql.engine.exec t (.mergeClient (orders b).params)
        (db.apply (.insertEvent row)) = .ok (rows, ws) →
        Lock.clientKey (sql.key client) ∈ sql.shared.held ws := fun hmerge =>
      locks_inserted (h.clients _) hfinds (hnew _) hmerge
    refine follows_of_event hother (hinv.apart i b hb.symm _ hevent) ?_
      (fun row t e hrefused => absurd hrefused h.merge_ok) hq
    -- only one of them can have inserted the client
    intro row' t' rows' ws₃ ws₄ hmerge' hown'
    refine hinv.apart i b hb.symm (.clientKey (sql.key client)) ?_ ?_
    · rw [hown, Store.held_cons, Store.held_append]
      exact List.mem_append_right _ (List.mem_append_left _ (hlock hmerge))
    · rw [hown', Store.held_cons, Store.held_append]
      exact List.mem_append_right _ (List.mem_append_left _ (hlock hmerge'))
  unfold Session.Tracks at htracks ⊢
  rw [sql.shared_engine] at htracks ⊢
  cases hstage : (c.sessions b).stage with
  | running q =>
    simp only [hstage] at htracks ⊢
    exact hfollows q (by simp [hstage]) htracks
  | writing op found k =>
    simp only [hstage] at htracks ⊢
    exact hfollows _ (by simp [hstage]) htracks
  | ended r =>
    simp only [hstage] at htracks ⊢
    exact htracks

lemma inv_of_reachable (h : FirstOrders sql orders client db) (hfinds : sql.Finds 64 client)
    (hc : Cluster.Reachable (calmConsumers orders) StillNew db c) :
    Cluster.Inv (calmConsumers orders) db c := by
  refine (Cluster.Reachable.inv (J := fun c => ∀ b, Sound c b) ?_ ?_ ?_ ?_ hc).2
  · intro b op found k hstage
    cases hstage
  · intro i c c' hsound hinv _ hs b
    exact h.sound_step hinv hs hsound
  · intro i c hsound hinv hnew
    exact (hsound i).upToDate h.clients hinv hnew
  · intro i c a _ hinv hcommits b hb htracks
    exact h.tracks_of_commit hfinds hinv hcommits hb htracks

end FirstOrders

/-- Two entries of a log that holds the result of either order. -/
lemma log_eq {R : Type} {log : List (Bool × R)} (hnodup : (log.map Prod.fst).Nodup)
    {results : Bool → R} (hlog : ∀ b r, (b, r) ∈ log ↔ r = results b) :
    ∃ b, log = [(b, results b), (!b, results !b)] := by
  have hlength := hnodup.length_le_card
  rw [List.length_map, Fintype.card_bool] at hlength
  have hresult : ∀ e ∈ log, e = (e.1, results e.1) := fun e he =>
    Prod.ext rfl ((hlog e.1 e.2).mp he)
  match log, hlength with
  | [], _ => simpa using (hlog true _).mpr rfl
  | [x], _ =>
    have htrue := (hlog true _).mpr rfl
    have hfalse := (hlog false _).mpr rfl
    rw [List.mem_singleton] at htrue hfalse
    cases htrue.trans hfalse.symm
  | [x, y], _ =>
    have hx := hresult x (by simp)
    have hy := hresult y (by simp)
    have hne : x.1 ≠ y.1 := by simpa using hnodup
    have hnot : y.1 = !x.1 := Bool.eq_not_of_ne hne.symm
    exact ⟨x.1, by rw [← hnot, ← hx, ← hy]⟩

/-- Two consumers process orders of a client who is not stored yet, with ids that the columns keep
apart. As long as neither goes on to insert a client that has been committed since its MERGE tested
for it, no event is dropped, and once both have ended, the tables are those that the two orders leave
one after the other. -/
theorem first_orders_stored {ext : Externals} {allowed : Database → Call → Prop} {f : Fleet}
    (hf : Fleet.Reachable ext allowed f) (h : FirstOrders ext.sql orders client f.world.db)
    (hkept : KeptApart ext.sql orders client) {c : Consumers ext.sql Bool}
    (hc : Cluster.Reachable (calmConsumers orders) StillNew f.world.db c) :
    (∀ b x, (c.sessions b).stage ≠ .ended (.error x)) ∧
      ∀ results : Bool → Except Exn (Option Outbox), (∀ b, (c.sessions b).stage = .ended (results b)) →
        ∃ b, InTurn ext.sql orders Calm f.world.db [(b, results b), (!b, results !b)]
          c.committed := by
  obtain ⟨log, hserial, hnodup, hlog⟩ := (h.inv_of_reachable hkept.found hc).serial
  rw [ext.sql.shared_engine] at hserial
  have hturn := inTurn_of_serial hserial
  constructor
  · intro b x hstage
    obtain ⟨outbox, hok⟩ := h.results_ok hkept hf.consistent hturn hnodup _ ((hlog b _).mpr hstage)
    cases hok
  · intro results hended
    have hresults : ∀ b r, (b, r) ∈ log ↔ r = results b := fun b r => by
      rw [hlog, hended, Stage.ended.injEq, eq_comm]
    obtain ⟨b, rfl⟩ := log_eq hnodup hresults
    exact ⟨b, hturn⟩

/-! ### Two orders of a new client -/

/-- The class of the error a session has ended with. -/
def raised (c : Consumers sql Bool) (b : Bool) : Option SqlErrorClass :=
  match (c.sessions b).stage with
  | .ended (.error (.sql e)) => some e.cls
  | _ => none

def rivals : Bool → OrderEvent
  | false => .created "e1" "o1" "c1" "a1" "Rua A"
  | true => .created "e2" "o2" "c1" "a1" "Rua B"

lemma plainEvent_created (eventId order client address street : String) :
    PlainEvent (OrderEvent.created eventId order client address street).event := by
  intro _ data items hdata hitems mappings hmappings item hitem
  cases hdata
  cases hitems
  cases hmappings
  cases hitem

lemma firstOrders_rivals : FirstOrders .plain rivals "c1" .empty where
  new := rfl
  clients b := by cases b <;> rfl
  eventIds := by
    refine ⟨fun b => bif b then "e2" else "e1", fun b => ?_, by decide⟩
    cases b <;> rfl
  numbers := by
    refine ⟨fun b => bif b then "o2" else "o1", fun b => ?_, by decide⟩
    cases b <;> rfl
  plain b := by
    cases b
    · exact plainEvent_created "e1" "o1" "c1" "a1" "Rua A"
    · exact plainEvent_created "e2" "o2" "c1" "a1" "Rua B"
  accepted b := by
    cases b
    · exact (accepted_iff (.empty _) (plainEvent_created "e1" "o1" "c1" "a1" "Rua A")).mpr ⟨_, rfl⟩
    · exact (accepted_iff (.empty _) (plainEvent_created "e2" "o2" "c1" "a1" "Rua B")).mpr ⟨_, rfl⟩

lemma keptApart_rivals : KeptApart .plain rivals "c1" := by
  have hids : ∀ b, (rivals b).eventId = .str (bif b then "e2" else "e1") := fun b => by
    cases b <;> rfl
  have hnumbers : ∀ b, (rivals b).data.getItem "external_order_id" =
      .ok (.str (bif b then "o2" else "o1")) := fun b => by cases b <;> rfl
  have haddress : ∀ b, (rivals b).externalAddressId = "a1" := fun b => by cases b <;> rfl
  refine ⟨(SqlServer.preserves_of_ascii (by decide) (by decide)).finds, fun b => ⟨?_, ?_, ?_⟩⟩
  · intro v w hv hw
    rw [hids] at hv hw
    rw [SqlServer.text_of_ascii hv (by cases b <;> decide) (by cases b <;> decide),
      SqlServer.text_of_ascii hw (by cases b <;> decide) (by cases b <;> decide)]
    cases b <;> decide
  · intro number number' hnumber hnumber' v w hv hw
    obtain rfl := Except.ok.inj ((hnumbers b).symm.trans hnumber)
    obtain rfl := Except.ok.inj ((hnumbers !b).symm.trans hnumber')
    rw [SqlServer.text_of_ascii hv (by cases b <;> decide) (by cases b <;> decide),
      SqlServer.text_of_ascii hw (by cases b <;> decide) (by cases b <;> decide)]
    cases b <;> decide
  · intro v w hv _ _
    rw [haddress] at hv ⊢
    rw [SqlServer.text_of_ascii hv (by decide) (by decide)]
    decide

/-- Both have tested for the client before the first one inserts it. -/
def raceTurns : List (Bool × Tick) :=
  ([false, false, true, true, false, true] ++ List.replicate 12 false ++ List.replicate 2 true).map
    fun b => (b, ⟨0, 0⟩)

/-- The second one tests for the client once the first one has committed it. -/
def patientTurns : List (Bool × Tick) :=
  ([false, false, true, true] ++ List.replicate 13 false ++ List.replicate 15 true).map
    fun b => (b, ⟨0, 0⟩)

/-- The event of the second consumer is dropped: its MERGE violates the key of the client, and that
error is not worth another attempt. -/
theorem first_orders_race :
    ∃ (f : Fleet) (c : Consumers .plain Bool), Fleet.Reachable sampleExternals (fun _ _ => True) f ∧
      FirstOrders .plain rivals "c1" f.world.db ∧ KeptApart .plain rivals "c1" ∧
      Cluster.Reachable (calmConsumers rivals) (fun _ _ => True) f.world.db c ∧
      raised c true = some .integrity ∧
      c.committed.orders.map (·.externalOrderId.text) = ["o1"] := by
  have hrun : (Cluster.acts (calmConsumers rivals) (fun _ _ => True) raceTurns
      (Cluster.start (calmConsumers rivals) .empty : Consumers .plain Bool)).map
        (fun c => (raised c true, c.committed.orders.map (·.externalOrderId.text))) =
      some (some .integrity, ["o1"]) := rfl
  obtain ⟨c, hacts, hc⟩ := Option.map_eq_some_iff.mp hrun
  obtain ⟨hraised, horders⟩ := Prod.mk.inj hc
  exact ⟨⟨.start, []⟩, c, .start, firstOrders_rivals, keptApart_rivals,
    Cluster.reachable_of_acts .start hacts, hraised, horders⟩

/-- Where the second one tests later, both orders are stored. -/
theorem first_orders_stored_rivals :
    ∃ (f : Fleet) (c : Consumers .plain Bool), f.world.db = .empty ∧
      c.committed.orders.map (·.externalOrderId.text) = ["o1", "o2"] ∧
      (∀ b x, (c.sessions b).stage ≠ .ended (.error x)) ∧
        ∀ results : Bool → Except Exn (Option Outbox),
          (∀ b, (c.sessions b).stage = .ended (results b)) →
            ∃ b, InTurn .plain rivals Calm f.world.db [(b, results b), (!b, results !b)]
              c.committed := by
  have hrun : (Cluster.acts (calmConsumers rivals) StillNew patientTurns
      (Cluster.start (calmConsumers rivals) .empty : Consumers .plain Bool)).map
        (fun c => c.committed.orders.map (·.externalOrderId.text)) = some ["o1", "o2"] := rfl
  obtain ⟨c, hacts, horders⟩ := Option.map_eq_some_iff.mp hrun
  have hf : Fleet.Reachable sampleExternals (fun _ _ => True) ⟨.start, []⟩ := .start
  exact ⟨⟨.start, []⟩, c, rfl, horders,
    first_orders_stored hf firstOrders_rivals keptApart_rivals
      (Cluster.reachable_of_acts .start hacts)⟩

end Runs

end EventPipeline

import EventPipeline.Pipeline

/-!
# What the counters say

`events_processed_total` is incremented after the commit, and an approval is announced after it. A
replica may die in between, and a commit may not be acknowledged, so that the counters and the topic
can stay behind the tables. They are never ahead of them: the events that were counted as handled
are in the ledger, and each announcement of an order has an approval of its own in the history,
however many replicas there are and however often a message is read again (`never_overcounted`).
-/

namespace EventPipeline

open Transaction

variable {ext : Externals} {sql : SqlServer} {db db' : Database} {event eventId : Json}
  {msg : Message} {w w' : World} {outbox : Option Outbox} {result : Except Exn (Option Outbox)}

/-! ### Measures -/

/-- `events_processed_total` of an event type and `success`. -/
def World.successes (w : World) (t : String) : ℕ :=
  w.counts.countP fun c => c.outcome = .success && c.eventType.isText t

/-- What was sent under a key, accepted or not. -/
def World.announcements (w : World) (key : String) : ℕ :=
  w.sent.countP fun send => send.key = key

/-- The announcements that were acknowledged, and those that were counted as failed. -/
def World.concluded (w : World) : ℕ :=
  w.sent.countP (·.accepted) + w.counts.countP fun c => c.outcome = .publishFailed

/-- The events in the ledger with what the column stores of a type. -/
def Database.handled (sql : SqlServer) (db : Database) (t : String) : ℕ :=
  db.processedEvents.countP fun e => sql.stored 50 (.text t) = some e.eventType

/-- The approvals of an order in the history. -/
def Database.approvals (db : Database) (key : String) : ℕ :=
  db.statusHistory.countP fun row => toString row.orderId = key && row.newStatus.text = "APPROVED"

/-- The approvals of all orders. -/
def Database.allApprovals (db : Database) : ℕ :=
  db.statusHistory.countP fun row => row.newStatus.text = "APPROVED"

namespace World

variable (w : World) (ext : Externals) (env : CallEnv) (eventId : Json)

@[simp] lemma successes_log (report : Report) (t : String) :
    (w.log ext env report eventId).successes t = w.successes t := rfl

@[simp] lemma announcements_log (report : Report) (key : String) :
    (w.log ext env report eventId).announcements key = w.announcements key := rfl

@[simp] lemma concluded_log (report : Report) :
    (w.log ext env report eventId).concluded = w.concluded := rfl

@[simp] lemma announcements_count (eventType : Json) (outcome : Outcome) (key : String) :
    (w.count eventType outcome).announcements key = w.announcements key := rfl

@[simp] lemma successes_count (eventType : Json) (outcome : Outcome) (t : String) :
    (w.count eventType outcome).successes t =
      w.successes t + if outcome = .success && eventType.isText t then 1 else 0 := by
  simp only [successes, count, List.countP_append, List.countP_singleton]

@[simp] lemma concluded_count (eventType : Json) (outcome : Outcome) :
    (w.count eventType outcome).concluded =
      w.concluded + if outcome = .publishFailed then 1 else 0 := by
  simp [concluded, count, List.countP_append, List.countP_singleton, Nat.add_assoc]

@[simp] lemma successes_sent (send : Send) (t : String) :
    ({ w with sent := w.sent ++ [send] } : World).successes t = w.successes t := rfl

@[simp] lemma announcements_sent (send : Send) (key : String) :
    ({ w with sent := w.sent ++ [send] } : World).announcements key =
      w.announcements key + if send.key = key then 1 else 0 := by
  simp [announcements, List.countP_append, List.countP_singleton]

@[simp] lemma concluded_sent (send : Send) :
    ({ w with sent := w.sent ++ [send] } : World).concluded =
      w.concluded + if send.accepted then 1 else 0 := by
  simp only [concluded, List.countP_append, List.countP_singleton]
  omega

@[simp] lemma successes_publish (order : Snapshot) (t : String) :
    (w.publish ext env eventId order).successes t = w.successes t := by
  rcases publish_cases ext env eventId w order with ⟨e, -, h⟩ | ⟨value, -, -, h⟩ | ⟨value, e, -, -, h⟩
  · simp [h]
  · simp [h]
  · simp [h]

lemma announcements_publish_le (order : Snapshot) (key : String) :
    (w.publish ext env eventId order).announcements key ≤
      w.announcements key + if toString order.order.orderId = key then 1 else 0 := by
  rcases publish_cases ext env eventId w order with ⟨e, -, h⟩ | ⟨value, -, -, h⟩ | ⟨value, e, -, -, h⟩
  · simp [h]
  · rw [h, announcements_sent]
  · rw [h, announcements_count, announcements_log, announcements_sent]

/-- An announcement is acknowledged or counted as failed, and not both. -/
@[simp] lemma concluded_publish (order : Snapshot) :
    (w.publish ext env eventId order).concluded = w.concluded + 1 := by
  rcases publish_cases ext env eventId w order with ⟨e, -, h⟩ | ⟨value, -, -, h⟩ | ⟨value, e, -, -, h⟩
  · simp [h]
  · simp [h]
  · simp [h]

end World

/-! ### What a call adds -/

/-- What a call can add to the measures, if the attempt that ends it has the result. -/
structure Adds (event : Json) (result : Except Exn (Option Outbox)) (w w' : World) : Prop where
  successes : ∀ t, w'.successes t ≤ w.successes t ∨ (∃ outbox, result = .ok outbox) ∧
    event.getItem "event_type" = .ok (.str t) ∧ w'.successes t ≤ w.successes t + 1
  announcements : ∀ key, w'.announcements key ≤ w.announcements key ∨ ∃ ob,
    result = .ok (some ob) ∧ toString ob.order.order.orderId = key ∧
      w'.announcements key ≤ w.announcements key + 1
  concluded : w'.concluded ≤ w.concluded ∨ (∃ ob, result = .ok (some ob)) ∧
    w'.concluded ≤ w.concluded + 1

/-- Whatever is counted but a success and a failed publication adds nothing. -/
lemma adds_other {outcome : Outcome} (hs : outcome ≠ .success) (hp : outcome ≠ .publishFailed)
    (hsuccesses : ∀ t, w'.successes t = w.successes t)
    (hannouncements : ∀ key, w'.announcements key = w.announcements key)
    (hconcluded : w'.concluded = w.concluded) :
    Adds event result w (w'.countEvent event outcome).2 := by
  unfold World.countEvent
  split
  · exact ⟨fun t => .inl (by simp [hs, hsuccesses]), fun key => .inl (by simp [hannouncements]),
      .inl (by simp [hp, hconcluded])⟩
  · exact ⟨fun t => .inl (hsuccesses t).le, fun key => .inl (hannouncements key).le,
      .inl hconcluded.le⟩

/-- The success that is counted is one of the event's own type. -/
lemma adds_success {eventType : Json} (htype : event.getItem "event_type" = .ok eventType)
    (outbox : Option Outbox) (w : World) : Adds event (.ok outbox) w (w.count eventType .success) := by
  refine ⟨fun t => ?_, fun key => .inl (by simp), .inl (by simp)⟩
  by_cases htext : eventType.isText t = true
  · obtain rfl := Json.isText_iff.mp htext
    exact .inr ⟨⟨outbox, rfl⟩, htype, by simp⟩
  · exact .inl (by simp [htext])

/-- The announcement comes on top of it. -/
lemma Adds.publish {ob : Outbox} (h : Adds event (.ok (some ob)) w w')
    (hannouncements : ∀ key, w'.announcements key = w.announcements key)
    (hconcluded : w'.concluded = w.concluded) (ext : Externals) (env : CallEnv) (eventId : Json) :
    Adds event (.ok (some ob)) w (w'.publish ext env eventId ob.order) := by
  refine ⟨fun t => ?_, fun key => ?_, .inr ⟨⟨ob, rfl⟩, by simp [hconcluded]⟩⟩
  · rw [World.successes_publish]
    exact h.successes t
  · have hle := w'.announcements_publish_le ext env eventId ob.order key
    rw [hannouncements] at hle
    split_ifs at hle with hkey
    · exact .inr ⟨ob, rfl, hkey, hle⟩
    · exact .inl hle

lemma adds_conclude (ext : Externals) (env : CallEnv) (event eventId : Json)
    (result : Except Exn (Option Outbox)) (w : World) :
    Adds event result w (conclude ext env event eventId result w).2 := by
  cases result with
  | error x =>
    cases x with
    | duplicateEvent id =>
      exact adds_other (by decide) (by decide) (fun _ => rfl) (fun _ => rfl) rfl
    | sql e =>
      simp only [conclude]
      split_ifs
      · exact adds_other (by decide) (by decide) (fun _ => rfl) (fun _ => rfl) rfl
      · exact adds_other (by decide) (by decide) (fun _ => rfl) (fun _ => rfl) rfl
    | python e =>
      exact ⟨fun t => .inl (by simp [conclude]), fun key => .inl (by simp [conclude]),
        .inl (by simp [conclude])⟩
  | ok outbox =>
    simp only [conclude, World.countEvent]
    cases htype : event.getItem "event_type" with
    | error e =>
      exact ⟨fun t => .inl (Nat.le_refl _), fun key => .inl (Nat.le_refl _), .inl (Nat.le_refl _)⟩
    | ok eventType =>
      have hsuccess := adds_success htype outbox w
      cases outbox with
      | none => exact hsuccess
      | some ob =>
        dsimp only
        split_ifs
        · exact hsuccess.publish (fun _ => rfl) (by simp) ext env eventId
        · exact hsuccess

lemma adds_malformed (ext : Externals) (env : CallEnv) (msg : Message) (e : PyError) (w : World) :
    Adds event (.error (.python e)) w (w.malformed ext env msg e) :=
  ⟨fun t => .inl (by simp [World.malformed]), fun key => .inl (by simp [World.malformed]),
    .inl (by simp [World.malformed])⟩

/-! ### What a transaction adds -/

/-- What an attempt at the event leaves in the tables, if it has the result. -/
structure Booked (sql : SqlServer) (event : Json) (result : Except Exn (Option Outbox))
    (db db' : Database) : Prop where
  handled : ∀ t, db.handled sql t ≤ db'.handled sql t
  handled_ok : ∀ t outbox, result = .ok outbox → event.getItem "event_type" = .ok (.str t) →
    db.handled sql t + 1 ≤ db'.handled sql t
  approvals : ∀ key, db.approvals key ≤ db'.approvals key
  approvals_ok : ∀ ob, result = .ok (some ob) →
    db.approvals (toString ob.order.order.orderId) + 1 ≤
      db'.approvals (toString ob.order.order.orderId)
  allApprovals : db.allApprovals ≤ db'.allApprovals
  allApprovals_ok : ∀ ob, result = .ok (some ob) → db.allApprovals + 1 ≤ db'.allApprovals

lemma Booked.refl (sql : SqlServer) (event : Json) (x : Exn) (db : Database) :
    Booked sql event (.error x) db db where
  handled t := Nat.le_refl _
  handled_ok t outbox hok := by cases hok
  approvals key := Nat.le_refl _
  approvals_ok ob hok := by cases hok
  allApprovals := Nat.le_refl _
  allApprovals_ok ob hok := by cases hok

/-- The ledger has one row more, with the type of the event. -/
lemma handled_of_runs (h : Runs sql.engine (eventTxn event eventId) db outbox db') (t : String) :
    db.handled sql t ≤ db'.handled sql t ∧ (event.getItem "event_type" = .ok (.str t) →
      db.handled sql t + 1 ≤ db'.handled sql t) := by
  obtain ⟨_, eventType, data, row, db₁, now, hcom, rfl⟩ := committed_of_runs h
  have hledger : (db₁.marked sql eventId now).handled sql t =
      db.handled sql t + if sql.stored 50 (.text t) = some row.eventType then 1 else 0 := by
    have hmark : ∀ e : ProcessedEvent,
        (if holds (sql.matchesEvent eventId e) then e.mark now else e).eventType = e.eventType := by
      intro e
      split_ifs <;> rfl
    simp only [Database.handled, Database.marked, List.countP_map, Function.comp_def, hmark,
      hcom.processed.processedEvents_eq, List.countP_append, List.countP_singleton,
      decide_eq_true_eq]
  rw [hledger]
  refine ⟨Nat.le_add_right _ _, fun htype => ?_⟩
  have htext := hcom.claimed.eventType
  rw [Except.ok.inj (hcom.eventType_eq.symm.trans htype)] at htext
  rw [if_pos (sql.textOf_str.mp htext)]

/-- What is handed over to be announced has an approval of its own. -/
lemma approved_of_runs {ob : Outbox}
    (h : Runs sql.engine (eventTxn event eventId) db (some ob) db') :
    ∃ row, db'.statusHistory = db.statusHistory ++ [row] ∧ row.orderId = ob.order.order.orderId ∧
      row.newStatus.text = "APPROVED" := by
  obtain ⟨_, eventType, data, row, db₁, now, hcom, rfl⟩ := committed_of_runs h
  cases hcom.processed with
  | @statusChanged name newStatus o₀ status closing now' history _ type_eq hname hnew named hupdate
      hhistory houtbox =>
    split_ifs at houtbox with happroved
    obtain ⟨snapshot, hob, hselect, -⟩ := houtbox
    cases hob
    obtain rfl := Json.isText_iff.mp happroved
    refine ⟨history, rfl, hhistory.orderId_eq.trans (selectSnapshot_orderId hselect).symm, ?_⟩
    exact SqlServer.text_of_ascii hhistory.newStatus_eq (by decide) (by decide)

lemma Booked.of_attempt {env : Attempt} (h : runInTxn sql env event eventId db = (result, db')) :
    Booked sql event result db db' := by
  have hdb : db' = db ∨ ∃ outbox, Runs sql.engine (eventTxn event eventId) db outbox db' := by
    have hcases := runInTxn_db sql env event eventId db
    rwa [h] at hcases
  have hrun : ∀ outbox, result = .ok outbox → Runs sql.engine (eventTxn event eventId) db outbox db' := by
    rintro outbox rfl
    exact runInTxn_ok h
  have hhistory : db.statusHistory <+: db'.statusHistory := by
    rcases hdb with rfl | ⟨outbox, hruns⟩
    · exact List.prefix_rfl
    · exact (Records.of_runs hruns).history
  refine ⟨fun t => ?_, fun t outbox hok htype => (handled_of_runs (hrun outbox hok) t).2 htype,
    fun key => hhistory.sublist.countP_le, fun ob hok => ?_, hhistory.sublist.countP_le,
    fun ob hok => ?_⟩
  · rcases hdb with rfl | ⟨outbox, hruns⟩
    · exact Nat.le_refl _
    · exact (handled_of_runs hruns t).1
  · obtain ⟨row, heq, horder, hstatus⟩ := approved_of_runs (hrun _ hok)
    simp [Database.approvals, heq, List.countP_append, horder, hstatus]
  · obtain ⟨row, heq, horder, hstatus⟩ := approved_of_runs (hrun _ hok)
    simp [Database.allApprovals, heq, List.countP_append, hstatus]

/-! ### Runs of the replicas -/

/-- The counters and the topic are not ahead of the tables. -/
structure Accounted (sql : SqlServer) (w : World) : Prop where
  successes : ∀ t, w.successes t ≤ w.db.handled sql t
  announcements : ∀ key, w.announcements key ≤ w.db.approvals key
  concluded : w.concluded ≤ w.db.allApprovals

namespace Accounted

/-- The tables grow, and nothing else. -/
lemma grow (h : Accounted sql w) (hb : Booked sql event result w.db db) :
    Accounted sql { w with db } where
  successes t := (h.successes t).trans (hb.handled t)
  announcements key := (h.announcements key).trans (hb.approvals key)
  concluded := h.concluded.trans hb.allApprovals

/-- A call ends, or is interrupted after some of its effects. -/
lemma add (h : Accounted sql w) (hb : Booked sql event result w.db db) {w₁ : World}
    (ha : Adds event result { w with db } w₁) (hdb : w'.db = db) (hcounts : w'.counts <+: w₁.counts)
    (hsent : w'.sent <+: w₁.sent) : Accounted sql w' := by
  obtain ⟨hsuccesses, hannouncements, hconcluded⟩ := ha
  refine ⟨fun t => ?_, fun key => ?_, ?_⟩
  · have hle : w'.successes t ≤ w₁.successes t := hcounts.sublist.countP_le
    have hold : w.successes t ≤ w.db.handled sql t := h.successes t
    rw [hdb]
    rcases hsuccesses t with hsame | ⟨⟨outbox, hok⟩, htype, hmore⟩
    · exact hle.trans (hsame.trans (hold.trans (hb.handled t)))
    · exact hle.trans (hmore.trans ((Nat.add_le_add_right hold 1).trans
        (hb.handled_ok t outbox hok htype)))
  · have hle : w'.announcements key ≤ w₁.announcements key := hsent.sublist.countP_le
    have hold : w.announcements key ≤ w.db.approvals key := h.announcements key
    rw [hdb]
    rcases hannouncements key with hsame | ⟨ob, hok, rfl, hmore⟩
    · exact hle.trans (hsame.trans (hold.trans (hb.approvals key)))
    · exact hle.trans (hmore.trans ((Nat.add_le_add_right hold 1).trans (hb.approvals_ok ob hok)))
  · have hle : w'.concluded ≤ w₁.concluded :=
      Nat.add_le_add hsent.sublist.countP_le hcounts.sublist.countP_le
    have hold : w.concluded ≤ w.db.allApprovals := h.concluded
    rw [hdb]
    rcases hconcluded with hsame | ⟨⟨ob, hok⟩, hmore⟩
    · exact hle.trans (hsame.trans (hold.trans hb.allApprovals))
    · exact hle.trans (hmore.trans ((Nat.add_le_add_right hold 1).trans (hb.allApprovals_ok ob hok)))

end Accounted

namespace Replicas

variable {routed : ℕ → Message → Prop} {attended : Attempt → Call → Database → Prop}
  {g g' : Replicas}

lemma Step.accounted (hs : Step ext routed attended g g') (h : Accounted ext.sql g.state) :
    Accounted ext.sql g'.state := by
  cases hs with
  | published => exact h
  | assigned => exact h
  | fetched => exact h
  | began => exact h
  | committed => exact h
  | stopped => exact h
  | wentOn hbusy hgo =>
    cases hgo with
    | retried env hrun hx hn => exact h.grow (.of_attempt hrun)
  | returned hb hbusy hr =>
    cases hr with
    | @malformed _ msg e env =>
      exact h.add (.refl _ .null _ _) (adds_malformed ext env msg e _) rfl List.prefix_rfl
        List.prefix_rfl
    | ended env ha hrun hlast hr =>
      exact h.add (.of_attempt hrun) (adds_conclude _ _ _ _ _ _) (conclude_db _ _ _ _ _ _)
        List.prefix_rfl List.prefix_rfl
  | broken hbusy hr =>
    cases hr with
    | @malformed _ _ msg e env hw =>
      exact h.add (.refl _ .null _ _) (adds_malformed ext env msg e _) hw.db hw.counts.2 hw.sent.2
    | attempt env => exact h.grow (.of_attempt rfl)
    | ended env hrun hw =>
      exact h.add (.of_attempt hrun) (adds_conclude _ _ _ _ _ _) hw.db hw.counts.2 hw.sent.2

lemma Reachable.accounted (h : Reachable ext routed attended g) : Accounted ext.sql g.state := by
  induction h with
  | start => exact ⟨fun t => Nat.le_refl _, fun key => Nat.le_refl _, Nat.le_refl _⟩
  | step _ hs ih => exact Step.accounted hs ih

/-- However many replicas there are, whatever they read twice and wherever they die: no more events
of a type are counted as handled than the ledger has rows with what its column stores of the type;
no more is sent under the key of an order than its history has approvals; and what was acknowledged,
and what was counted as failed, are together no more than the approvals of all orders. -/
theorem never_overcounted (ext : Externals) {routed : ℕ → Message → Prop}
    {attended : Attempt → Call → Database → Prop} {g : Replicas}
    (h : Reachable ext routed attended g) :
    (∀ t, g.state.successes t ≤ g.state.db.handled ext.sql t) ∧
      (∀ key, g.state.announcements key ≤ g.state.db.approvals key) ∧
      g.state.concluded ≤ g.state.db.allApprovals :=
  ⟨h.accounted.successes, h.accounted.announcements, h.accounted.concluded⟩

/-- The announcement of the sample order has its approval. -/
theorem never_overcounted_announced : ∃ g : Replicas, 0 < g.state.announcements "1" ∧
    g.state.announcements "1" ≤ g.state.db.approvals "1" := by
  obtain ⟨g, hg, hsend⟩ := Pipeline.exists_announced
  refine ⟨g, List.countP_pos_iff.mpr ⟨_, hsend, rfl⟩, ?_⟩
  exact (never_overcounted Pipeline.relayExternals hg).2.1 "1"

end Replicas

end EventPipeline

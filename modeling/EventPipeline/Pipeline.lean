import EventPipeline.Flips
import EventPipeline.Replicas
import EventPipeline.Webhook
import EventPipeline.Worker

/-!
# From the webhook to the ERP

The receiver publishes what is posted to it, the replicas of the ingestion consumer handle it, and
what they hand to `order-approved` is posted to the ERP by the worker. Nothing is posted to the ERP
but an order that the tables have, with an approval in its history whose event was posted to the
receiver (`erp_told_of_approvals`). What the pipeline puts on its topics does not stop the processes
that read them (`pipeline_readable`).
-/

namespace EventPipeline

open Transaction

structure Pipeline where
  replicas : Replicas
  worker : Worker

namespace Pipeline

/-- The receiver and the brokers between the processes; `partitioner` maps keys to partitions. A call
of `send_and_wait` that fails may have put its record on `order-approved` all the same. -/
inductive Step (ext : Externals) (dumps : Json → Except PyError ByteArray)
    (partitioner : String → ℕ) : Pipeline → Pipeline → Prop
  | consumed {s : Pipeline} {g : Replicas} (hs : Replicas.Step ext (Published ext dumps partitioner)
      (fun _ _ _ => True) s.replicas g) : Step ext dumps partitioner s ⟨g, s.worker⟩
  | announced {s : Pipeline} {send : Send} {offset : ℕ} (hsend : send ∈ s.replicas.state.sent)
      (h : ∀ m ∈ s.worker.log (partitioner send.key), m.offset < offset) :
      Step ext dumps partitioner s ⟨s.replicas,
        s.worker.publish (partitioner send.key) ⟨offset, some send.key.toUTF8, send.value⟩⟩
  | delivered {s : Pipeline} {r : Worker} (hs : Worker.Step ext.loads s.worker r)
      (hlog : r.log = s.worker.log) : Step ext dumps partitioner s ⟨s.replicas, r⟩

/-- The states of the pipeline from the empty schema on. -/
inductive Reachable (ext : Externals) (dumps : Json → Except PyError ByteArray)
    (partitioner : String → ℕ) : Pipeline → Prop
  | start : Reachable ext dumps partitioner ⟨.start .start, .start []⟩
  | step {s s' : Pipeline} (h : Reachable ext dumps partitioner s)
      (hs : Step ext dumps partitioner s s') : Reachable ext dumps partitioner s'

end Pipeline

variable {ext : Externals} {sql : SqlServer} {dumps : Json → Except PyError ByteArray}
  {partitioner : String → ℕ} {db db' : Database} {event eventId data name : Json} {msg : Message}
  {p : ℕ} {outbox : Option Outbox}

/-! ### What is announced -/

/-- What later transactions leave of the orders and their history. -/
structure Records (db db' : Database) : Prop where
  orders : Grows (fun o o' => o'.orderId = o.orderId ∧ o'.externalOrderId = o.externalOrderId)
    db.orders db'.orders
  history : db.statusHistory <+: db'.statusHistory

namespace Records

lemma refl (db : Database) : Records db db :=
  ⟨.refl (fun _ => ⟨rfl, rfl⟩) _, List.prefix_rfl⟩

lemma of_eq (horders : db'.orders = db.orders) (hhistory : db'.statusHistory = db.statusHistory) :
    Records db db' := by
  refine ⟨?_, ?_⟩
  · rw [horders]
    exact .refl (fun _ => ⟨rfl, rfl⟩) _
  · rw [hhistory]

lemma of_runs (h : Runs sql.engine (eventTxn event eventId) db outbox db') : Records db db' := by
  obtain ⟨_, eventType, data, row, db₁, now, hcom, rfl⟩ := committed_of_runs h
  cases hcom.processed with
  | created _ _ _ _ _ hclient _ haddress _ _ hitems _ =>
    have hframe := created_frame hclient haddress hitems
    have horders := congrArg (·.orders) hframe
    have hhistory := congrArg (·.statusHistory) hframe
    simp only at horders hhistory
    refine ⟨?_, ?_⟩
    · simp only [Database.marked, Database.addHistory, horders]
      exact .append (fun _ => ⟨rfl, rfl⟩) _ _
    · simp only [Database.marked, Database.addHistory, hhistory]
      exact List.prefix_append _ _
  | statusChanged => exact ⟨.updateByIds (fun _ => ⟨rfl, rfl⟩) fun _ _ _ => ⟨rfl, rfl⟩,
    List.prefix_append _ _⟩
  | paid _ _ _ _ hpayment =>
    exact .of_eq (congrArg (·.orders) hpayment.frame) (congrArg (·.statusHistory) hpayment.frame)
  | invoiced _ _ _ _ hinvoice =>
    exact .of_eq (congrArg (·.orders) hinvoice.frame) (congrArg (·.statusHistory) hinvoice.frame)
  | unknownOrder => exact .of_eq rfl rfl
  | unknownType => exact .of_eq rfl rfl

end Records

/-- `send` announces an approval: the tables have the order and the change of its status, and the
event that asked for it. -/
structure Attested (ext : Externals) (db : Database) (send : Send) (snapshot : Snapshot)
    (event eventId data name : Json) : Prop where
  value : ext.dumps snapshot = .ok send.value
  key : send.key = toString snapshot.order.orderId
  status : snapshot.order.status.text = "APPROVED"
  change : StatusChange event data name (.str "APPROVED")
  claimed : InLedger ext.sql eventId db
  order : ∃ o ∈ db.ordersNamed ext.sql name, o.orderId = snapshot.order.orderId ∧
    o.externalOrderId = snapshot.order.externalOrderId
  history : ∃ row ∈ db.statusHistory, row.orderId = snapshot.order.orderId ∧
    row.newStatus.text = "APPROVED" ∧
    ext.sql.varchar 100 "source_event_id" eventId = .ok row.sourceEventId

namespace Attested

variable {send : Send} {snapshot : Snapshot}

lemma later (h : Attested ext db send snapshot event eventId data name)
    (hl : Later ext.sql db db') (hr : Records db db') :
    Attested ext db' send snapshot event eventId data name := by
  refine { h with claimed := h.claimed.later hl, order := ?_, history := ?_ }
  · obtain ⟨o, ho, hid, hext⟩ := h.order
    obtain ⟨hmem, hnamed⟩ := List.mem_filter.mp ho
    obtain ⟨o', ho', hid', hext'⟩ := hr.orders.exists_of_mem hmem
    refine ⟨o', List.mem_filter.mpr ⟨ho', ?_⟩, hid'.trans hid, hext'.trans hext⟩
    rw [SqlServer.matchesOrder, hext']
    exact hnamed
  · obtain ⟨row, hrow, hrest⟩ := h.history
    exact ⟨row, hr.history.subset hrow, hrest⟩

/-- What a transaction hands over to be announced. -/
lemma of_runs {ob : Outbox} {value : ByteArray} (hc' : Consistent ext.sql db')
    (hid : event.getItem "event_id" = .ok eventId)
    (h : Runs ext.sql.engine (eventTxn event eventId) db (some ob) db')
    (hvalue : ext.dumps ob.order = .ok value) (accepted : Bool) :
    ∃ data name, Attested ext db' ⟨toString ob.order.order.orderId, value, accepted⟩ ob.order event
      eventId data name := by
  have hclaimed : InLedger ext.sql eventId db' := inLedger_of_runs hid h
  have hrecords := Records.of_runs h
  obtain ⟨-, hselect, -, hstatus⟩ := published_of_runs h
  obtain ⟨id, eventType, data, row, db₁, now, hcom, rfl⟩ := committed_of_runs h
  obtain rfl : eventId = id := Except.ok.inj (hid.symm.trans hcom.eventId_eq)
  have hmem := List.mem_of_mem_head? hselect
  simp only [SqlServer.selectSnapshot, List.mem_flatMap, List.mem_map, List.mem_filter] at hmem
  obtain ⟨o, ⟨ho, hoid⟩, c, -, a, -, hsnapshot⟩ := hmem
  have hoid : o.orderId = ob.order.order.orderId := of_decide_eq_true hoid
  have hoext : o.externalOrderId = ob.order.order.externalOrderId :=
    congrArg (·.externalOrderId) hsnapshot
  cases hcom.processed with
  | @statusChanged name newStatus o₀ status closing now' history _ type_eq hname hnew named hupdate
      hhistory houtbox =>
    split_ifs at houtbox with happroved
    obtain ⟨snapshot, hob, hselect', -⟩ := houtbox
    cases hob
    obtain rfl := Json.isText_iff.mp happroved
    have hid₀ : snapshot.order.orderId = o₀.orderId := selectSnapshot_orderId hselect'
    have htype : event.getItem "event_type" = .ok (.str "ORDER_STATUS_CHANGED") :=
      type_eq ▸ hcom.eventType_eq
    refine ⟨data, name, hvalue, rfl, hstatus, ⟨htype, hcom.data_eq, hname, hnew⟩, hclaimed, ?_, ?_⟩
    · -- the order of the snapshot is the one that was named
      obtain ⟨hmem₀, hnamed₀⟩ := List.mem_filter.mp (List.mem_of_mem_head? named)
      obtain ⟨o', ho', hid', hext'⟩ := hrecords.orders.exists_of_mem hmem₀
      obtain rfl := hc'.orderIds.eq_of_key_eq ho' ho (hid'.trans (hid₀.symm.trans hoid.symm))
      refine ⟨o', List.mem_filter.mpr ⟨ho', ?_⟩, hoid, hoext⟩
      rw [SqlServer.matchesOrder, hext']
      exact hnamed₀
    · refine ⟨history, ?_, hhistory.orderId_eq.trans hid₀.symm, ?_, hhistory.source_eq⟩
      · exact List.mem_append_right _ (List.mem_singleton_self _)
      · exact SqlServer.text_of_ascii hhistory.newStatus_eq (by decide) (by decide)

end Attested

/-! ### What is published -/

/-- Nothing is published, or what the transaction of the message's event returned. -/
def Publishes (ext : Externals) (msg : Message) (w w' : World) : Prop :=
  w'.sent = w.sent ∨ ∃ event eventId ob value accepted,
    decodeEvent ext msg.value = .ok (event, eventId) ∧
    Runs ext.sql.engine (eventTxn event eventId) w.db (some ob) w'.db ∧
    ext.dumps ob.order = .ok value ∧
    w'.sent = w.sent ++ [⟨toString ob.order.order.orderId, value, accepted⟩]

lemma eq_or_eq_concat {α : Type} {xs ys : List α} {a : α} (h : xs <+: ys)
    (h' : ys <+: xs ++ [a]) : ys = xs ∨ ys = xs ++ [a] := by
  rcases List.prefix_concat_iff.mp h' with heq | hle
  · exact .inr heq
  · exact .inl (hle.eq_of_length_le h.length_le)

lemma Handling.Returns.publishes {attended : Attempt → Call → Database → Prop} {c : Handling}
    {w w' : World} (h : Handling.Returns ext attended c w w') (hon : c.On ext msg) :
    Publishes ext msg w w' := by
  cases h with
  | malformed env => exact .inl rfl
  | @ended _ call result db env ha h hlast hr =>
    rcases conclude_sent ext env call.event call.eventId result { w with db } with hsent |
      ⟨ob, value, accepted, rfl, hvalue, hsent⟩
    · exact .inl hsent
    · refine .inr ⟨_, _, ob, value, accepted, hon, ?_, hvalue, hsent⟩
      rw [conclude_db]
      exact runInTxn_ok h

lemma Handling.Breaks.publishes {c : Handling} {w w' : World} (h : Handling.Breaks ext c w w')
    (hon : c.On ext msg) : Publishes ext msg w w' := by
  cases h with
  | @malformed _ _ msg e env hw =>
    obtain ⟨hlow, hhigh⟩ := hw.sent
    have hsame : (w.malformed ext env msg e).sent = w.sent := rfl
    rw [hsame] at hhigh
    exact .inl (hhigh.eq_of_length_le hlow.length_le)
  | attempt env => exact .inl rfl
  | @ended _ _ call result db env h hw =>
    obtain ⟨hlow, hhigh⟩ := hw.sent
    rcases conclude_sent ext env call.event call.eventId result { w with db } with hsent |
      ⟨ob, value, accepted, rfl, hvalue, hsent⟩
    · rw [hsent] at hhigh
      exact .inl (hhigh.eq_of_length_le hlow.length_le)
    · rw [hsent] at hhigh
      refine (eq_or_eq_concat hlow hhigh).imp id fun heq => ?_
      refine ⟨_, _, ob, value, accepted, hon, ?_, hvalue, heq⟩
      rw [hw.db]
      exact runInTxn_ok h

namespace Replicas

variable {routed : ℕ → Message → Prop} {attended : Attempt → Call → Database → Prop}
  {g g' : Replicas}

/-- A step publishes what a call does that is made on a message of the log. -/
lemma Step.publishes (hi : Group.Inv Message.offset (handler ext attended) (fun _ _ => True) g)
    (hs : Step ext routed attended g g') :
    g'.state.sent = g.state.sent ∨ ∃ p, ∃ msg ∈ g.log p, Publishes ext msg g.state g'.state := by
  cases hs with
  | published => exact .inl rfl
  | assigned => exact .inl rfl
  | fetched => exact .inl rfl
  | began => exact .inl rfl
  | committed => exact .inl rfl
  | stopped => exact .inl rfl
  | wentOn hbusy h =>
    cases h with
    | retried => exact .inl rfl
  | returned hb hbusy h =>
    obtain ⟨p, msg, hmem, hon⟩ := on_of_busy hi hbusy
    exact .inr ⟨p, msg, hmem, Handling.Returns.publishes h hon⟩
  | broken hbusy h =>
    obtain ⟨p, msg, hmem, hon⟩ := on_of_busy hi hbusy
    exact .inr ⟨p, msg, hmem, Handling.Breaks.publishes h hon⟩

lemma Step.records (hi : Group.Inv Message.offset (handler ext attended) (fun _ _ => True) g)
    (hs : Step ext routed attended g g') : Records g.state.db g'.state.db := by
  rcases hs.attempted hi with heq | ⟨p, msg, -, h⟩
  · exact .of_eq (congrArg _ heq) (congrArg _ heq)
  · exact h.preserves (fun _ _ _ _ _ hrun => .of_runs hrun) (.refl _)

/-- Whatever was published is about an approval that a message of the log asked for. -/
lemma Reachable.attested (h : Reachable ext routed attended g) {send : Send}
    (hsend : send ∈ g.state.sent) : ∃ p, ∃ msg ∈ g.log p, ∃ event eventId data name snapshot,
      decodeEvent ext msg.value = .ok (event, eventId) ∧
      Attested ext g.state.db send snapshot event eventId data name := by
  induction h with
  | start => cases hsend
  | @step g g' h hs ih =>
    have hi := Reachable.located h
    obtain ⟨hc', hlater⟩ := Step.later hi hs (Reachable.consistent h)
    have hrecords := Step.records hi hs
    have hold : send ∈ g.state.sent → ∃ p, ∃ msg ∈ g'.log p, ∃ event eventId data name snapshot,
        decodeEvent ext msg.value = .ok (event, eventId) ∧
        Attested ext g'.state.db send snapshot event eventId data name := by
      intro hsend
      obtain ⟨p, msg, hmsg, event, eventId, data, name, snapshot, hdec, hattested⟩ := ih hsend
      exact ⟨p, msg, Step.log_mono hs hmsg, event, eventId, data, name, snapshot, hdec,
        hattested.later hlater hrecords⟩
    rcases Step.publishes hi hs with heq | ⟨p, msg, hmsg, heq | ⟨event, eventId, ob, value, accepted,
      hdec, hrun, hvalue, heq⟩⟩
    · exact hold (heq ▸ hsend)
    · exact hold (heq ▸ hsend)
    · rw [heq] at hsend
      rcases List.mem_append.mp hsend with hsend | hsend
      · exact hold hsend
      · rw [List.mem_singleton.mp hsend]
        obtain ⟨data, name, hattested⟩ := Attested.of_runs hc' (decodeEvent_eventId hdec) hrun
          hvalue accepted
        exact ⟨p, msg, Step.log_mono hs hmsg, event, eventId, data, name, ob.order, hdec, hattested⟩

end Replicas

/-! ### What is counted -/

/-- The labels of a counter are those of a handled event, of one whose data could not be used, or of
a failed announcement. -/
def Count.Labelled (count : Count) : Prop :=
  (∃ t : EventType, count.eventType = .str t.text ∧
    (count.outcome = .success ∨ count.outcome = .duplicate ∨ count.outcome = .dbUnavailable ∨
      count.outcome = .dbError)) ∨
    count = ⟨.str "unknown", .unexpectedError⟩ ∨ count = ⟨.str "ORDER_APPROVED", .publishFailed⟩

lemma World.publish_counts (w : World) (ext : Externals) (env : CallEnv) (eventId : Json)
    (order : Snapshot) :
    ∃ new, (w.publish ext env eventId order).counts = w.counts ++ new ∧
      ∀ count ∈ new, count.Labelled := by
  have hfailed : ∀ count ∈ [(⟨.str "ORDER_APPROVED", .publishFailed⟩ : Count)], count.Labelled := by
    intro count hcount
    rw [List.mem_singleton.mp hcount]
    exact .inr (.inr rfl)
  unfold World.publish
  cases ext.dumps order with
  | error e => exact ⟨[_], rfl, hfailed⟩
  | ok value =>
    cases env.send with
    | none => exact ⟨[], (List.append_nil _).symm, by simp⟩
    | some e => exact ⟨[_], rfl, hfailed⟩

/-- After the attempts at an event of the receiver. -/
lemma conclude_counts {t : EventType} (htype : event.getItem "event_type" = .ok (.str t.text))
    (env : CallEnv) (result : Except Exn (Option Outbox)) (w : World) :
    ∃ new, (conclude ext env event eventId result w).2.counts = w.counts ++ new ∧
      ∀ count ∈ new, count.Labelled := by
  have hcounted : ∀ outcome, (outcome = .success ∨ outcome = .duplicate ∨ outcome = .dbUnavailable ∨
      outcome = .dbError) → ∀ count ∈ [(⟨.str t.text, outcome⟩ : Count)], count.Labelled := by
    intro outcome houtcome count hcount
    rw [List.mem_singleton.mp hcount]
    exact .inl ⟨t, rfl, houtcome⟩
  have hsuccess := hcounted .success (.inl rfl)
  cases result with
  | error x =>
    cases x with
    | duplicateEvent id =>
      simp only [conclude, World.countEvent, htype]
      exact ⟨[_], rfl, hcounted .duplicate (.inr (.inl rfl))⟩
    | sql e =>
      simp only [conclude]
      split_ifs
      · simp only [World.countEvent, htype]
        exact ⟨[_], rfl, hcounted .dbUnavailable (.inr (.inr (.inl rfl)))⟩
      · simp only [World.countEvent, htype]
        exact ⟨[_], rfl, hcounted .dbError (.inr (.inr (.inr rfl)))⟩
    | python e =>
      refine ⟨[_], rfl, fun count hcount => ?_⟩
      rw [List.mem_singleton.mp hcount]
      exact .inr (.inl rfl)
  | ok outbox =>
    simp only [conclude, World.countEvent, htype]
    cases outbox with
    | none => exact ⟨[_], rfl, hsuccess⟩
    | some o =>
      dsimp only
      split_ifs
      · obtain ⟨new, heq, hnew⟩ := World.publish_counts (w.count (.str t.text) .success) ext env
          eventId o.order
        refine ⟨⟨.str t.text, .success⟩ :: new, ?_, ?_⟩
        · rw [heq, World.count, List.append_assoc]
          rfl
        · intro count hcount
          rcases List.mem_cons.mp hcount with rfl | hcount
          · exact .inl ⟨t, rfl, .inl rfl⟩
          · exact hnew count hcount
      · exact ⟨[_], rfl, hsuccess⟩

lemma labelled_of_append {counts counts' new : List Count}
    (hold : ∀ count ∈ counts, count.Labelled) (heq : counts' = counts ++ new)
    (hnew : ∀ count ∈ new, count.Labelled) : ∀ count ∈ counts', count.Labelled := by
  subst heq
  exact List.forall_mem_append.mpr ⟨hold, hnew⟩

/-- A message of the receiver decodes, and has a type that the receiver knows. -/
lemma Published.decodeEvent (h : Published ext dumps partitioner p msg) :
    ∃ event eventId, ∃ t : EventType, EventPipeline.decodeEvent ext msg.value = .ok (event, eventId) ∧
      event.getItem "event_type" = .ok (.str t.text) := by
  obtain ⟨env, envelope, -, -, -, -, hloads⟩ := h
  refine ⟨envelope.body env.time, .str envelope.eventId, envelope.eventType, ?_, rfl⟩
  simp only [EventPipeline.decodeEvent, hloads]
  rfl

lemma Handling.Returns.labelled {attended : Attempt → Call → Database → Prop} {c : Handling}
    {w w' : World} (hmsg : Published ext dumps partitioner p msg)
    (h : Handling.Returns ext attended c w w') (hon : c.On ext msg)
    (hw : ∀ count ∈ w.counts, count.Labelled) : ∀ count ∈ w'.counts, count.Labelled := by
  obtain ⟨event, eventId, t, hdec, htype⟩ := hmsg.decodeEvent
  cases h with
  | malformed env => cases hdec.symm.trans hon.2
  | @ended _ call result db env ha h hlast hr =>
    have heq := hdec.symm.trans (show decodeEvent ext msg.value = _ from hon)
    obtain ⟨rfl, rfl⟩ := Prod.mk.inj (Except.ok.inj heq)
    obtain ⟨new, hcounts, hnew⟩ := conclude_counts htype env result { w with db }
    exact labelled_of_append hw hcounts hnew

lemma Handling.Breaks.labelled {c : Handling} {w w' : World}
    (hmsg : Published ext dumps partitioner p msg) (h : Handling.Breaks ext c w w')
    (hon : c.On ext msg) (hw : ∀ count ∈ w.counts, count.Labelled) :
    ∀ count ∈ w'.counts, count.Labelled := by
  obtain ⟨event, eventId, t, hdec, htype⟩ := hmsg.decodeEvent
  cases h with
  | malformed env => cases hdec.symm.trans hon.2
  | attempt env => exact hw
  | @ended _ _ call result db env h hpartly =>
    have heq := hdec.symm.trans (show decodeEvent ext msg.value = _ from hon)
    obtain ⟨rfl, rfl⟩ := Prod.mk.inj (Except.ok.inj heq)
    obtain ⟨new, hcounts, hnew⟩ := conclude_counts htype env result { w with db }
    exact fun count hcount => labelled_of_append hw hcounts hnew count
      (hpartly.counts.2.subset hcount)

lemma Replicas.Reachable.labelled {attended : Attempt → Call → Database → Prop} {g : Replicas}
    (h : g.Reachable ext (Published ext dumps partitioner) attended) :
    ∀ count ∈ g.state.counts, count.Labelled := by
  induction h with
  | start => simp [Group.start, World.start]
  | @step g g' h hs ih =>
    have hi := Replicas.Reachable.located h
    cases hs with
    | published => exact ih
    | assigned => exact ih
    | fetched => exact ih
    | began => exact ih
    | committed => exact ih
    | stopped => exact ih
    | wentOn hbusy hgo =>
      cases hgo with
      | retried => exact ih
    | returned hb hbusy hr =>
      obtain ⟨p, msg, hmem, hon⟩ := Replicas.on_of_busy hi hbusy
      exact Handling.Returns.labelled (Replicas.Reachable.routed_of_mem h hmem) hr hon ih
    | broken hbusy hr =>
      obtain ⟨p, msg, hmem, hon⟩ := Replicas.on_of_busy hi hbusy
      exact Handling.Breaks.labelled (Replicas.Reachable.routed_of_mem h hmem) hr hon ih

/-! ### What the worker posts -/

variable {loads : ByteArray → Except PyError Json}

/-- What is posted for a record is what the record says. -/
lemma post_of_handleRecord {env : WorkerEnv} {record : ApprovedRecord} {effects : List Effect}
    {payload : Json} {response : Response}
    (h : .post payload response ∈ (handleRecord loads env record effects).2) :
    .post payload response ∈ effects ∨ loads record.value = .ok payload := by
  have hdead : ∀ effects, .post payload response ∈ (deadLetter env record effects).2 →
      .post payload response ∈ effects := by
    intro effects hmem
    unfold deadLetter at hmem
    split at hmem <;> simpa using hmem
  unfold handleRecord at h
  cases hloads : loads record.value with
  | error e =>
    simp only [hloads] at h
    exact .inl h
  | ok value =>
    cases hget : value.get "order_id" .null with
    | error e =>
      simp only [hloads, hget] at h
      exact .inl h
    | ok orderId =>
      obtain ⟨n, -, -, -, hdeliver⟩ := deliver_eq env.responses value effects
      simp only [hloads, hget, hdeliver] at h
      have hposts : .post payload response ∈ effects ++
          (List.range (n + 1)).map fun j => .post value (env.responses j) := by
        cases hcheck : (env.responses n).check with
        | ok =>
          rw [hcheck] at h
          simpa using h
        | error x =>
          rw [hcheck] at h
          cases x with
          | transient text => exact hdead _ h
          | httpStatus code => exact hdead _ h
          | other e => exact h
      refine (List.mem_append.mp hposts).imp id fun hmem => ?_
      obtain ⟨j, -, hj⟩ := List.mem_map.mp hmem
      cases hj
      rfl

/-- The order of a record is posted once to an ERP that answers. -/
lemma handleRecord_healthy {record : ApprovedRecord} {fields : List (String × Json)}
    (h : loads record.value = .ok (.obj fields)) (effects : List Effect) :
    handleRecord loads healthyErp record effects =
      (.ok (), effects ++ [.post (.obj fields) (.answered 201), .counted .success]) := by
  have hdeliver : deliver healthyErp.responses (.obj fields) effects =
      (.ok (), effects ++ [.post (.obj fields) (.answered 201)]) := rfl
  have hget : ∃ orderId, (Json.obj fields).get "order_id" .null = .ok orderId := ⟨_, rfl⟩
  obtain ⟨orderId, hget⟩ := hget
  simp only [handleRecord, h, hget, hdeliver, List.append_assoc, List.cons_append, List.nil_append]

lemma Worker.Reachable.posted {r : Worker} (h : Worker.Reachable loads r) {payload : Json}
    {response : Response} (hpost : .post payload response ∈ r.state) :
    ∃ q, ∃ record ∈ r.log q, loads record.value = .ok payload := by
  induction h with
  | start => cases hpost
  | @step r r' h hs ih =>
    cases hs with
    | @published q record _ =>
      obtain ⟨q', record', hmem, hloads⟩ := ih hpost
      refine ⟨q', record', ?_, hloads⟩
      by_cases hq : q' = q
      · subst hq
        rw [Reader.publish_log_self]
        exact List.mem_append_left _ hmem
      · rw [Reader.publish_log_of_ne hq]
        exact hmem
    | next => exact ih hpost
    | @handled q record effects hb hr =>
      obtain ⟨env, hr⟩ := hr
      have hpost' : .post payload response ∈ (handleRecord loads env record r.state).2 := by
        rw [hr]
        exact hpost
      rcases post_of_handleRecord hpost' with hold | hloads
      · exact ih hold
      · exact ⟨q, record, h.reader.inv.mem_log hb, hloads⟩
    | @died q record effects hb hd =>
      obtain ⟨env, -, hpart⟩ := hd
      rcases post_of_handleRecord (hpart.subset hpost) with hold | hloads
      · exact ih hold
      · exact ⟨q, record, h.reader.inv.mem_log hb, hloads⟩
    | committed => exact ih hpost
    | stopped => exact ih hpost

/-! ### The whole -/

namespace Pipeline

variable {s s' : Pipeline}

/-- Each part of the pipeline runs by itself, and `order-approved` has what the consumers sent. -/
structure Inv (ext : Externals) (dumps : Json → Except PyError ByteArray) (partitioner : String → ℕ)
    (s : Pipeline) : Prop where
  replicas : s.replicas.Reachable ext (Published ext dumps partitioner) fun _ _ _ => True
  worker : Worker.Reachable ext.loads s.worker
  announced : ∀ q, ∀ record ∈ s.worker.log q, ∃ send ∈ s.replicas.state.sent,
    record.value = send.value ∧ record.key = some send.key.toUTF8 ∧ q = partitioner send.key

lemma Inv.step (h : Inv ext dumps partitioner s) (hs : Step ext dumps partitioner s s') :
    Inv ext dumps partitioner s' := by
  cases hs with
  | @consumed g hs =>
    refine ⟨Group.Reachable.step h.replicas hs, h.worker, fun q record hrecord => ?_⟩
    obtain ⟨send, hsend, hrest⟩ := h.announced q record hrecord
    refine ⟨send, ?_, hrest⟩
    rcases Replicas.Step.publishes h.replicas.located hs with heq | ⟨p, msg, -, heq |
      ⟨event, eventId, ob, value, accepted, -, -, -, heq⟩⟩
    · exact heq ▸ hsend
    · exact heq ▸ hsend
    · rw [heq]
      exact List.mem_append_left _ hsend
  | @announced send offset hsend hoffset =>
    refine ⟨h.replicas, h.worker.step (.published hoffset), fun q record hrecord => ?_⟩
    by_cases hq : q = partitioner send.key
    · subst hq
      rw [Reader.publish_log_self] at hrecord
      rcases List.mem_append.mp hrecord with hold | hnew
      · exact h.announced _ record hold
      · rw [List.mem_singleton.mp hnew]
        exact ⟨send, hsend, rfl, rfl, rfl⟩
    · rw [Reader.publish_log_of_ne hq] at hrecord
      exact h.announced q record hrecord
  | delivered hs hlog =>
    refine ⟨h.replicas, h.worker.step hs, fun q record hrecord => ?_⟩
    exact h.announced q record (hlog ▸ hrecord)

lemma Reachable.inv (h : Reachable ext dumps partitioner s) : Inv ext dumps partitioner s := by
  induction h with
  | start => exact ⟨.start, .start, fun q record hrecord => by cases hrecord⟩
  | step _ hs ih => exact ih.step hs

/-- The records of `order-approved` hold objects. -/
lemma Inv.object (h : Inv ext dumps partitioner s)
    (hdumps : ∀ snapshot value, ext.dumps snapshot = .ok value →
      ∃ fields, ext.loads value = .ok (.obj fields)) :
    ∀ q, ∀ record ∈ s.worker.log q, ∃ fields, ext.loads record.value = .ok (.obj fields) := by
  intro q record hrecord
  obtain ⟨send, hsend, hvalue, -, -⟩ := h.announced q record hrecord
  obtain ⟨p, msg, hmsg, event, eventId, data, name, snapshot, hdec, hattested⟩ :=
    h.replicas.attested hsend
  rw [hvalue]
  exact hdumps snapshot send.value hattested.value

/-- Whatever is posted to the ERP, however many replicas there are and whatever fails, is repeated
or is lost between the processes: it is the snapshot of an order that the tables have, with an
approval in its history and in the snapshot, whose event is in the ledger and was posted to the
receiver for this order. -/
theorem erp_told_of_approvals (ext : Externals) (dumps : Json → Except PyError ByteArray)
    (partitioner : String → ℕ) {s : Pipeline} (h : s.Reachable ext dumps partitioner)
    {payload : Json} {response : Response} (hpost : .post payload response ∈ s.worker.state) :
    ∃ (env : RequestEnv) (envelope : WebhookEnvelope) (name : Json) (snapshot : Snapshot),
      (∃ p, ∃ msg ∈ s.replicas.log p, ext.loads msg.value = .ok (envelope.body env.time)) ∧
      envelope.eventType = .orderStatusChanged ∧
      envelope.data.lookup "external_order_id" = some name ∧
      envelope.data.lookup "new_status" = some (.str "APPROVED") ∧
      (∃ value, ext.dumps snapshot = .ok value ∧ ext.loads value = .ok payload) ∧
      snapshot.order.status.text = "APPROVED" ∧
      InLedger ext.sql (.str envelope.eventId) s.replicas.state.db ∧
      (∃ o ∈ s.replicas.state.db.ordersNamed ext.sql name, o.orderId = snapshot.order.orderId ∧
        o.externalOrderId = snapshot.order.externalOrderId) ∧
      ∃ row ∈ s.replicas.state.db.statusHistory, row.orderId = snapshot.order.orderId ∧
        row.newStatus.text = "APPROVED" ∧
        ext.sql.varchar 100 "source_event_id" (.str envelope.eventId) = .ok row.sourceEventId := by
  have hinv := h.inv
  obtain ⟨q, record, hrecord, hloads⟩ := hinv.worker.posted hpost
  obtain ⟨send, hsend, hvalue, -, -⟩ := hinv.announced q record hrecord
  obtain ⟨p, msg, hmsg, event, eventId, data, name, snapshot, hdec, hattested⟩ :=
    hinv.replicas.attested hsend
  obtain ⟨env, envelope, -, -, -, -, hbody⟩ := hinv.replicas.routed_of_mem hmsg
  obtain rfl : event = envelope.body env.time :=
    Except.ok.inj ((loads_of_decodeEvent hdec).symm.trans hbody)
  obtain rfl : eventId = .str envelope.eventId :=
    (Except.ok.inj (decodeEvent_eventId hdec)).symm
  obtain rfl : data = .obj envelope.data := (Except.ok.inj hattested.change.data_eq).symm
  have htype : envelope.eventType = .orderStatusChanged := by
    have htext := Except.ok.inj hattested.change.type_eq
    cases heventType : envelope.eventType <;> simp [heventType, EventType.text] at htext ⊢
  obtain ⟨fields, hfields, hname⟩ := Json.getItem_ok hattested.change.name_eq
  obtain ⟨fields', hfields', hstatus⟩ := Json.getItem_ok hattested.change.newStatus_eq
  cases hfields
  cases hfields'
  rw [hvalue] at hloads
  exact ⟨env, envelope, name, snapshot, ⟨p, msg, hmsg, hbody⟩, htype, hname, hstatus,
    ⟨send.value, hattested.value, hloads⟩, hattested.status, hattested.claimed, hattested.order,
    hattested.history⟩

/-- What the pipeline itself puts on its topics is read: a call on a message of the receiver returns,
whatever fails, and the counters have labels of a fixed set, none for a message that is malformed; and
if `orjson` reads objects where it wrote snapshots, every record of `order-approved` is delivered or
routed to the dead-letter topic by an ERP that answers. -/
theorem pipeline_readable (ext : Externals) (dumps : Json → Except PyError ByteArray)
    (partitioner : String → ℕ) (hdumps : ∀ snapshot value, ext.dumps snapshot = .ok value →
      ∃ fields, ext.loads value = .ok (.obj fields))
    {s : Pipeline} (h : s.Reachable ext dumps partitioner) :
    (∀ p, ∀ msg ∈ s.replicas.log p, ∀ env w, (handleMessage ext env msg w).1 = .ok ()) ∧
      (∀ count ∈ s.replicas.state.counts, count.Labelled) ∧
      ∀ q, ∀ record ∈ s.worker.log q, ∀ env commit effects, env.Answers →
        Concluded ext.loads env commit record effects
          (mainIteration ext.loads env commit record effects) := by
  have hinv := h.inv
  refine ⟨fun p msg hmsg env w => ?_, hinv.replicas.labelled, fun q record hrecord => ?_⟩
  · obtain ⟨event, eventId, t, hdec, htype⟩ := (hinv.replicas.routed_of_mem hmsg).decodeEvent
    exact handleMessage_typed hdec htype env w
  · intro env commit effects hanswers
    obtain ⟨fields, hfields⟩ := hinv.object hdumps q record hrecord
    exact concluded_of_object hfields hanswers

/-! ### An order, its approval, and the ERP -/

lemma reachable_of_replicas {g : Replicas}
    (h : g.Reachable ext (Published ext dumps partitioner) fun _ _ _ => True) :
    Reachable ext dumps partitioner ⟨g, .start []⟩ := by
  induction h with
  | start => exact .start
  | step _ hs ih => exact ih.step (.consumed hs)

/-- The webhook of an order that is created, or approved. -/
def webhook (eventId : String) (eventType : EventType) (data : List (String × Json))
    (length_eventId : 1 ≤ eventId.length ∧ eventId.length ≤ 100) : WebhookEnvelope :=
  ⟨eventId, eventType, "2026-01-01T00:00:00Z", data, length_eventId⟩

lemma length_createdId : 1 ≤ "e1".length ∧ "e1".length ≤ 100 := by decide

lemma length_approvedId : 1 ≤ "e2".length ∧ "e2".length ≤ 100 := by decide

def createdWebhook : WebhookEnvelope :=
  webhook "e1" .orderCreated [("external_order_id", .str "o1"), ("total_amount", .int 10),
    ("client", .obj [("external_client_id", .str "c1"), ("name", .str "Ana"),
      ("email", .str "a@b"), ("document", .str "1")]),
    ("address", .obj [("external_address_id", .str "a1"), ("street", .str "Rua A"),
      ("number", .str "1"), ("neighborhood", .str "Centro"), ("city", .str "Recife"),
      ("state", .str "PE"), ("postal_code", .str "50000"), ("country", .str "BR")])] length_createdId

def approvedWebhook : WebhookEnvelope :=
  webhook "e2" .orderStatusChanged
    [("external_order_id", .str "o1"), ("new_status", .str "APPROVED")] length_approvedId

/-- A text in a column that is wide enough for it. -/
def column (n : ℕ) (text : String) : Varchar n :=
  if h : text.length ≤ n then ⟨text, h⟩ else ⟨"", Nat.zero_le n⟩

/-- The order as it is announced. -/
def announcedSnapshot : Snapshot where
  order := {
    orderId := 1
    externalOrderId := column _ "o1"
    status := column _ "APPROVED"
    totalAmount := 1000
    currency := column _ "BRL"
    orderDate := .clock 4
    externalClientId := column _ "c1"
    clientName := column _ "Ana"
    clientEmail := column _ "a@b"
    clientDocument := column _ "1"
    address := fun
      | .street => some "Rua A"
      | .number => some "1"
      | .complement => none
      | .neighborhood => some "Centro"
      | .city => some "Recife"
      | .state => some "PE"
      | .postalCode => some "50000"
      | .country => some "BR" }
  items := []

/-- What `orjson` reads of it. -/
def announcedOrder : Json :=
  .obj [("order_id", .int 1), ("external_order_id", .str "o1"), ("status", .str "APPROVED"),
    ("total_amount", .num ⟨100, 1⟩), ("currency", .str "BRL"),
    ("order_date", .str "1970-01-01T00:00:04"), ("external_client_id", .str "c1"),
    ("client_name", .str "Ana"), ("client_email", .str "a@b"), ("client_document", .str "1"),
    ("street", .str "Rua A"), ("number", .str "1"), ("complement", .null),
    ("neighborhood", .str "Centro"), ("city", .str "Recife"), ("state", .str "PE"),
    ("postal_code", .str "50000"), ("country", .str "BR"), ("items", .arr [])]

/-- What the topics carry. -/
def relayTable : List (String × Json) :=
  [((createdWebhook.body RequestEnv.healthy.time).render,
      createdWebhook.body RequestEnv.healthy.time),
    ((approvedWebhook.body RequestEnv.healthy.time).render,
      approvedWebhook.body RequestEnv.healthy.time),
    (announcedSnapshot.json, announcedOrder)]

def relayExternals : Externals :=
  { Externals.reading relayTable with
    dumps := fun s =>
      if s = announcedSnapshot then .ok s.json.toUTF8
      else .error ⟨"Type is not JSON serializable"⟩ }

lemma dumps_relay {s : Snapshot} (h : s = announcedSnapshot) :
    relayExternals.dumps s = .ok s.json.toUTF8 := by
  simp only [relayExternals, if_pos h]

/-- The two requests. -/
inductive Relayed : WebhookEnvelope → Prop
  | created : Relayed createdWebhook
  | approved : Relayed approvedWebhook

lemma loads_relay {text : String} {v : Json} (h : List.lookup text relayTable = some v) :
    relayExternals.loads text.toUTF8 = .ok v :=
  loads_reading h

lemma loads_relayed {envelope : WebhookEnvelope} (h : Relayed envelope) :
    relayExternals.loads (envelope.body RequestEnv.healthy.time).render.toUTF8 =
      .ok (envelope.body RequestEnv.healthy.time) := by
  have hne : (approvedWebhook.body RequestEnv.healthy.time).render ≠
      (createdWebhook.body RequestEnv.healthy.time).render := by
    obtain ⟨approved, happroved⟩ : ∃ fields, approvedWebhook.body RequestEnv.healthy.time =
      .obj (("event_id", .str "e2") :: fields) := ⟨_, rfl⟩
    obtain ⟨created, hcreated⟩ : ∃ fields, createdWebhook.body RequestEnv.healthy.time =
      .obj (("event_id", .str "e1") :: fields) := ⟨_, rfl⟩
    rw [happroved, hcreated]
    exact Json.render_ne (by decide) (by decide)
  apply loads_relay
  cases h with
  | created => rw [relayTable, lookup_head]
  | approved => rw [relayTable, lookup_tail hne, lookup_head]

lemma json_ne_render (s : Snapshot) (envelope : WebhookEnvelope) (time : Number) :
    s.json ≠ (envelope.body time).render := by
  have hjson : ∃ value l, s.json =
      "\x7b" ++ ",".intercalate (("\"" ++ "order_id" ++ "\":" ++ value) :: l) ++ "\x7d" := ⟨_, _, rfl⟩
  have hrender : ∃ value l, (envelope.body time).render =
      "\x7b" ++ ",".intercalate (("\"" ++ "event_id" ++ "\":" ++ value) :: l) ++ "\x7d" := ⟨_, _, rfl⟩
  obtain ⟨value, l, hjson⟩ := hjson
  obtain ⟨value', l', hrender⟩ := hrender
  rw [hjson, hrender]
  exact @Json.braced_ne _ _ _ _ 1 'o' 'e' (by simp) (by simp) (by decide)

lemma loads_announced :
    relayExternals.loads announcedSnapshot.json.toUTF8 = .ok announcedOrder := by
  have hne := fun envelope => json_ne_render announcedSnapshot envelope RequestEnv.healthy.time
  apply loads_relay
  rw [relayTable, lookup_tail (hne _), lookup_tail (hne _), lookup_head]

lemma dumps_object (snapshot : Snapshot) (value : ByteArray)
    (h : relayExternals.dumps snapshot = .ok value) :
    ∃ fields, relayExternals.loads value = .ok (.obj fields) := by
  by_cases hsnapshot : snapshot = announcedSnapshot
  · rw [dumps_relay hsnapshot, hsnapshot] at h
    rw [← Except.ok.inj h]
    exact ⟨_, loads_announced⟩
  · simp only [relayExternals, if_neg hsnapshot] at h
    cases h

/-- The message of a webhook. -/
def webhookMessage (offset : ℕ) (envelope : WebhookEnvelope) : Message :=
  ⟨offset, (envelope.body RequestEnv.healthy.time).render.toUTF8⟩

lemma published_webhook {envelope : WebhookEnvelope} {key : String}
    (hkey : envelope.partitionKey = .str key) (h : Relayed envelope) (offset : ℕ) :
    Published relayExternals (fun v => .ok v.render.toUTF8) (fun _ => 0) 0
      (webhookMessage offset envelope) := by
  refine ⟨.healthy, envelope, ⟨key, (webhookMessage offset envelope).value, true⟩, ?_, rfl, rfl, ?_⟩
  · simp only [receiveWebhook, hkey]
    exact List.mem_singleton_self _
  · simp only [webhookMessage, loads_relayed h]

lemma decodeEvent_webhook {envelope : WebhookEnvelope} (h : Relayed envelope) (offset : ℕ) :
    decodeEvent relayExternals (webhookMessage offset envelope).value =
      .ok (envelope.body RequestEnv.healthy.time, .str envelope.eventId) := by
  simp only [decodeEvent, webhookMessage, loads_relayed h]
  rfl

def relayCalls : List (CallEnv × Message) :=
  [(.healthy, webhookMessage 0 createdWebhook), (.healthy, webhookMessage 1 approvedWebhook)]

/-- The state in which the order has been created. -/
def createdState : Database :=
  (runAttempts .plain CallEnv.healthy.attempts (createdWebhook.body RequestEnv.healthy.time)
    (.str "e1") .empty).2

lemma approved_runs : ∃ o db, runAttempts .plain CallEnv.healthy.attempts
      (approvedWebhook.body RequestEnv.healthy.time) (.str "e2") createdState = (.ok (some o), db) ∧
    o.eventType = "ORDER_APPROVED" ∧ o.order = announcedSnapshot := by
  have hannounced : ((runAttempts .plain CallEnv.healthy.attempts
      (approvedWebhook.body RequestEnv.healthy.time) (.str "e2") createdState).1.toOption.join.any
        fun o => o.eventType = "ORDER_APPROVED" && o.order = announcedSnapshot) = true := by
    decide
  generalize runAttempts .plain CallEnv.healthy.attempts
    (approvedWebhook.body RequestEnv.healthy.time) (.str "e2") createdState = run at hannounced ⊢
  obtain ⟨result, db⟩ := run
  cases result with
  | error x => cases hannounced
  | ok outbox =>
    cases outbox with
    | none => cases hannounced
    | some o =>
      simp only [Except.toOption, Option.join_some, Option.any_some, Bool.and_eq_true,
        decide_eq_true_eq] at hannounced
      exact ⟨o, db, rfl, hannounced⟩

/-- The approved order is handed to `order-approved`. -/
lemma approved_sent {w : World} (hw : w.db = createdState) :
    ⟨"1", announcedSnapshot.json.toUTF8, true⟩ ∈
      (handleMessage relayExternals .healthy (webhookMessage 1 approvedWebhook) w).2.sent := by
  obtain ⟨o, db, hrun, htype, horder⟩ := approved_runs
  have hdec := decodeEvent_webhook .approved 1
  have hlabel : (approvedWebhook.body RequestEnv.healthy.time).getItem "event_type" =
      .ok (.str "ORDER_STATUS_CHANGED") := rfl
  have hattempts : runAttempts relayExternals.sql CallEnv.healthy.attempts
      (approvedWebhook.body RequestEnv.healthy.time) (.str approvedWebhook.eventId) w.db =
        (.ok (some o), db) := by
    have hsql : relayExternals.sql = .plain := rfl
    have hid : approvedWebhook.eventId = "e2" := rfl
    rw [hw, hsql, hid, hrun]
  have hdumps := dumps_relay (rfl : announcedSnapshot = announcedSnapshot)
  have hkey : toString announcedSnapshot.order.orderId = "1" := rfl
  have hsend : CallEnv.healthy.send = none := rfl
  simp only [handleMessage, hdec, hattempts, conclude, World.countEvent, hlabel, htype, if_true,
    World.publish, horder, hdumps, hsend, hkey]
  exact List.mem_append_right _ (List.mem_singleton_self _)

-- For any two calls: the kernel would evaluate the first of two given ones.
lemma sent_of_second {env env' : CallEnv} {msg' : Message} {w : World} {send : Send}
    (h : send ∈ (handleMessage ext env' msg' (handleMessage ext env msg w).2).2.sent) :
    send ∈ (handleAll ext [(env, msg), (env', msg')] w).sent :=
  h

lemma relayCalls_sent : ⟨"1", announcedSnapshot.json.toUTF8, true⟩ ∈
    (handleAll relayExternals relayCalls .start).sent := by
  have hcreated : (handleMessage relayExternals .healthy (webhookMessage 0 createdWebhook)
      .start).2.db = createdState := by
    have hsql : relayExternals.sql = .plain := rfl
    have hid : createdWebhook.eventId = "e1" := rfl
    have hempty : World.start.db = .empty := rfl
    rw [handleMessage_db (decodeEvent_webhook .created 0) .healthy .start, hempty, hsql, hid,
      createdState]
  exact sent_of_second (approved_sent hcreated)

/-- The order, as it was handed to `order-approved`. -/
def announcedRecord : ApprovedRecord :=
  ⟨0, some "1".toUTF8, announcedSnapshot.json.toUTF8⟩

lemma loads_announcedRecord :
    relayExternals.loads announcedRecord.value = .ok announcedOrder := by
  have hvalue : announcedRecord.value = announcedSnapshot.json.toUTF8 := rfl
  rw [hvalue, loads_announced]

lemma handleRecord_announced :
    handleRecord relayExternals.loads healthyErp announcedRecord [] =
      (.ok (), [.post announcedOrder (.answered 201), .counted .success]) := by
  have hloads := loads_announcedRecord
  generalize relayExternals.loads = loads at hloads
  exact handleRecord_healthy hloads []

lemma relayCalls_ok : ∀ call ∈ relayCalls, ∀ w : World,
    (handleMessage relayExternals call.1 call.2 w).1 = .ok () := by
  intro call hcall w
  rcases List.mem_cons.mp hcall with rfl | hcall
  · exact handleMessage_typed (decodeEvent_webhook .created 0) rfl _ w
  · rw [List.mem_singleton.mp hcall]
    exact handleMessage_typed (decodeEvent_webhook .approved 1) rfl _ w

/-- A replica announces the order. -/
lemma exists_announced : ∃ g : Replicas, g.Reachable relayExternals
      (Published relayExternals (fun v => .ok v.render.toUTF8) fun _ => 0) (fun _ _ _ => True) ∧
    ⟨"1", announcedSnapshot.json.toUTF8, true⟩ ∈ g.state.sent := by
  have hrouted : ∀ call ∈ relayCalls,
      Published relayExternals (fun v => .ok v.render.toUTF8) (fun _ => 0) 0 call.2 := by
    intro call hcall
    rcases List.mem_cons.mp hcall with rfl | hcall
    · exact published_webhook rfl .created 0
    · rw [List.mem_singleton.mp hcall]
      exact published_webhook rfl .approved 1
  obtain ⟨g, hg, -, -, hstate⟩ := @Replicas.exists_replicas relayExternals (fun _ _ _ => True)
    (Published relayExternals (fun v => .ok v.render.toUTF8) (fun _ => 0)) relayCalls
    (.healthy, webhookMessage 1 approvedWebhook) (by simp [relayCalls, webhookMessage]) rfl hrouted
    (fun _ _ _ _ _ _ => trivial) relayCalls_ok
  refine ⟨g, hg, ?_⟩
  rw [hstate]
  exact relayCalls_sent

/-- The order goes all the way. -/
lemma exists_relayed : ∃ s, Reachable relayExternals (fun v => .ok v.render.toUTF8) (fun _ => 0) s ∧
    .post announcedOrder (.answered 201) ∈ s.worker.state := by
  obtain ⟨g, hg, hsend⟩ := exists_announced
  have hannounced := (reachable_of_replicas hg).step
    (@Step.announced _ _ _ _ _ 0 hsend (by simp [Reader.start]))
  have hnext : ((Reader.start [] : Worker).publish 0 announcedRecord |>.pending
      ApprovedRecord.offset 0 0).head? = some announcedRecord := by
    simp [Reader.start, Reader.publish, Reader.pending, announcedRecord]
  have hfetched := hannounced.step (.delivered (.next rfl hnext) rfl)
  have hhandled := hfetched.step (.delivered (.handled rfl ⟨healthyErp, handleRecord_announced⟩) rfl)
  exact ⟨_, hhandled, List.mem_cons_self⟩

/-- What the tables have of the order when it has reached the ERP. -/
theorem erp_told_of_approval : ∃ s, Reachable relayExternals (fun v => .ok v.render.toUTF8)
    (fun _ => 0) s ∧ ∃ (env : RequestEnv) (envelope : WebhookEnvelope) (name : Json)
      (snapshot : Snapshot),
    (∃ p, ∃ msg ∈ s.replicas.log p,
      relayExternals.loads msg.value = .ok (envelope.body env.time)) ∧
    envelope.eventType = .orderStatusChanged ∧
    envelope.data.lookup "external_order_id" = some name ∧
    envelope.data.lookup "new_status" = some (.str "APPROVED") ∧
    (∃ value, relayExternals.dumps snapshot = .ok value ∧
      relayExternals.loads value = .ok announcedOrder) ∧
    snapshot.order.status.text = "APPROVED" ∧
    InLedger relayExternals.sql (.str envelope.eventId) s.replicas.state.db ∧
    (∃ o ∈ s.replicas.state.db.ordersNamed relayExternals.sql name,
      o.orderId = snapshot.order.orderId ∧ o.externalOrderId = snapshot.order.externalOrderId) ∧
    ∃ row ∈ s.replicas.state.db.statusHistory, row.orderId = snapshot.order.orderId ∧
      row.newStatus.text = "APPROVED" ∧ relayExternals.sql.varchar 100 "source_event_id"
        (.str envelope.eventId) = .ok row.sourceEventId := by
  obtain ⟨s, hs, hpost⟩ := exists_relayed
  exact ⟨s, hs, erp_told_of_approvals relayExternals (fun v => .ok v.render.toUTF8) (fun _ => 0) hs
    hpost⟩

/-- Records and counters when the order has reached the ERP. -/
theorem pipeline_readable_relayed : ∃ s, Reachable relayExternals (fun v => .ok v.render.toUTF8)
    (fun _ => 0) s ∧ .post announcedOrder (.answered 201) ∈ s.worker.state ∧
    (∀ p, ∀ msg ∈ s.replicas.log p, ∀ env w,
      (handleMessage relayExternals env msg w).1 = .ok ()) ∧
    (∀ count ∈ s.replicas.state.counts, count.Labelled) ∧
    ∀ q, ∀ record ∈ s.worker.log q, ∀ env commit effects, env.Answers →
      Concluded relayExternals.loads env commit record effects
        (mainIteration relayExternals.loads env commit record effects) := by
  obtain ⟨s, hs, hpost⟩ := exists_relayed
  exact ⟨s, hs, hpost, pipeline_readable relayExternals (fun v => .ok v.render.toUTF8) (fun _ => 0)
    dumps_object hs⟩

end Pipeline

end EventPipeline

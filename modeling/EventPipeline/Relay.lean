import EventPipeline.Accounting
import EventPipeline.Erp

/-!
# How often the ERP is told

The producer of the consumers is idempotent: what they send is appended to `order-approved` once, or
not at all. While the worker goes on and no answer of the ERP is lost, an order is received by the
ERP or dead-lettered no more often than it was approved, however many replicas there are and however
often they read its approval again, and between two records as often as it was announced
(`told_once`).
-/

namespace EventPipeline

open Transaction

structure Relay where
  replicas : Replicas
  deliveries : Deliveries
  /-- What has been appended to `order-approved`. -/
  announced : List Send

namespace Relay

/-- A call of `send_and_wait` that fails may have appended its record, and none appends it twice. -/
inductive Step (ext : Externals) (dumps : Json → Except PyError ByteArray)
    (partitioner : String → ℕ) : Relay → Relay → Prop
  | consumed {s : Relay} {g : Replicas} (hs : Replicas.Step ext (Published ext dumps partitioner)
      (fun _ _ _ => True) s.replicas g) : Step ext dumps partitioner s { s with replicas := g }
  | announced {s : Relay} {send : Send} {offset : ℕ}
      (hsend : (send :: s.announced).Subperm s.replicas.state.sent)
      (h : ∀ m ∈ s.deliveries.worker.log (partitioner send.key), m.offset < offset) :
      Step ext dumps partitioner s { s with
        deliveries := ⟨s.deliveries.worker.publish (partitioner send.key)
          ⟨offset, some send.key.toUTF8, send.value⟩, s.deliveries.erp⟩
        announced := send :: s.announced }
  | delivered {s : Relay} {d : Deliveries}
      (hs : Deliveries.Step ext.loads False False s.deliveries d)
      (hlog : d.worker.log = s.deliveries.worker.log) :
      Step ext dumps partitioner s { s with deliveries := d }

inductive Reachable (ext : Externals) (dumps : Json → Except PyError ByteArray)
    (partitioner : String → ℕ) : Relay → Prop
  | start : Reachable ext dumps partitioner ⟨.start .start, ⟨.start [], ⟨[], []⟩⟩, []⟩
  | step {s s' : Relay} (h : Reachable ext dumps partitioner s)
      (hs : Step ext dumps partitioner s s') : Reachable ext dumps partitioner s'

end Relay

/-- `payload.get("order_id") == order_id` -/
def Json.tellsOf (orderId : ℕ) (payload : Json) : Bool :=
  match payload.get "order_id" .null with
  | .ok (.num n) => n = ⟨orderId, 0⟩
  | _ => false

/-- The text of a key. -/
def keyText (key : Option ByteArray) : Option String :=
  key.bind String.fromUTF8?

/-- The records of a key. -/
def Worker.recordsOf (r : Worker) (partitioner : String → ℕ) (key : String) : ℕ :=
  (r.log (partitioner key)).countP fun record => keyText record.key = some key

variable {ext : Externals} {dumps : Json → Except PyError ByteArray} {partitioner : String → ℕ}
  {loads : ByteArray → Except PyError Json}

@[simp] lemma keyText_toUTF8 (text : String) : keyText (some text.toUTF8) = some text :=
  fromUTF8?_toUTF8 text

lemma Json.tellsOf_of_get {payload : Json} {n : ℕ}
    (h : payload.get "order_id" .null = .ok (.int n)) (orderId : ℕ) :
    payload.tellsOf orderId = decide (n = orderId) := by
  simp only [Json.tellsOf, h, Json.int, Number.mk.injEq, Int.natCast_inj, and_true]

lemma toString_injective {m n : ℕ} (h : toString m = toString n) : m = n := by
  have hdigits : Nat.toDigits 10 m = Nat.toDigits 10 n := by
    rw [← Nat.toList_repr, ← Nat.toList_repr]
    exact congrArg String.toList h
  have hvalue := congrArg (Nat.ofDigitChars 10 · 0) hdigits
  simpa using hvalue

/-! ### The topic -/

lemma Worker.recordsOf_publish (r : Worker) (partitioner : String → ℕ) (key : String) (offset : ℕ)
    (value : ByteArray) (key' : String) :
    Worker.recordsOf (r.publish (partitioner key) ⟨offset, some key.toUTF8, value⟩) partitioner
        key' =
      r.recordsOf partitioner key' + if key = key' then 1 else 0 := by
  unfold Worker.recordsOf
  by_cases hp : partitioner key' = partitioner key
  · simp only [hp, Reader.publish_log_self, List.countP_append, List.countP_singleton,
      keyText_toUTF8, Option.some_inj, decide_eq_true_eq]
  · have hne : key ≠ key' := fun heq => hp (congrArg partitioner heq.symm)
    rw [Reader.publish_log_of_ne hp, if_neg hne, Nat.add_zero]

namespace Relay

variable {s s' : Relay}

/-- The pipeline runs, and so does the worker with the ERP; the topic has what was appended to it. -/
structure Inv (ext : Externals) (dumps : Json → Except PyError ByteArray) (partitioner : String → ℕ)
    (s : Relay) : Prop where
  pipeline : Pipeline.Reachable ext dumps partitioner ⟨s.replicas, s.deliveries.worker⟩
  deliveries : s.deliveries.Reachable ext.loads False False
  announced : s.announced.Subperm s.replicas.state.sent
  records : ∀ key, s.deliveries.worker.recordsOf partitioner key =
    s.announced.countP fun send => send.key = key

lemma Inv.step (h : Inv ext dumps partitioner s) (hs : Step ext dumps partitioner s s') :
    Inv ext dumps partitioner s' := by
  cases hs with
  | @consumed g hs =>
    refine ⟨h.pipeline.step (.consumed hs), h.deliveries, h.announced.trans ?_, h.records⟩
    rcases Replicas.Step.publishes h.pipeline.inv.replicas.located hs with heq | ⟨p, msg, -, heq |
      ⟨event, eventId, ob, value, accepted, -, -, -, heq⟩⟩
    · rw [heq]
    · rw [heq]
    · rw [heq]
      exact (List.sublist_append_left _ _).subperm
  | @announced send offset hsend hoffset =>
    refine ⟨h.pipeline.step (.announced (hsend.subset List.mem_cons_self) hoffset),
      h.deliveries.step (.advanced (.published hoffset) (List.append_nil _).symm (.nil _)), hsend,
      fun key => ?_⟩
    rw [Worker.recordsOf_publish, h.records key, List.countP_cons]
    simp only [decide_eq_true_eq]
  | @delivered d hs hlog =>
    refine ⟨?_, h.deliveries.step hs, h.announced, fun key => ?_⟩
    · cases hs with
      | advanced hadvance => exact h.pipeline.step (.delivered hadvance.step hlog)
      | stepped hi => exact hi.elim
    · rw [Worker.recordsOf, hlog]
      exact h.records key

lemma Reachable.inv (h : Reachable ext dumps partitioner s) : Inv ext dumps partitioner s := by
  induction h with
  | start => exact ⟨.start, .start, List.Subperm.refl _, fun key => rfl⟩
  | step _ hs ih => exact ih.step hs

/-! ### What was handled -/

variable {handled : List Handled}

/-- Records of one key are on one partition. -/
lemma Inv.countP_handled (h : Inv ext dumps partitioner s)
    (hd : DeliveredInv ext.loads handled s.deliveries) (key : String) :
    handled.countP (fun x => keyText x.record.key = some key) =
      ((handled.filter fun x => x.partition = partitioner key).map (·.record)).countP
        fun record => keyText record.key = some key := by
  rw [List.countP_map, List.countP_filter]
  refine List.countP_congr fun x hx => ?_
  simp only [Function.comp_apply, Bool.and_eq_true, decide_eq_true_eq, iff_self_and]
  intro hkey
  obtain ⟨send, -, -, hsend, hp⟩ := h.pipeline.inv.announced _ _ (hd.mem_log hx)
  rw [hsend, keyText_toUTF8] at hkey
  rw [hp, Option.some.inj hkey]

/-- An order is named by the key of its record and by what the record says. -/
lemma Inv.tellsOf (h : Inv ext dumps partitioner s)
    (horder : ∀ snapshot value payload, ext.dumps snapshot = .ok value →
      ext.loads value = .ok payload →
        payload.get "order_id" .null = .ok (.int snapshot.order.orderId))
    (hd : DeliveredInv ext.loads handled s.deliveries) {x : Handled} (hx : x ∈ handled)
    (orderId : ℕ) : x.payload.tellsOf orderId =
      decide (keyText x.record.key = some (toString orderId)) := by
  obtain ⟨send, hsend, hvalue, hkey, -⟩ := h.pipeline.inv.announced _ _ (hd.mem_log hx)
  obtain ⟨p, msg, hmsg, event, eventId, data, name, snapshot, hdec, hattested⟩ :=
    h.pipeline.inv.replicas.attested hsend
  have hget := horder snapshot send.value x.payload hattested.value (hvalue ▸ hd.payload x hx)
  have hiff : toString snapshot.order.orderId = toString orderId ↔ snapshot.order.orderId = orderId :=
    ⟨toString_injective, congrArg toString⟩
  rw [Json.tellsOf_of_get hget, hkey, hattested.key]
  simp only [keyText_toUTF8, Option.some_inj, hiff]

/-- What was received of an order and what was dead-lettered of it. -/
lemma Inv.received_add (h : Inv ext dumps partitioner s)
    (horder : ∀ snapshot value payload, ext.dumps snapshot = .ok value →
      ext.loads value = .ok payload →
        payload.get "order_id" .null = .ok (.int snapshot.order.orderId))
    (hd : DeliveredInv ext.loads handled s.deliveries) (orderId : ℕ) :
    s.deliveries.erp.received.countP (·.tellsOf orderId) +
        (deadLetters s.deliveries.worker.state).countP
          (fun letter => keyText letter.2 = some (toString orderId)) =
      handled.countP fun x => keyText x.record.key = some (toString orderId) := by
  have hreceived : (handled.filter (·.delivered)).countP (fun x => x.payload.tellsOf orderId) =
      (handled.filter (·.delivered)).countP
        fun x => keyText x.record.key = some (toString orderId) := by
    refine List.countP_congr fun x hx => ?_
    rw [h.tellsOf horder hd (List.mem_filter.mp hx).1]
  rw [hd.received, hd.dead, List.countP_map, List.countP_map,
    List.countP_eq_countP_filter_add handled _ (·.delivered)]
  exact congrArg₂ (· + ·) hreceived (by simp [Function.comp_def])

/-! ### The whole -/

/-- While the worker goes on and no answer of the ERP is lost, what the ERP received of an order and
what was dead-lettered of it are together no more than the approvals in its history; and between two
records, if all of `order-approved` is committed, as many as were announced of it. -/
theorem told_once (ext : Externals) (dumps : Json → Except PyError ByteArray)
    (partitioner : String → ℕ) (horder : ∀ snapshot value payload, ext.dumps snapshot = .ok value →
      ext.loads value = .ok payload →
        payload.get "order_id" .null = .ok (.int snapshot.order.orderId))
    {s : Relay} (h : s.Reachable ext dumps partitioner) (orderId : ℕ) :
    s.deliveries.erp.received.countP (·.tellsOf orderId) +
        (deadLetters s.deliveries.worker.state).countP
          (fun letter => keyText letter.2 = some (toString orderId)) ≤
        s.replicas.state.db.approvals (toString orderId) ∧
      (s.deliveries.worker.batches = [] →
        (∀ p, ∀ m ∈ s.deliveries.worker.log p, m.offset < s.deliveries.worker.committed p) →
        s.deliveries.erp.received.countP (·.tellsOf orderId) +
            (deadLetters s.deliveries.worker.state).countP
              (fun letter => keyText letter.2 = some (toString orderId)) =
          s.announced.countP fun send => send.key = toString orderId) := by
  have hinv := h.inv
  obtain ⟨handled, hd⟩ := hinv.deliveries.delivered
  rw [hinv.received_add horder hd, hinv.countP_handled hd, ← hinv.records]
  refine ⟨?_, fun hidle hall => ?_⟩
  · calc _ ≤ s.deliveries.worker.recordsOf partitioner (toString orderId) :=
          (hd.sublist _).countP_le
      _ = s.announced.countP fun send => send.key = toString orderId := hinv.records _
      _ ≤ s.replicas.state.announcements (toString orderId) := hinv.announced.countP_le _
      _ ≤ s.replicas.state.db.approvals (toString orderId) :=
          hinv.pipeline.inv.replicas.accounted.announcements _
  · have hcommitted := hd.committed_eq hinv.deliveries.worker hidle (partitioner (toString orderId))
    rw [hcommitted, List.filter_eq_self.mpr fun m hm => decide_eq_true (hall _ m hm)]
    rfl

/-! ### An order that the ERP is told of -/

lemma reachable_of_replicas {g : Replicas}
    (h : g.Reachable ext (Published ext dumps partitioner) fun _ _ _ => True) :
    Reachable ext dumps partitioner ⟨g, ⟨.start [], ⟨[], []⟩⟩, []⟩ := by
  induction h with
  | start => exact .start
  | step _ hs ih => exact ih.step (.consumed hs)

lemma handleRecord_twice :
    handleRecord Pipeline.relayExternals.loads flakyErp Pipeline.announcedRecord [] =
      (.ok (), [.post Pipeline.announcedOrder (.answered 503),
        .post Pipeline.announcedOrder (.answered 200), .counted .success]) := by
  have hloads := Pipeline.loads_announcedRecord
  generalize Pipeline.relayExternals.loads = loads at hloads
  exact handleRecord_flaky hloads []

lemma get_orderId (snapshot : Snapshot) (value : ByteArray) (payload : Json)
    (hvalue : Pipeline.relayExternals.dumps snapshot = .ok value)
    (hpayload : Pipeline.relayExternals.loads value = .ok payload) :
    payload.get "order_id" .null = .ok (.int snapshot.order.orderId) := by
  by_cases hsnapshot : snapshot = Pipeline.announcedSnapshot
  · rw [Pipeline.dumps_relay hsnapshot, hsnapshot] at hvalue
    rw [← Except.ok.inj hvalue, Pipeline.loads_announced] at hpayload
    rw [← Except.ok.inj hpayload, hsnapshot]
    rfl
  · simp only [Pipeline.relayExternals, if_neg hsnapshot] at hvalue
    cases hvalue

/-- The sample order reaches the ERP at the second POST. -/
lemma exists_relay : ∃ s : Relay,
    s.Reachable Pipeline.relayExternals (fun v => .ok v.render.toUTF8) (fun _ => 0) ∧
      s.deliveries.worker.batches = [] ∧
      (∀ p, ∀ m ∈ s.deliveries.worker.log p, m.offset < s.deliveries.worker.committed p) ∧
      s.deliveries.erp.received = [Pipeline.announcedOrder] ∧
      deadLetters s.deliveries.worker.state = [] := by
  obtain ⟨g, hg, hsend⟩ := Pipeline.exists_announced
  have hannounced := (reachable_of_replicas hg).step
    (@Step.announced _ _ _ _ _ 0 (List.singleton_subperm_iff.mpr hsend) (by simp [Reader.start]))
  have hnext : ((Reader.start [] : Worker).publish 0 Pipeline.announcedRecord |>.pending
      ApprovedRecord.offset 0 0).head? = some Pipeline.announcedRecord := by
    simp [Reader.start, Reader.publish, Reader.pending, Pipeline.announcedRecord]
  have hfetched := hannounced.step (.delivered (.advanced (.next rfl hnext) rfl (.nil _)) rfl)
  have hhandled := hfetched.step (.delivered (.advanced (.handled rfl ⟨flakyErp, handleRecord_twice⟩)
    rfl (.post (.answered true) (.post (.answered false) (.counted (.nil _))))) rfl)
  refine ⟨_, hhandled.step (.delivered (.advanced (.committed rfl) rfl (.nil _)) rfl), rfl, ?_, rfl,
    rfl⟩
  intro p m hm
  by_cases hp : p = 0
  · subst hp
    obtain rfl := List.mem_singleton.mp hm
    exact Nat.zero_lt_one
  · simp [Worker.commitPosition, Reader.call, Reader.fetch, Reader.publish, Reader.start, hp] at hm

/-- The sample order is announced once, received once and approved. -/
theorem told_once_flaky : ∃ s : Relay, s.deliveries.erp.received = [Pipeline.announcedOrder] ∧
    (s.announced.countP fun send => send.key = "1") = 1 ∧
    1 ≤ s.replicas.state.db.approvals "1" := by
  obtain ⟨s, hs, hidle, hall, hreceived, hdead⟩ := exists_relay
  have htells : Pipeline.announcedOrder.tellsOf 1 = true := by decide
  obtain ⟨hle, heq⟩ := told_once Pipeline.relayExternals (fun v => .ok v.render.toUTF8) (fun _ => 0)
    get_orderId hs 1
  have hone : s.deliveries.erp.received.countP (·.tellsOf 1) +
      (deadLetters s.deliveries.worker.state).countP
        (fun letter => keyText letter.2 = some (toString 1)) = 1 := by
    rw [hreceived, hdead, List.countP_singleton, if_pos htells, List.countP_nil]
  exact ⟨s, hreceived, (heq hidle hall).symm.trans hone, hone.symm.trans_le hle⟩

end Relay

end EventPipeline

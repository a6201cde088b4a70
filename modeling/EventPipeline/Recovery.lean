import EventPipeline.Library.CatchUp
import EventPipeline.Pipeline
import Mathlib.Algebra.Order.BigOperators.Group.List
import Mathlib.Algebra.Order.Group.Nat

/-!
# The pipeline recovers

Replicas may have died, and partitions been assigned anew, in the middle of their batches; calls of
the broker may have failed, and the worker may have stopped over a record. From every state that the
pipeline can get into there is a run to its end, once the database and the ERP answer: the messages
that were pending are settled, what was accepted for `order-approved` is there, and the records that
were pending are delivered (`pipeline_recovers`). Nothing that the pipeline publishes can stop it.
-/

namespace EventPipeline

open Transaction

variable {ext : Externals} {dumps : Json → Except PyError ByteArray} {partitioner : String → ℕ}
  {msg : Message} {p : ℕ}

/-! ### The consumers -/

namespace Replicas

variable {routed : ℕ → Message → Prop} {attended attended' : Attempt → Call → Database → Prop}
  {g g' : Replicas}

lemma Step.mono (h : ∀ env call db, attended env call db → attended' env call db)
    (hs : Step ext routed attended g g') : Step ext routed attended' g g' := by
  cases hs with
  | published hr hm => exact .published hr hm
  | assigned hassign => exact .assigned hassign
  | fetched hidle hf howner => exact .fetched hidle hf howner
  | began hb hbusy hbegin => exact .began hb hbusy hbegin
  | wentOn hbusy hgo => exact .wentOn hbusy hgo
  | broken hbusy hr => exact .broken hbusy hr
  | committed hb hlast howner => exact .committed hb hlast howner
  | stopped => exact .stopped
  | returned hb hbusy hr =>
    refine .returned hb hbusy ?_
    cases hr with
    | malformed env => exact .malformed env
    | ended env ha hrun hlast hr => exact .ended env (h _ _ _ ha) hrun hlast hr

/-- One replica that is left alone settles the messages one by one. -/
lemma turns (ext : Externals) (dumps : Json → Except PyError ByteArray) (partitioner : String → ℕ) :
    Turns Message.offset (Step ext (Published ext dumps partitioner) (Answered ext))
      (fun g => g.Reachable ext (Published ext dumps partitioner) (fun _ _ _ => True) ∧ g.Alone 0)
      Group.log Group.committed (Settled ext) := by
  refine Group.turns 0 (fun g hg => hg.located.sorted) ?_ ?_ ?_
  · intro g p msg hg hmsg hb hbusy
    obtain ⟨event, eventId, t, hdec, htype⟩ := (hg.routed_of_mem hmsg).decodeEvent
    obtain ⟨g₁, w, hreach, -, hlast, hfinished⟩ := @handleMessage_reaches ext (Answered ext)
      (Published ext dumps partitioner) g msg p 0 [msg] [] [] .healthy
      (fun _ _ _ _ => .inr Attempt.completes_healthy) hb hbusy (handleMessage_typed hdec htype _ _)
    obtain ⟨c, hon, hreturns⟩ := hlast.returns
    exact ⟨w, _, hreach.tail hlast.step, hfinished, settled_of_returns _ hon hreturns⟩
  · exact fun g g' hg hs => Group.Reachable.step hg (Step.mono (fun _ _ _ _ => trivial) hs)
  · exact fun g g' p msg hg hs hsettled =>
      hsettled.step hg (Step.mono (fun _ _ _ _ => trivial) hs)

/-- From any state there is a run of the consumers after which no message is pending. -/
lemma Reachable.recovers
    (h : g.Reachable ext (Published ext dumps partitioner) fun _ _ _ => True) :
    ∃ g', Relation.ReflTransGen
        (Step ext (Published ext dumps partitioner) fun _ _ _ => True) g g' ∧
      g'.log = g.log ∧ ∀ p, ∀ msg ∈ g.log p, msg.offset < g'.committed p ∧
        (g.committed p ≤ msg.offset → g'.Settled ext p msg) := by
  obtain ⟨g₁, hreach₁, halone, hlog₁, hcommitted₁, -⟩ := @Group.exists_alone _ _ _ Message.offset
    (Published ext dumps partitioner) (handler ext fun _ _ _ => True) g 0
  obtain ⟨bound, hbound⟩ := Group.Reachable.exists_bound (h.trans hreach₁)
  obtain ⟨g', hreach, -, hlog, hpassed, -⟩ :=
    (turns ext dumps partitioner).caught_up ⟨h.trans hreach₁, halone⟩ hbound
  have hreach' : Relation.ReflTransGen
      (Step ext (Published ext dumps partitioner) fun _ _ _ => True) g₁ g' :=
    Relation.ReflTransGen.mono (fun _ _ hs => Step.mono (fun _ _ _ _ => trivial) hs) _ _ hreach
  refine ⟨g', hreach₁.trans hreach', hlog.trans hlog₁, fun p msg hmsg => ?_⟩
  rw [← hcommitted₁]
  exact hpassed p msg (hlog₁ ▸ hmsg)

end Replicas

/-! ### The worker -/

namespace Worker

variable {loads : ByteArray → Except PyError Json} {r r' : Worker}

/-- The order of the record was posted, and the ERP answered that it has it. -/
def Delivered (loads : ByteArray → Except PyError Json) (r : Worker) (record : ApprovedRecord) :
    Prop :=
  ∃ payload response, loads record.value = .ok payload ∧ .post payload response ∈ r.state ∧
    response.isSuccess = true

/-- The records hold objects, and none of them is being handled. -/
structure Ready (loads : ByteArray → Except PyError Json) (r : Worker) : Prop where
  reachable : Reachable loads r
  batches : r.batches = []
  object : ∀ q, ∀ record ∈ r.log q, ∃ fields, loads record.value = .ok (.obj fields)

lemma Reachable.exists_bound (h : Reachable loads r) : ∃ bound, ∀ q, bound ≤ q → r.log q = [] := by
  induction h with
  | start => exact ⟨0, fun _ _ => rfl⟩
  | step _ hs ih =>
    obtain ⟨bound, hbound⟩ := ih
    cases hs with
    | @published q record h =>
      refine ⟨max bound (q + 1), fun q' hq => ?_⟩
      have hne : q' ≠ q := by omega
      rw [Reader.publish_log_of_ne hne]
      exact hbound q' (by omega)
    | next => exact ⟨bound, hbound⟩
    | handled => exact ⟨bound, hbound⟩
    | died => exact ⟨bound, hbound⟩
    | committed => exact ⟨bound, hbound⟩
    | stopped => exact ⟨bound, hbound⟩

/-- The worker delivers the records one by one to an ERP that answers. -/
lemma turns (loads : ByteArray → Except PyError Json) :
    Turns ApprovedRecord.offset (fun r r' => Step loads r r' ∧ r'.log = r.log) (Ready loads)
      Reader.log Reader.committed (fun r _ record => r.Delivered loads record) where
  sorted r hr := hr.reachable.reader.inv.sorted
  turn r p record hr hm := by
    have hinv := hr.reachable.reader.inv
    have hposition : r.position p = r.committed p := hinv.idle p (by simp [hr.batches])
    have hmem : record ∈ r.log p := (List.mem_filter.mp (List.mem_of_mem_head? hm)).1
    obtain ⟨fields, hfields⟩ := hr.object p record hmem
    have hnext : Step loads r (r.fetch ApprovedRecord.offset [⟨p, [record], [record]⟩]) :=
      .next hr.batches (by rw [hposition]; exact hm)
    generalize hr₁ : r.fetch ApprovedRecord.offset [⟨p, [record], [record]⟩] = r₁ at hnext
    have hbatches₁ : r₁.batches = [⟨p, [record], [record]⟩] := by rw [← hr₁]; rfl
    have hhandled : Step loads r₁ _ :=
      .handled hbatches₁ ⟨healthyErp, handleRecord_healthy hfields r₁.state⟩
    generalize hr₂ : r₁.call p record (r₁.state ++ [.post (.obj fields) (.answered 201),
      .counted .success]) [⟨p, [record], []⟩] = r₂ at hhandled
    have hbatches₂ : r₂.batches = [⟨p, [record], []⟩] := by rw [← hr₂]; rfl
    have hstate₂ : r₂.state = r.state ++ [.post (.obj fields) (.answered 201),
      .counted .success] := by rw [← hr₂, ← hr₁]; rfl
    have hlog₂ : r₂.log = r.log := by rw [← hr₂, ← hr₁]; rfl
    have hcommitted : Step loads r₂ _ := .committed hbatches₂
    have hreachable₂ := (hr.reachable.step hnext).step hhandled
    have hcommit := commitPosition_eq hreachable₂.reader.inv hbatches₂
    refine ⟨commitPosition r₂, ?_, ⟨hreachable₂.step hcommitted, rfl, ?_⟩, hlog₂, fun q => ?_,
      ⟨.obj fields, .answered 201, hfields, ?_, rfl⟩, ?_⟩
    · refine .tail (.tail (.single ⟨hnext, ?_⟩) ⟨hhandled, ?_⟩) ⟨hcommitted, rfl⟩
      · rw [← hr₁]
        rfl
      · rw [← hr₂]
        rfl
    · intro q record' hrecord
      exact hr.object q record' (hlog₂ ▸ hrecord)
    · rw [hcommit, ← hr₂, ← hr₁]
      rfl
    · show Effect.post _ _ ∈ r₂.state
      simp [hstate₂]
    · rintro q record' ⟨payload, response, hloads, hpost, hsuccess⟩
      refine ⟨payload, response, hloads, ?_, hsuccess⟩
      show Effect.post _ _ ∈ r₂.state
      rw [hstate₂]
      exact List.mem_append_left _ hpost

end Worker

/-! ### The whole -/

namespace Pipeline

variable {s s' : Pipeline}

lemma Reachable.trans (h : Reachable ext dumps partitioner s)
    (hs : Relation.ReflTransGen (Step ext dumps partitioner) s s') :
    Reachable ext dumps partitioner s' := by
  induction hs with
  | refl => exact h
  | tail _ hstep ih => exact ih.step hstep

lemma consumed_path {g g' : Replicas} (r : Worker)
    (h : Relation.ReflTransGen
      (Replicas.Step ext (Published ext dumps partitioner) fun _ _ _ => True) g g') :
    Relation.ReflTransGen (Step ext dumps partitioner) ⟨g, r⟩ ⟨g', r⟩ := by
  induction h with
  | refl => exact .refl
  | tail _ hs ih => exact ih.tail (.consumed hs)

lemma delivered_path {r r' : Worker} (g : Replicas)
    (h : Relation.ReflTransGen (fun r r' => Worker.Step ext.loads r r' ∧ r'.log = r.log) r r') :
    Relation.ReflTransGen (Step ext dumps partitioner) ⟨g, r⟩ ⟨g, r'⟩ := by
  induction h with
  | refl => exact .refl
  | tail _ hs ih => exact ih.tail (.delivered hs.1 hs.2)

/-- The record of the send is on `order-approved`. -/
def OnTopic (partitioner : String → ℕ) (r : Worker) (send : Send) : Prop :=
  ∃ record ∈ r.log (partitioner send.key), record.value = send.value ∧
    record.key = some send.key.toUTF8

lemma OnTopic.publish {r : Worker} {send : Send} (h : OnTopic partitioner r send) (q : ℕ)
    (record : ApprovedRecord) : OnTopic partitioner (r.publish q record) send := by
  obtain ⟨record', hrecord', hrest⟩ := h
  refine ⟨record', ?_, hrest⟩
  by_cases heq : partitioner send.key = q
  · subst heq
    rw [Reader.publish_log_self]
    exact List.mem_append_left _ hrecord'
  · rw [Reader.publish_log_of_ne heq]
    exact hrecord'

lemma onTopic_publish (r : Worker) (send : Send) (offset : ℕ) :
    OnTopic partitioner (r.publish (partitioner send.key)
      ⟨offset, some send.key.toUTF8, send.value⟩) send := by
  refine ⟨⟨offset, some send.key.toUTF8, send.value⟩, ?_, rfl, rfl⟩
  rw [Reader.publish_log_self]
  exact List.mem_append_right _ (List.mem_singleton_self _)

/-- The records of the sends that were accepted are appended, where they are not there yet. -/
lemma announced_path (s : Pipeline) (sends : List Send)
    (hsends : ∀ send ∈ sends, send ∈ s.replicas.state.sent) :
    ∃ r : Worker, Relation.ReflTransGen (Step ext dumps partitioner) s ⟨s.replicas, r⟩ ∧
      r.committed = s.worker.committed ∧ (∀ send ∈ sends, OnTopic partitioner r send) ∧
      ∀ send, OnTopic partitioner s.worker send → OnTopic partitioner r send := by
  induction sends with
  | nil => exact ⟨s.worker, .refl, rfl, by simp, fun _ => id⟩
  | cons send sends ih =>
    obtain ⟨hsend, hsends⟩ := List.forall_mem_cons.mp hsends
    obtain ⟨r, hreach, hcommitted, hnew, hold⟩ := ih hsends
    by_cases hthere : OnTopic partitioner r send
    · exact ⟨r, hreach, hcommitted, List.forall_mem_cons.mpr ⟨hthere, hnew⟩, hold⟩
    · -- the broker gives the record an offset above those it has given
      obtain ⟨offset, hoffset⟩ : ∃ offset, ∀ m ∈ r.log (partitioner send.key), m.offset < offset :=
        ⟨((r.log (partitioner send.key)).map (·.offset)).sum + 1, fun m hm =>
          Nat.lt_succ_of_le (List.le_sum_of_mem (List.mem_map_of_mem hm))⟩
      have hstep : Step ext dumps partitioner ⟨s.replicas, r⟩ ⟨s.replicas,
          r.publish (partitioner send.key) ⟨offset, some send.key.toUTF8, send.value⟩⟩ :=
        .announced hsend hoffset
      exact ⟨_, hreach.tail hstep, hcommitted,
        List.forall_mem_cons.mpr ⟨onTopic_publish r send offset, fun send' hsend' =>
          (hnew send' hsend').publish _ _⟩, fun send' hsend' => (hold send' hsend').publish _ _⟩

/-- Whatever has happened, the pipeline can still come to its end: no message that the receiver
published and no record that a consumer handed over can stop it. There is a run from any state after
which all messages are committed, and those that were pending are settled; all that was accepted for
`order-approved` is there; and all records are committed, and those that were pending have been
delivered. The receiver publishes nothing in it. -/
theorem pipeline_recovers (ext : Externals) (dumps : Json → Except PyError ByteArray)
    (partitioner : String → ℕ) (hdumps : ∀ snapshot value, ext.dumps snapshot = .ok value →
      ∃ fields, ext.loads value = .ok (.obj fields))
    {s : Pipeline} (h : s.Reachable ext dumps partitioner) :
    ∃ s', Relation.ReflTransGen (Step ext dumps partitioner) s s' ∧
      s'.replicas.log = s.replicas.log ∧
      (∀ p, ∀ msg ∈ s.replicas.log p, msg.offset < s'.replicas.committed p ∧
        (s.replicas.committed p ≤ msg.offset → s'.replicas.Settled ext p msg)) ∧
      (∀ send ∈ s'.replicas.state.sent, send.accepted = true →
        OnTopic partitioner s'.worker send) ∧
      ∀ q, ∀ record ∈ s'.worker.log q, record.offset < s'.worker.committed q ∧
        (s.worker.committed q ≤ record.offset → s'.worker.Delivered ext.loads record) := by
  obtain ⟨g, hreach₁, hlog, hpassed⟩ := h.inv.replicas.recovers
  obtain ⟨r, hreach₂, hcommitted, hannounced, -⟩ := @announced_path ext dumps partitioner
    ⟨g, s.worker⟩ (g.state.sent.filter (·.accepted)) fun send hsend => (List.mem_filter.mp hsend).1
  have hreach : Relation.ReflTransGen (Step ext dumps partitioner) s ⟨g, r.restart⟩ :=
    ((consumed_path s.worker hreach₁).trans hreach₂).tail (.delivered .stopped rfl)
  have hinv := (h.trans hreach).inv
  obtain ⟨bound, hbound⟩ := hinv.worker.exists_bound
  obtain ⟨r', hreach', -, hlog', hpassed', -⟩ := (Worker.turns ext.loads).caught_up
    ⟨hinv.worker, rfl, hinv.object hdumps⟩ hbound
  refine ⟨⟨g, r'⟩, hreach.trans (delivered_path g hreach'), hlog, hpassed, fun send hsend hok => ?_,
    fun q record hrecord => ?_⟩
  · obtain ⟨record, hrecord, hrest⟩ := hannounced send (List.mem_filter.mpr ⟨hsend, hok⟩)
    exact ⟨record, by rw [hlog']; exact hrecord, hrest⟩
  · obtain ⟨hlt, hdelivered⟩ := hpassed' q record (by rw [← hlog']; exact hrecord)
    refine ⟨hlt, fun hle => hdelivered ?_⟩
    rw [show r.restart.committed = r.committed from rfl, hcommitted]
    exact hle

/-- Two messages, nothing done, and the end. -/
theorem pipeline_recovers_relayed :
    ∃ s s', Reachable relayExternals (fun v => .ok v.render.toUTF8) (fun _ => 0) s ∧
      webhookMessage 1 approvedWebhook ∈ s.replicas.log 0 ∧ s.replicas.committed 0 = 0 ∧
      Relation.ReflTransGen (Step relayExternals (fun v => .ok v.render.toUTF8) fun _ => 0) s s' ∧
      1 < s'.replicas.committed 0 ∧
      s'.replicas.Settled relayExternals 0 (webhookMessage 1 approvedWebhook) := by
  have hpublished : Replicas.Reachable relayExternals
      (Published relayExternals (fun v => .ok v.render.toUTF8) fun _ => 0) (fun _ _ _ => True)
      (Replicas.published (relayCalls.map Prod.snd)) := by
    refine Replicas.reachable_published (by simp [relayCalls, webhookMessage]) ?_
    intro msg hmsg
    rcases List.mem_cons.mp hmsg with rfl | hmsg
    · exact published_webhook rfl .created 0
    · rw [List.mem_singleton.mp hmsg]
      exact published_webhook rfl .approved 1
  have hs := reachable_of_replicas hpublished
  have hmem : webhookMessage 1 approvedWebhook ∈
      (Replicas.published (relayCalls.map Prod.snd)).log 0 :=
    List.mem_cons_of_mem _ (List.mem_singleton_self _)
  obtain ⟨s', hreach, -, hpassed, -, -⟩ := pipeline_recovers relayExternals
    (fun v => .ok v.render.toUTF8) (fun _ => 0) dumps_object hs
  obtain ⟨hlt, hsettled⟩ := hpassed 0 _ hmem
  exact ⟨_, s', hs, hmem, rfl, hreach, hlt, hsettled (Nat.zero_le _)⟩

end Pipeline

end EventPipeline

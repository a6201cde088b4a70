import EventPipeline.Library.Group
import EventPipeline.Worker

/-!
# The ERP

`receive_order` of the mock ERP fails at random, or takes the order and answers. A POST may also fail
before the ERP has it, or after. Whatever fails and wherever the worker stops, a record below the
committed offset was received or is in the dead-letter topic (`received_or_dead`). While no answer
is lost and the worker goes on, every record is received once or dead-lettered once, in the order of
its partition (`delivered_once`).
-/

namespace EventPipeline

open Transaction Reader

/-- The `outcome` label of `erp_orders_total`. -/
inductive ErpOutcome
  | simulatedFailure
  | received
  deriving DecidableEq, Repr

structure Erp where
  received : List Json
  counts : List ErpOutcome

/-- `receive_order`, with the status of its answer; `failure` is `random.random() < FAILURE_RATE`. A
payload that has no `get` is answered 500 after it was taken. -/
def receiveOrder (failure : Bool) (payload : Json) (erp : Erp) : ℕ × Erp :=
  if failure then (503, { erp with counts := erp.counts ++ [.simulatedFailure] })
  else
    let erp : Erp := ⟨erp.received ++ [payload], erp.counts ++ [.received]⟩
    match payload.get "external_order_id" .null with
    | .ok _ => (200, erp)
    | .error _ => (500, erp)

/-- One POST. The connection may fail before the ERP has the order and, where answers can be `lost`,
after. -/
inductive Exchange (lost : Prop) (payload : Json) : Response → Erp → Erp → Prop
  | answered {erp : Erp} (failure : Bool) :
      Exchange lost payload (.answered (receiveOrder failure payload erp).1) erp
        (receiveOrder failure payload erp).2
  | unreached {erp : Erp} {response : Response} (h : ∀ code, response ≠ .answered code) :
      Exchange lost payload response erp erp
  | unanswered {erp : Erp} {response : Response} (hl : lost) (failure : Bool)
      (h : ∀ code, response ≠ .answered code) :
      Exchange lost payload response erp (receiveOrder failure payload erp).2

/-- What some effects of the worker make of the ERP. -/
inductive Exchanges (lost : Prop) : List Effect → Erp → Erp → Prop
  | nil (erp : Erp) : Exchanges lost [] erp erp
  | post {payload : Json} {response : Response} {effects : List Effect} {erp erp' erp'' : Erp}
      (h : Exchange lost payload response erp erp') (hs : Exchanges lost effects erp' erp'') :
      Exchanges lost (.post payload response :: effects) erp erp''
  | deadLetter {value : ByteArray} {key : Option ByteArray} {accepted : Bool}
      {effects : List Effect} {erp erp' : Erp} (hs : Exchanges lost effects erp erp') :
      Exchanges lost (.deadLetter value key accepted :: effects) erp erp'
  | counted {outcome : Delivery} {effects : List Effect} {erp erp' : Erp}
      (hs : Exchanges lost effects erp erp') : Exchanges lost (.counted outcome :: effects) erp erp'

/-- A step of a worker that goes on. -/
inductive Worker.Advance (loads : ByteArray → Except PyError Json) : Worker → Worker → Prop
  | published {r : Worker} {p : ℕ} {msg : ApprovedRecord}
      (h : ∀ m ∈ r.log p, m.offset < msg.offset) : Advance loads r (r.publish p msg)
  | next {r : Worker} {p : ℕ} {msg : ApprovedRecord} (hidle : r.batches = [])
      (h : (r.pending ApprovedRecord.offset p (r.position p)).head? = some msg) :
      Advance loads r (r.fetch ApprovedRecord.offset [⟨p, [msg], [msg]⟩])
  | handled {r : Worker} {p : ℕ} {msg : ApprovedRecord} {effects : List Effect}
      (hb : r.batches = [⟨p, [msg], [msg]⟩]) (h : r.Handles loads p msg effects) :
      Advance loads r (r.call p msg effects [⟨p, [msg], []⟩])
  | committed {r : Worker} {p : ℕ} {msg : ApprovedRecord} (hb : r.batches = [⟨p, [msg], []⟩]) :
      Advance loads r r.commitPosition

structure Deliveries where
  worker : Worker
  erp : Erp

/-- The worker and the ERP, where the worker may be `interrupted` and answers may be `lost`. -/
inductive Deliveries.Step (loads : ByteArray → Except PyError Json) (interrupted lost : Prop) :
    Deliveries → Deliveries → Prop
  | advanced {d : Deliveries} {r : Worker} {erp : Erp} {new : List Effect}
      (hs : Worker.Advance loads d.worker r) (hstate : r.state = d.worker.state ++ new)
      (herp : Exchanges lost new d.erp erp) : Step loads interrupted lost d ⟨r, erp⟩
  | stepped {d : Deliveries} {r : Worker} {erp : Erp} {new : List Effect} (hi : interrupted)
      (hs : Worker.Step loads d.worker r) (hstate : r.state = d.worker.state ++ new)
      (herp : Exchanges lost new d.erp erp) : Step loads interrupted lost d ⟨r, erp⟩

inductive Deliveries.Reachable (loads : ByteArray → Except PyError Json) (interrupted lost : Prop) :
    Deliveries → Prop
  | start : Reachable loads interrupted lost ⟨.start [], ⟨[], []⟩⟩
  | step {d d' : Deliveries} (h : Reachable loads interrupted lost d)
      (hs : Step loads interrupted lost d d') : Reachable loads interrupted lost d'

variable {loads : ByteArray → Except PyError Json} {env : WorkerEnv} {msg : ApprovedRecord}
  {effects effects' new : List Effect} {payload : Json} {lost interrupted : Prop}
  {erp erp' erp'' : Erp} {response : Response} {d : Deliveries} {p : ℕ}

lemma Worker.Advance.step {r r' : Worker} (h : Worker.Advance loads r r') :
    Worker.Step loads r r' := by
  cases h with
  | published h => exact .published h
  | next hidle h => exact .next hidle h
  | handled hb h => exact .handled hb h
  | committed hb => exact .committed hb

lemma Deliveries.Reachable.worker (h : Deliveries.Reachable loads interrupted lost d) :
    Worker.Reachable loads d.worker := by
  induction h with
  | start => exact .start
  | step _ hs ih =>
    cases hs with
    | advanced hs => exact ih.step hs.step
    | stepped _ hs => exact ih.step hs

/-! ### What the ERP has -/

lemma Exchange.received (h : Exchange lost payload response erp erp') :
    erp'.received = erp.received ∨ erp'.received = erp.received ++ [payload] := by
  have hreceive : ∀ failure, (receiveOrder failure payload erp).2.received = erp.received ∨
      (receiveOrder failure payload erp).2.received = erp.received ++ [payload] := by
    intro failure
    unfold receiveOrder
    cases failure with
    | true => exact .inl rfl
    | false =>
      simp only [Bool.false_eq_true, if_false]
      split <;> exact .inr rfl
  cases h with
  | answered failure => exact hreceive failure
  | unreached _ => exact .inl rfl
  | unanswered _ failure _ => exact hreceive failure

/-- The ERP has what it answers with success. -/
lemma Exchange.mem_received (h : Exchange lost payload response erp erp')
    (hsuccess : response.isSuccess = true) : payload ∈ erp'.received := by
  cases h with
  | answered failure =>
    unfold receiveOrder at hsuccess ⊢
    cases failure with
    | true => cases hsuccess
    | false =>
      simp only [Bool.false_eq_true, if_false] at hsuccess ⊢
      split at hsuccess
      · exact List.mem_append_right _ (List.mem_singleton_self _)
      · cases hsuccess
  | unreached h =>
    cases response with
    | answered code => exact absurd rfl (h code)
    | transportError text => cases hsuccess
    | raised e => cases hsuccess
  | unanswered _ _ h =>
    cases response with
    | answered code => exact absurd rfl (h code)
    | transportError text => cases hsuccess
    | raised e => cases hsuccess

lemma Exchanges.grows (h : Exchanges lost effects erp erp') : erp.received <+: erp'.received := by
  induction h with
  | nil => exact List.prefix_rfl
  | post h _ ih =>
    refine List.IsPrefix.trans ?_ ih
    rcases h.received with heq | heq
    · rw [heq]
    · rw [heq]
      exact List.prefix_append _ _
  | deadLetter _ ih => exact ih
  | counted _ ih => exact ih

lemma Exchanges.mem_received (h : Exchanges lost effects erp erp')
    (hmem : .post payload response ∈ effects) (hsuccess : response.isSuccess = true) :
    payload ∈ erp'.received := by
  induction h with
  | nil => cases hmem
  | post h hs ih =>
    rcases List.mem_cons.mp hmem with heq | hmem
    · cases heq
      exact hs.grows.subset (h.mem_received hsuccess)
    · exact ih hmem
  | deadLetter _ ih =>
    rcases List.mem_cons.mp hmem with heq | hmem
    · cases heq
    · exact ih hmem
  | counted _ ih =>
    rcases List.mem_cons.mp hmem with heq | hmem
    · cases heq
    · exact ih hmem

lemma Exchanges.append (h : Exchanges lost effects erp erp')
    (h' : Exchanges lost effects' erp' erp'') : Exchanges lost (effects ++ effects') erp erp'' := by
  induction h with
  | nil => exact h'
  | post h _ ih => exact .post h (ih h')
  | deadLetter _ ih => exact .deadLetter (ih h')
  | counted _ ih => exact .counted (ih h')

lemma Deliveries.Reachable.exchanges (h : Deliveries.Reachable loads interrupted lost d) :
    Exchanges lost d.worker.state ⟨[], []⟩ d.erp := by
  induction h with
  | start => exact .nil _
  | step _ hs ih =>
    cases hs with
    | advanced _ hstate herp => exact hstate ▸ ih.append herp
    | stepped _ _ hstate herp => exact hstate ▸ ih.append herp

/-- A record below the committed offset was received by the ERP or is in the dead-letter topic,
whatever the ERP answers, whatever is lost and wherever the worker stops. -/
theorem received_or_dead (loads : ByteArray → Except PyError Json) {d : Deliveries}
    (h : Deliveries.Reachable loads True True d) {p : ℕ} {msg : ApprovedRecord}
    (hm : msg ∈ d.worker.log p) (hlt : msg.offset < d.worker.committed p) :
    (∃ payload ∈ d.erp.received, loads msg.value = .ok payload) ∨
      .deadLetter msg.value msg.key true ∈ d.worker.state := by
  obtain ⟨before, new, after, -, hstate, hsettles⟩ := h.worker.settled hm hlt
  rcases hsettles with ⟨payload, response, hloads, hmem, hsuccess⟩ | hmem
  · refine .inl ⟨payload, h.exchanges.mem_received ?_ hsuccess, hloads⟩
    rw [hstate]
    exact List.mem_append_left _ (List.mem_append_right _ hmem)
  · right
    rw [hstate]
    exact List.mem_append_left _ (List.mem_append_right _ hmem)

/-! ### One record -/

/-- How a record ended that was handled to the end. -/
structure Handled where
  partition : ℕ
  record : ApprovedRecord
  payload : Json
  delivered : Bool

/-- The dead letters that were accepted. -/
def deadLetters (effects : List Effect) : List (ByteArray × Option ByteArray) :=
  effects.filterMap fun
    | .deadLetter value key true => some (value, key)
    | _ => none

lemma deadLetters_append (effects effects' : List Effect) :
    deadLetters (effects ++ effects') = deadLetters effects ++ deadLetters effects' :=
  List.filterMap_append

lemma deadLetters_posts (payload : Json) (responses : ℕ → Response) (js : List ℕ) :
    deadLetters (js.map fun j => .post payload (responses j)) = [] := by
  simp [deadLetters]

/-- What is done to a record that is handled to the end: POSTs of which the last one alone is a
success, or none and the record is dead-lettered. -/
lemma handled_cases (h : handleRecord loads env msg effects = (.ok (), effects')) :
    ∃ fields n, loads msg.value = .ok (.obj fields) ∧
      (∀ j < n, (env.responses j).isSuccess = false) ∧
      ((env.responses n).isSuccess = true ∧ effects' = effects ++
          ((List.range (n + 1)).map (fun j => .post (.obj fields) (env.responses j)) ++
            [.counted .success]) ∨
        (env.responses n).isSuccess = false ∧ effects' = effects ++
          ((List.range (n + 1)).map (fun j => .post (.obj fields) (env.responses j)) ++
            [.deadLetter msg.value msg.key true, .counted .dlq])) := by
  obtain ⟨fields, hloads⟩ := object_of_handled h
  obtain ⟨n, -, hearlier, -, hdeliver⟩ := deliver_eq env.responses (.obj fields) effects
  have hfailed : ∀ j, (env.responses j).isRetryable = true → (env.responses j).isSuccess = false := by
    intro j hj
    rw [← Bool.not_eq_true, ← Response.check_ok]
    obtain ⟨text, htext⟩ := Response.check_transient.mpr hj
    simp [htext]
  refine ⟨fields, n, hloads, fun j hj => hfailed j (hearlier j hj), ?_⟩
  simp only [handleRecord, hloads, Json.get, hdeliver] at h
  cases hcheck : (env.responses n).check with
  | ok =>
    simp only [hcheck] at h
    exact .inl ⟨Response.check_ok.mp hcheck, by
      rw [← List.append_assoc]
      exact (congrArg Prod.snd h).symm⟩
  | error x =>
    have hnot : (env.responses n).isSuccess = false := by
      rw [← Bool.not_eq_true, ← Response.check_ok, hcheck]
      simp
    simp only [hcheck] at h
    cases x with
    | transient text => exact .inr ⟨hnot, by rw [← List.append_assoc]; exact deadLetter_ok h⟩
    | httpStatus code => exact .inr ⟨hnot, by rw [← List.append_assoc]; exact deadLetter_ok h⟩
    | other e => cases h

/-- While no answer is lost, the ERP has an object exactly if it says so. -/
lemma Exchange.received_eq {fields : List (String × Json)}
    (h : Exchange False (.obj fields) response erp erp') :
    erp'.received = erp.received ++ if response.isSuccess then [.obj fields] else [] := by
  cases h with
  | answered failure =>
    cases failure with
    | true => simp [receiveOrder, Response.isSuccess]
    | false => simp [receiveOrder, Response.isSuccess, Json.get]
  | unreached h =>
    cases response with
    | answered code => exact absurd rfl (h code)
    | transportError text => simp [Response.isSuccess]
    | raised e => simp [Response.isSuccess]
  | unanswered hl => exact hl.elim

lemma Exchanges.append_inv (h : Exchanges lost (effects ++ effects') erp erp'') :
    ∃ erp', Exchanges lost effects erp erp' ∧ Exchanges lost effects' erp' erp'' := by
  induction effects generalizing erp with
  | nil => exact ⟨erp, .nil _, h⟩
  | cons effect effects ih =>
    cases h with
    | post hpost hs =>
      obtain ⟨erp₁, h₁, h₂⟩ := ih hs
      exact ⟨erp₁, .post hpost h₁, h₂⟩
    | deadLetter hs =>
      obtain ⟨erp₁, h₁, h₂⟩ := ih hs
      exact ⟨erp₁, .deadLetter h₁, h₂⟩
    | counted hs =>
      obtain ⟨erp₁, h₁, h₂⟩ := ih hs
      exact ⟨erp₁, .counted h₁, h₂⟩

/-- POSTs of one object. -/
lemma Exchanges.received_posts {fields : List (String × Json)} {responses : ℕ → Response}
    {js : List ℕ}
    (h : Exchanges False (js.map fun j => .post (.obj fields) (responses j)) erp erp') :
    erp'.received = erp.received ++
      js.flatMap fun j => if (responses j).isSuccess then [.obj fields] else [] := by
  induction js generalizing erp with
  | nil =>
    cases h
    simp
  | cons j js ih =>
    cases h with
    | post h hs =>
      rw [ih hs, h.received_eq, List.flatMap_cons, List.append_assoc]

/-- A record that is handled to the end while no answer is lost is received or dead-lettered, and
that once. -/
lemma exchanged_of_handled (h : handleRecord loads env msg effects = (.ok (), effects ++ new))
    (herp : Exchanges False new erp erp') :
    ∃ (payload : Json) (delivered : Bool), loads msg.value = .ok payload ∧
      erp'.received = erp.received ++ (if delivered then [payload] else []) ∧
      deadLetters new = if delivered then [] else [(msg.value, msg.key)] := by
  obtain ⟨fields, n, hloads, hearlier, hcases⟩ := handled_cases h
  have hnone : (List.range n).flatMap (fun j =>
      if (env.responses j).isSuccess then [Json.obj fields] else []) = [] := by
    refine List.flatMap_eq_nil_iff.mpr fun j hj => ?_
    simp [hearlier j (List.mem_range.mp hj)]
  rcases hcases with ⟨hsuccess, heq⟩ | ⟨hfailed, heq⟩
  · obtain rfl := List.append_cancel_left heq
    obtain ⟨erp₁, hposts, hrest⟩ := herp.append_inv
    cases hrest with
    | counted hrest =>
      cases hrest
      refine ⟨.obj fields, true, hloads, ?_, ?_⟩
      · rw [hposts.received_posts, List.range_succ, List.flatMap_append, hnone]
        simp [hsuccess]
      · rw [deadLetters_append, deadLetters_posts]
        rfl
  · obtain rfl := List.append_cancel_left heq
    obtain ⟨erp₁, hposts, hrest⟩ := herp.append_inv
    cases hrest with
    | deadLetter hrest =>
      cases hrest with
      | counted hrest =>
        cases hrest
        refine ⟨.obj fields, false, hloads, ?_, ?_⟩
        · rw [hposts.received_posts, List.range_succ, List.flatMap_append, hnone]
          simp [hfailed]
        · rw [deadLetters_append, deadLetters_posts]
          rfl

/-! ### Every record -/

/-- What the worker has fetched of a partition and not handled. -/
def Worker.todo (r : Worker) (p : ℕ) : List ApprovedRecord :=
  (r.batches.filter fun b => b.partition = p).flatMap (·.todo)

/-- The records handled so far: what was received and dead-lettered, and where they stand in their
partitions. -/
structure DeliveredInv (loads : ByteArray → Except PyError Json) (handled : List Handled)
    (d : Deliveries) : Prop where
  payload : ∀ h ∈ handled, loads h.record.value = .ok h.payload
  received : d.erp.received = (handled.filter (·.delivered)).map (·.payload)
  dead : deadLetters d.worker.state =
    (handled.filter (!·.delivered)).map fun h => (h.record.value, h.record.key)
  order : ∀ p, (handled.filter fun h => h.partition = p).map (·.record) ++ d.worker.todo p =
    (d.worker.log p).filter fun m => m.offset < d.worker.position p
  bound : ∀ p, Group.Bound ApprovedRecord.offset (d.worker.log p) (d.worker.position p)

namespace DeliveredInv

variable {handled : List Handled} {r : Worker}

lemma published (h : DeliveredInv loads handled d) (hm : ∀ m ∈ d.worker.log p, m.offset < msg.offset) :
    DeliveredInv loads handled ⟨d.worker.publish p msg, d.erp⟩ where
  payload := h.payload
  received := h.received
  dead := h.dead
  order q := by
    refine (h.order q).trans ?_
    show _ = ((d.worker.publish p msg).log q).filter fun m => m.offset < d.worker.position q
    by_cases hq : q = p
    · subst hq
      have hle := (h.bound q).le hm
      rw [Reader.publish_log_self, List.filter_append, List.filter_cons_of_neg (by simpa using hle),
        List.filter_nil, List.append_nil]
    · rw [Reader.publish_log_of_ne hq]
  bound q := by
    show Group.Bound _ ((d.worker.publish p msg).log q) (d.worker.position q)
    by_cases hq : q = p
    · subst hq
      rw [Reader.publish_log_self]
      exact (h.bound q).append msg
    · rw [Reader.publish_log_of_ne hq]
      exact h.bound q

lemma next (h : DeliveredInv loads handled d)
    (hsorted : (d.worker.log p).Pairwise fun m m' => m.offset < m'.offset)
    (hidle : d.worker.batches = [])
    (hnext : (d.worker.pending ApprovedRecord.offset p (d.worker.position p)).head? = some msg) :
    DeliveredInv loads handled
      ⟨d.worker.fetch ApprovedRecord.offset [⟨p, [msg], [msg]⟩], d.erp⟩ where
  payload := h.payload
  received := h.received
  dead := h.dead
  order q := by
    have horder := h.order q
    have hnone : d.worker.todo q = [] := by simp [Worker.todo, hidle]
    rw [hnone, List.append_nil] at horder
    by_cases hq : p = q
    · subst hq
      have hposition : (d.worker.fetch ApprovedRecord.offset [⟨p, [msg], [msg]⟩]).position p =
          msg.offset + 1 := by simp [Reader.fetch, Reader.advanced]
      rw [hposition]
      refine Eq.trans ?_ (Reader.filter_lt_succ hsorted hnext).symm
      rw [horder]
      simp [Worker.todo, Reader.fetch]
    · have hposition : (d.worker.fetch ApprovedRecord.offset [⟨p, [msg], [msg]⟩]).position q =
          d.worker.position q := by simp [Reader.fetch, Reader.advanced, hq]
      rw [hposition]
      refine Eq.trans ?_ horder
      simp [Worker.todo, Reader.fetch, hq]
  bound q := by
    by_cases hq : p = q
    · subst hq
      have hmem := (List.mem_filter.mp (List.mem_of_mem_head? hnext)).1
      exact .inr ⟨msg, hmem, by simp [Reader.fetch, Reader.advanced]⟩
    · have hbound := h.bound q
      simpa [Reader.fetch, Reader.advanced, hq] using hbound

lemma handled_concat {new : List Effect} (h : DeliveredInv loads handled d)
    (hb : d.worker.batches = [⟨p, [msg], [msg]⟩])
    (hr : handleRecord loads env msg d.worker.state = (.ok (), d.worker.state ++ new))
    (herp : Exchanges False new d.erp erp) :
    ∃ handled, DeliveredInv loads handled
      ⟨d.worker.call p msg (d.worker.state ++ new) [⟨p, [msg], []⟩], erp⟩ := by
  obtain ⟨payload, delivered, hloads, hreceived, hdead⟩ := exchanged_of_handled hr herp
  refine ⟨handled ++ [⟨p, msg, payload, delivered⟩], ?_, ?_, ?_, ?_, h.bound⟩
  · intro x hx
    rcases List.mem_append.mp hx with hx | hx
    · exact h.payload x hx
    · rw [List.mem_singleton.mp hx]
      exact hloads
  · rw [hreceived, h.received]
    cases delivered <;> simp
  · show deadLetters (d.worker.state ++ new) = _
    rw [deadLetters_append, h.dead, hdead]
    cases delivered <;> simp
  · intro q
    have horder := h.order q
    refine Eq.trans ?_ horder
    by_cases hq : p = q
    · simp [Worker.todo, Reader.call, hb, hq]
    · simp [Worker.todo, Reader.call, hb, hq]

lemma committed (h : DeliveredInv loads handled d) (hb : d.worker.batches = [⟨p, [msg], []⟩]) :
    DeliveredInv loads handled ⟨d.worker.commitPosition, d.erp⟩ where
  payload := h.payload
  received := h.received
  dead := h.dead
  order q := by
    refine Eq.trans ?_ (h.order q)
    by_cases hq : p = q
    · simp [Worker.todo, Worker.commitPosition, hb, hq]
    · simp [Worker.todo, Worker.commitPosition, hb, hq]
  bound := h.bound

lemma sublist (h : DeliveredInv loads handled d) (p : ℕ) :
    ((handled.filter fun x => x.partition = p).map (·.record)).Sublist (d.worker.log p) := by
  refine (List.sublist_append_left _ (d.worker.todo p)).trans ?_
  rw [h.order p]
  exact List.filter_sublist

lemma mem_log (h : DeliveredInv loads handled d) {x : Handled} (hx : x ∈ handled) :
    x.record ∈ d.worker.log x.partition :=
  (h.sublist x.partition).subset
    (List.mem_map_of_mem (List.mem_filter.mpr ⟨hx, decide_eq_true rfl⟩))

/-- Between two records, what was handled of a partition is what is committed. -/
lemma committed_eq (h : DeliveredInv loads handled d) (hworker : Worker.Reachable loads d.worker)
    (hidle : d.worker.batches = []) (p : ℕ) :
    (handled.filter fun x => x.partition = p).map (·.record) =
      (d.worker.log p).filter fun m => m.offset < d.worker.committed p := by
  have hp := h.order p
  rw [hworker.reader.inv.idle p (by simp [hidle])] at hp
  rw [← hp, show d.worker.todo p = [] by simp [Worker.todo, hidle], List.append_nil]

end DeliveredInv

lemma Deliveries.Reachable.delivered (h : Deliveries.Reachable loads False False d) :
    ∃ handled, DeliveredInv loads handled d := by
  induction h with
  | start => exact ⟨[], by simp, rfl, rfl, fun p => rfl, fun p => .inl rfl⟩
  | @step d d' h hs ih =>
    obtain ⟨handled, hinv⟩ := ih
    cases hs with
    | stepped hi => exact hi.elim
    | @advanced r erp new hs hstate herp =>
      -- the steps that have no effect leave the ERP alone
      have hsame : r.state = d.worker.state → erp = d.erp := by
        intro heq
        rw [hstate, List.append_right_eq_self] at heq
        rw [heq] at herp
        cases herp
        rfl
      cases hs with
      | published hm =>
        rw [hsame rfl]
        exact ⟨handled, hinv.published hm⟩
      | next hidle hnext =>
        rw [hsame rfl]
        exact ⟨handled, hinv.next (h.worker.reader.inv.sorted _) hidle hnext⟩
      | handled hb hr =>
        obtain ⟨env, hr⟩ := hr
        obtain rfl := hstate
        exact hinv.handled_concat hb hr herp
      | committed hb =>
        rw [hsame rfl]
        exact ⟨handled, hinv.committed hb⟩

/-- While no answer of the ERP is lost and the worker goes on, the records below the committed
offsets have been handled once each, those of a partition in its order: some were received by the
ERP, in the order in which they were handled, and the others are in the dead-letter topic. -/
theorem delivered_once (loads : ByteArray → Except PyError Json) {d : Deliveries}
    (h : Deliveries.Reachable loads False False d) (hidle : d.worker.batches = []) :
    ∃ handled : List Handled, (∀ x ∈ handled, loads x.record.value = .ok x.payload) ∧
      d.erp.received = (handled.filter (·.delivered)).map (·.payload) ∧
      deadLetters d.worker.state =
        (handled.filter (!·.delivered)).map (fun x => (x.record.value, x.record.key)) ∧
      ∀ p, (handled.filter fun x => x.partition = p).map (·.record) =
        (d.worker.log p).filter fun m => m.offset < d.worker.committed p := by
  obtain ⟨handled, hinv⟩ := h.delivered
  exact ⟨handled, hinv.payload, hinv.received, hinv.dead, hinv.committed_eq h.worker hidle⟩

/-! ### An order that is delivered, and one that is not -/

/-- The ERP fails once, and takes the order then. -/
def flakyErp : WorkerEnv where
  responses i := if i = 0 then .answered 503 else .answered 200
  publication := .acknowledged

/-- The ERP fails at every POST. -/
def failingErp : WorkerEnv where
  responses _ := .answered 503
  publication := .acknowledged

/-- An object is posted twice to an ERP that fails once. -/
lemma handleRecord_flaky {record : ApprovedRecord} {fields : List (String × Json)}
    (h : loads record.value = .ok (.obj fields)) (effects : List Effect) :
    handleRecord loads flakyErp record effects =
      (.ok (), effects ++ [.post (.obj fields) (.answered 503), .post (.obj fields) (.answered 200),
        .counted .success]) := by
  have hdeliver : deliver flakyErp.responses (.obj fields) effects = (.ok (),
      effects ++ [.post (.obj fields) (.answered 503)] ++
        [.post (.obj fields) (.answered 200)]) := rfl
  have hget : ∃ orderId, (Json.obj fields).get "order_id" .null = .ok orderId := ⟨_, rfl⟩
  obtain ⟨orderId, hget⟩ := hget
  simp only [handleRecord, h, hget, hdeliver, List.append_assoc, List.cons_append, List.nil_append]

/-- It is posted five times to an ERP that fails, and goes to the dead-letter topic. -/
lemma handleRecord_failing {record : ApprovedRecord} {fields : List (String × Json)}
    (h : loads record.value = .ok (.obj fields)) (effects : List Effect) :
    handleRecord loads failingErp record effects =
      (.ok (), effects ++ (List.replicate 5 (.post (.obj fields) (.answered 503)) ++
        [.deadLetter record.value record.key true, .counted .dlq])) := by
  have hdeliver : ∃ text, deliver failingErp.responses (.obj fields) effects =
      (.error (.transient text), effects ++ [.post (.obj fields) (.answered 503)] ++
        [.post (.obj fields) (.answered 503)] ++ [.post (.obj fields) (.answered 503)] ++
          [.post (.obj fields) (.answered 503)] ++ [.post (.obj fields) (.answered 503)]) := ⟨_, rfl⟩
  have hget : ∃ orderId, (Json.obj fields).get "order_id" .null = .ok orderId := ⟨_, rfl⟩
  obtain ⟨text, hdeliver⟩ := hdeliver
  obtain ⟨orderId, hget⟩ := hget
  simp only [handleRecord, h, hget, hdeliver]
  simp [deadLetter, failingErp, List.replicate]

def failedOrder : Json :=
  .obj [("order_id", .int 2)]

def orderFailed : ApprovedRecord :=
  ⟨1, some "2".toUTF8, failedOrder.render.toUTF8⟩

def orderLoads : ByteArray → Except PyError Json :=
  (Externals.rendered [approvedOrder, failedOrder]).loads

lemma orderLoads_approved : orderLoads orderApproved.value = .ok approvedOrder := by
  simp only [orderLoads, Externals.rendered, Externals.reading, orderApproved, fromUTF8?_toUTF8,
    Option.bind_some, List.map_cons, List.map_nil, lookup_head]

lemma orderLoads_failed : orderLoads orderFailed.value = .ok failedOrder := by
  have hne : failedOrder.render ≠ approvedOrder.render := by decide
  simp only [orderLoads, Externals.rendered, Externals.reading, orderFailed, fromUTF8?_toUTF8,
    Option.bind_some, List.map_cons, List.map_nil, lookup_tail hne, lookup_head]

/-- What the worker does about the two orders. -/
def orderEffects : List Effect :=
  [.post approvedOrder (.answered 503), .post approvedOrder (.answered 200), .counted .success]

def failedEffects : List Effect :=
  List.replicate 5 (.post failedOrder (.answered 503)) ++
    [.deadLetter orderFailed.value orderFailed.key true, .counted .dlq]

lemma handleRecord_approved (effects : List Effect) :
    handleRecord orderLoads flakyErp orderApproved effects = (.ok (), effects ++ orderEffects) :=
  handleRecord_flaky orderLoads_approved effects

lemma handleRecord_failed (effects : List Effect) :
    handleRecord orderLoads failingErp orderFailed effects = (.ok (), effects ++ failedEffects) :=
  handleRecord_failing orderLoads_failed effects

/-- A record that is handled and committed. -/
lemma Deliveries.Reachable.record (h : Deliveries.Reachable loads interrupted lost d)
    (hidle : d.worker.batches = [])
    (hnext : (d.worker.pending ApprovedRecord.offset p (d.worker.position p)).head? = some msg)
    (hr : handleRecord loads env msg d.worker.state = (.ok (), d.worker.state ++ new))
    (herp : Exchanges lost new d.erp erp) :
    Deliveries.Reachable loads interrupted lost ⟨Worker.commitPosition
      ((d.worker.fetch ApprovedRecord.offset [⟨p, [msg], [msg]⟩]).call p msg (d.worker.state ++ new)
        [⟨p, [msg], []⟩]), erp⟩ := by
  have hfetched := h.step (.advanced (.next hidle hnext) (List.append_nil _).symm (.nil _))
  have hhandled := hfetched.step (.advanced (.handled rfl ⟨env, hr⟩) rfl herp)
  exact hhandled.step (.advanced (.committed rfl) (List.append_nil _).symm (.nil _))

lemma exists_deliveries (interrupted lost : Prop) :
    ∃ d : Deliveries, d.Reachable orderLoads interrupted lost ∧ d.worker.batches = [] ∧
      d.worker.log 0 = [orderApproved, orderFailed] ∧ d.worker.committed 0 = 2 ∧
      d.erp.received = [approvedOrder] ∧
      deadLetters d.worker.state = [(orderFailed.value, orderFailed.key)] := by
  obtain ⟨r, hr⟩ : ∃ r : Worker, r =
      ((Reader.start []).publish 0 orderApproved).publish 0 orderFailed := ⟨_, rfl⟩
  have hpublished : Deliveries.Reachable orderLoads interrupted lost ⟨r, ⟨[], []⟩⟩ := by
    rw [hr]
    exact .step (.step .start (.advanced (.published (by simp [Reader.start])) rfl (.nil _)))
      (.advanced (.published (by simp [Reader.start, orderApproved, orderFailed])) rfl (.nil _))
  have hlog : r.log 0 = [orderApproved, orderFailed] := hr ▸ rfl
  have hstart : r.state = [] ∧ r.batches = [] ∧ r.position 0 = 0 := hr ▸ ⟨rfl, rfl, rfl⟩
  obtain ⟨hstate, hidle, hposition⟩ := hstart
  have hfirst : (r.pending ApprovedRecord.offset 0 (r.position 0)).head? = some orderApproved := by
    simp [Reader.pending, hlog, hposition, orderApproved]
  have hdelivered := hpublished.record hidle hfirst (handleRecord_approved _)
    (.post (.answered true) (.post (.answered false) (.counted (.nil _))))
  have hsecond := hdelivered.record rfl (p := 0)
    (by simp [Worker.commitPosition, Reader.call, Reader.fetch, Reader.pending, Reader.advanced,
      hlog, orderApproved, orderFailed]) (handleRecord_failed _)
    (.post (.answered true) (.post (.answered true) (.post (.answered true) (.post (.answered true)
      (.post (.answered true) (.deadLetter (.counted (.nil _))))))))
  refine ⟨_, hsecond, rfl, hlog, rfl, rfl, ?_⟩
  simp [Worker.commitPosition, Reader.call, Reader.fetch, hstate, orderEffects, failedEffects,
    deadLetters]

theorem received_or_dead_flaky :
    ∃ d : Deliveries, ∀ record ∈ [orderApproved, orderFailed], record ∈ d.worker.log 0 ∧
      ((∃ payload ∈ d.erp.received, orderLoads record.value = .ok payload) ∨
          .deadLetter record.value record.key true ∈ d.worker.state) := by
  obtain ⟨d, hd, -, hlog, hcommitted, -⟩ := exists_deliveries True True
  refine ⟨d, fun record hrecord => ?_⟩
  have hmem : record ∈ d.worker.log 0 := hlog ▸ hrecord
  refine ⟨hmem, received_or_dead _ hd hmem ?_⟩
  rw [hcommitted]
  simp only [List.mem_cons, List.not_mem_nil, or_false] at hrecord
  rcases hrecord with rfl | rfl <;> decide

theorem delivered_once_flaky :
    ∃ (d : Deliveries) (handled : List Handled), d.erp.received = [approvedOrder] ∧
      d.erp.received = (handled.filter (·.delivered)).map (·.payload) ∧
      deadLetters d.worker.state = [(orderFailed.value, orderFailed.key)] ∧
      deadLetters d.worker.state =
        (handled.filter (!·.delivered)).map (fun x => (x.record.value, x.record.key)) ∧
      (handled.filter fun x => x.partition = 0).map (·.record) = [orderApproved, orderFailed] := by
  obtain ⟨d, hd, hidle, hlog, hcommitted, hreceived, hdead⟩ := exists_deliveries False False
  obtain ⟨handled, -, hdelivered, hrefused, horder⟩ := delivered_once _ hd hidle
  refine ⟨d, handled, hreceived, hdelivered, hdead, hrefused, ?_⟩
  rw [horder 0, hlog, hcommitted]
  rfl

end EventPipeline

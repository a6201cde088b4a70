import EventPipeline.Library.Reader
import EventPipeline.Consumer

/-!
# The order-approved worker

`deliver` posts an order to the ERP, and `main` calls it on one record of `order-approved` after
the other: what cannot be delivered goes to the dead-letter topic, and the offset is committed
behind every record. The worker may stop after any of its effects. A record below the committed
offset was delivered or is in the dead-letter topic (`worker_never_drops`).
-/

namespace EventPipeline

open Transaction Reader

/-- A record of `order-approved`. -/
structure ApprovedRecord where
  offset : ℕ
  key : Option ByteArray
  value : ByteArray

/-- What `client.post` comes to: an answer, an `httpx.TransportError`, or another exception. -/
inductive Response
  | answered (statusCode : ℕ)
  | transportError (text : String)
  | raised (e : PyError)

/-- What `deliver` raises. -/
inductive DeliveryError
  | transient (text : String)
  | httpStatus (statusCode : ℕ)
  | other (e : PyError)

/-- `retry_if_exception_type(TransientDeliveryError)` -/
def DeliveryError.isTransient : DeliveryError → Bool
  | .transient _ => true
  | _ => false

def Response.isSuccess : Response → Bool
  | .answered code => 200 ≤ code && code < 300
  | _ => false

/-- The body of `deliver`, after the POST. -/
def Response.check : Response → Except DeliveryError Unit
  | .transportError text => .error (.transient text)
  | .raised e => .error (.other e)
  | .answered code =>
    if 500 ≤ code then .error (.transient s!"upstream returned {code}")
    else if 200 ≤ code ∧ code < 300 then .ok ()
    else .error (.httpStatus code)

/-- The `outcome` label of `deliveries_total`. -/
inductive Delivery
  | success
  | dlq
  deriving DecidableEq, Repr

/-- What the worker does to the systems around it. -/
inductive Effect
  | post (payload : Json) (response : Response)
  | deadLetter (value : ByteArray) (key : Option ByteArray) (accepted : Bool)
  | counted (outcome : Delivery)

/-- How `producer.send_and_wait` on the dead-letter topic ends; a record whose publication fails
may have been accepted all the same. -/
inductive Publication
  | acknowledged
  | failed (e : PyError) (accepted : Bool)

/-- What the environment does while one record is handled. -/
structure WorkerEnv where
  responses : ℕ → Response
  publication : Publication

/-- `deliver` under `stop_after_attempt(5)`. -/
def deliver (responses : ℕ → Response) (payload : Json) (effects : List Effect) :
    Except DeliveryError Unit × List Effect :=
  retry DeliveryError.isTransient
    (fun i effects => ((responses i).check, effects ++ [.post payload (responses i)])) 4 0 effects

/-- The route of a record that could not be delivered. -/
def deadLetter (env : WorkerEnv) (msg : ApprovedRecord) (effects : List Effect) :
    Except PyError Unit × List Effect :=
  match env.publication with
  | .acknowledged => (.ok (), effects ++ [.deadLetter msg.value msg.key true, .counted .dlq])
  | .failed e accepted => (.error e, effects ++ [.deadLetter msg.value msg.key accepted])

/-- The body of the loop of `main`, up to the commit. -/
def handleRecord (loads : ByteArray → Except PyError Json) (env : WorkerEnv)
    (msg : ApprovedRecord) (effects : List Effect) : Except PyError Unit × List Effect :=
  match loads msg.value with
  | .error e => (.error e, effects)
  | .ok payload =>
    match payload.get "order_id" .null with
    | .error e => (.error e, effects)
    | .ok _ =>
      match deliver env.responses payload effects with
      | (.ok (), effects) => (.ok (), effects ++ [.counted .success])
      | (.error (.transient _), effects) => deadLetter env msg effects
      | (.error (.httpStatus _), effects) => deadLetter env msg effects
      | (.error (.other e), effects) => (.error e, effects)

/-! ### The loop -/

/-- The worker of one process after the other, and the effects so far. -/
abbrev Worker := Reader ApprovedRecord (List Effect)

/-- `consumer.commit()`: the position of every partition. -/
def Worker.commitPosition (r : Worker) : Worker :=
  { r with committed := r.position, batches := [] }

/-- The process handles a record to the end. -/
def Worker.Handles (loads : ByteArray → Except PyError Json) (r : Worker) (_ : ℕ)
    (msg : ApprovedRecord) (effects : List Effect) : Prop :=
  ∃ env, handleRecord loads env msg r.state = (.ok (), effects)

/-- The process ends while it handles a record, after some of the effects. -/
def Worker.Dies (loads : ByteArray → Except PyError Json) (r : Worker) (_ : ℕ)
    (msg : ApprovedRecord) (effects : List Effect) : Prop :=
  ∃ env, r.state <+: effects ∧ effects <+: (handleRecord loads env msg r.state).2

/-- The steps of `main`. The iterator returns one record at a time, of any partition. -/
inductive Worker.Step (loads : ByteArray → Except PyError Json) : Worker → Worker → Prop
  | published {r : Worker} {p : ℕ} {msg : ApprovedRecord}
      (h : ∀ m ∈ r.log p, m.offset < msg.offset) : Step loads r (r.publish p msg)
  | next {r : Worker} {p : ℕ} {msg : ApprovedRecord} (hidle : r.batches = [])
      (h : (r.pending ApprovedRecord.offset p (r.position p)).head? = some msg) :
      Step loads r (r.fetch ApprovedRecord.offset [⟨p, [msg], [msg]⟩])
  | handled {r : Worker} {p : ℕ} {msg : ApprovedRecord} {effects : List Effect}
      (hb : r.batches = [⟨p, [msg], [msg]⟩]) (h : r.Handles loads p msg effects) :
      Step loads r (r.call p msg effects [⟨p, [msg], []⟩])
  | died {r : Worker} {p : ℕ} {msg : ApprovedRecord} {effects : List Effect}
      (hb : r.batches = [⟨p, [msg], [msg]⟩]) (h : r.Dies loads p msg effects) :
      Step loads r (r.call p msg effects []).restart
  | committed {r : Worker} {p : ℕ} {msg : ApprovedRecord} (hb : r.batches = [⟨p, [msg], []⟩]) :
      Step loads r r.commitPosition
  | stopped {r : Worker} : Step loads r r.restart

inductive Worker.Reachable (loads : ByteArray → Except PyError Json) : Worker → Prop
  | start : Reachable loads (.start [])
  | step {r r' : Worker} (h : Reachable loads r) (hs : Step loads r r') : Reachable loads r'

/-! ### One record -/

variable {loads : ByteArray → Except PyError Json} {env : WorkerEnv} {msg : ApprovedRecord}
  {effects effects' : List Effect} {payload : Json} {responses : ℕ → Response}

/-- Where `deliver` makes another attempt, unless it was the last one. -/
def Response.isRetryable : Response → Bool
  | .answered code => 500 ≤ code
  | .transportError _ => true
  | .raised _ => false

lemma Response.check_transient {response : Response} :
    (∃ text, response.check = .error (.transient text)) ↔ response.isRetryable = true := by
  cases response with
  | answered code =>
    simp only [check, isRetryable, decide_eq_true_eq]
    split_ifs <;> simp_all
  | transportError text => simp [check, isRetryable]
  | raised e => simp [check, isRetryable]

lemma Response.check_other {response : Response} {e : PyError} :
    response.check = .error (.other e) ↔ response = .raised e := by
  cases response with
  | answered code =>
    simp only [check, reduceCtorEq, iff_false]
    split_ifs <;> simp
  | transportError text => simp [check]
  | raised e => simp [check]

lemma Response.check_ok {response : Response} :
    response.check = .ok () ↔ response.isSuccess = true := by
  cases response with
  | answered code =>
    simp only [check, isSuccess, Bool.and_eq_true, decide_eq_true_eq]
    split_ifs with hserver hcode
    · simp only [false_iff]
      omega
    · simpa using hcode
    · simpa using hcode
  | transportError text => simp [check, isSuccess]
  | raised e => simp [check, isSuccess]

/-- The POSTs of one call of `deliver`: each of them but the last is answered with what is worth
another attempt, and so is the last one only if it is the fifth. -/
lemma deliver_eq (responses : ℕ → Response) (payload : Json) (effects : List Effect) :
    ∃ n ≤ 4, (∀ j < n, (responses j).isRetryable = true) ∧
      ((responses n).isRetryable = true → n = 4) ∧
      deliver responses payload effects = ((responses n).check,
        effects ++ (List.range (n + 1)).map fun j => .post payload (responses j)) := by
  obtain ⟨n, hn, hearlier, hlast, heq⟩ := retry_trace DeliveryError.isTransient
    (fun i => (responses i).check) (fun i => Effect.post payload (responses i)) 4 0 effects
  simp only [Nat.zero_add] at hearlier hlast heq
  refine ⟨n, hn, fun j hj => ?_, fun hretryable => ?_, heq⟩
  · obtain ⟨x, hx, htransient⟩ := hearlier j hj
    refine Response.check_transient.mp ?_
    cases x with
    | transient text => exact ⟨text, hx⟩
    | httpStatus code => cases htransient
    | other e => cases htransient
  · obtain ⟨text, htext⟩ := Response.check_transient.mpr hretryable
    exact hlast _ htext rfl

/-- A record was delivered, or is in the dead-letter topic under its own key. -/
def Settles (loads : ByteArray → Except PyError Json) (msg : ApprovedRecord)
    (effects : List Effect) : Prop :=
  (∃ payload response, loads msg.value = .ok payload ∧ .post payload response ∈ effects ∧
    response.isSuccess = true) ∨ .deadLetter msg.value msg.key true ∈ effects

lemma Settles.append (h : Settles loads msg effects) : Settles loads msg (effects ++ effects') := by
  rcases h with ⟨payload, response, hloads, hmem, hsuccess⟩ | hmem
  · exact .inl ⟨payload, response, hloads, List.mem_append_left _ hmem, hsuccess⟩
  · exact .inr (List.mem_append_left _ hmem)

lemma deadLetter_ok (h : deadLetter env msg effects = (.ok (), effects')) :
    effects' = effects ++ [.deadLetter msg.value msg.key true, .counted .dlq] := by
  unfold deadLetter at h
  cases hp : env.publication with
  | acknowledged =>
    rw [hp] at h
    exact (congrArg Prod.snd h).symm
  | failed e accepted =>
    rw [hp] at h
    cases h

/-- A record is handled to the end only when it is delivered or accepted by the dead-letter
topic. -/
lemma settles_of_handled (h : handleRecord loads env msg effects = (.ok (), effects')) :
    ∃ new, effects' = effects ++ new ∧ Settles loads msg new := by
  unfold handleRecord at h
  cases hloads : loads msg.value with
  | error e =>
    rw [hloads] at h
    cases h
  | ok payload =>
    rw [hloads] at h
    cases hget : payload.get "order_id" .null with
    | error e =>
      simp only [hget] at h
      cases h
    | ok orderId =>
      obtain ⟨n, -, -, -, hdeliver⟩ := deliver_eq env.responses payload effects
      simp only [hget, hdeliver] at h
      cases hcheck : (env.responses n).check with
      | ok =>
        simp only [hcheck] at h
        refine ⟨_, (congrArg Prod.snd h).symm.trans (List.append_assoc _ _ _), .append (.inl ?_)⟩
        exact ⟨payload, env.responses n, hloads,
          List.mem_map.mpr ⟨n, List.self_mem_range_succ, rfl⟩, Response.check_ok.mp hcheck⟩
      | error x =>
        simp only [hcheck] at h
        cases x with
        | transient text =>
          exact ⟨_, (deadLetter_ok h).trans (List.append_assoc _ _ _), .inr (by simp)⟩
        | httpStatus code =>
          exact ⟨_, (deadLetter_ok h).trans (List.append_assoc _ _ _), .inr (by simp)⟩
        | other e => cases h

/-- A record that is handled to the end holds an object. -/
lemma object_of_handled (h : handleRecord loads env msg effects = (.ok (), effects')) :
    ∃ fields, loads msg.value = .ok (.obj fields) := by
  unfold handleRecord at h
  cases hloads : loads msg.value with
  | error e =>
    rw [hloads] at h
    cases h
  | ok payload =>
    rw [hloads] at h
    cases payload <;> first | exact ⟨_, rfl⟩ | cases h

/-! ### One iteration -/

/-- `await consumer.commit()`, which follows unless an exception is raised before it. -/
def commitAfter (commit : Except PyError Unit) :
    Except PyError Unit × List Effect → Except PyError Unit × List Effect
  | (.error e, effects) => (.error e, effects)
  | (.ok (), effects) => (commit, effects)

/-- One iteration of the loop of `main`: the record is handled, and its offset committed. -/
def mainIteration (loads : ByteArray → Except PyError Json) (env : WorkerEnv)
    (commit : Except PyError Unit) (msg : ApprovedRecord) (effects : List Effect) :
    Except PyError Unit × List Effect :=
  commitAfter commit (handleRecord loads env msg effects)

/-- How an iteration is to end: the record was delivered or routed to the dead-letter topic, and its
offset is committed unless the commit fails, or the publication to the dead-letter topic fails. -/
inductive Concluded (loads : ByteArray → Except PyError Json) (env : WorkerEnv)
    (commit : Except PyError Unit) (msg : ApprovedRecord) (effects : List Effect) :
    Except PyError Unit × List Effect → Prop
  | settled {new : List Effect} (h : Settles loads msg new) :
      Concluded loads env commit msg effects (commit, effects ++ new)
  | unpublished {new : List Effect} {e : PyError} {accepted : Bool}
      (h : env.publication = .failed e accepted)
      (hmem : .deadLetter msg.value msg.key accepted ∈ new) :
      Concluded loads env commit msg effects (.error e, effects ++ new)

/-- No POST that is made ends with an exception that is no `TransportError`. -/
def WorkerEnv.Answers (env : WorkerEnv) : Prop :=
  ∀ n ≤ 4, (∀ j < n, (env.responses j).isRetryable = true) → ∀ e, env.responses n ≠ .raised e

variable {commit : Except PyError Unit}

lemma deadLetter_concluded (loads : ByteArray → Except PyError Json) (env : WorkerEnv)
    (commit : Except PyError Unit) (msg : ApprovedRecord) (effects posts : List Effect) :
    Concluded loads env commit msg effects
      (commitAfter commit (deadLetter env msg (effects ++ posts))) := by
  unfold deadLetter
  cases hp : env.publication with
  | acknowledged =>
    simp only [commitAfter, List.append_assoc]
    exact .settled (.inr (by simp))
  | failed e accepted =>
    simp only [commitAfter, List.append_assoc]
    exact .unpublished hp (by simp)

/-- An object is delivered or routed. -/
lemma concluded_of_object {fields : List (String × Json)}
    (hloads : loads msg.value = .ok (.obj fields)) (hanswers : env.Answers) :
    Concluded loads env commit msg effects (mainIteration loads env commit msg effects) := by
  obtain ⟨n, hn, hearlier, -, hdeliver⟩ := deliver_eq env.responses (.obj fields) effects
  simp only [mainIteration, handleRecord, hloads, Json.get, hdeliver]
  cases hcheck : (env.responses n).check with
  | ok =>
    simp only [commitAfter, List.append_assoc]
    refine .settled (.append (.inl ?_))
    exact ⟨.obj fields, env.responses n, hloads,
      List.mem_map.mpr ⟨n, List.self_mem_range_succ, rfl⟩, Response.check_ok.mp hcheck⟩
  | error x =>
    cases x with
    | transient text => exact deadLetter_concluded loads env commit msg effects _
    | httpStatus code => exact deadLetter_concluded loads env commit msg effects _
    | other e => exact absurd (Response.check_other.mp hcheck) (hanswers n hn hearlier e)

/-- Anything else raises out of the loop, after POSTs of which none was a success. -/
lemma mainIteration_raises (commit : Except PyError Unit) (effects : List Effect)
    (h : ¬ ((∃ fields, loads msg.value = .ok (.obj fields)) ∧ env.Answers)) :
    ∃ e posts, mainIteration loads env commit msg effects = (.error e, effects ++ posts) ∧
      ∀ effect ∈ posts, ∃ payload response, effect = .post payload response ∧
        response.isSuccess = false := by
  cases hloads : loads msg.value with
  | error e => exact ⟨e, [], by simp [mainIteration, handleRecord, hloads, commitAfter], by simp⟩
  | ok payload =>
    cases hget : payload.get "order_id" .null with
    | error e =>
      exact ⟨e, [], by simp [mainIteration, handleRecord, hloads, hget, commitAfter], by simp⟩
    | ok orderId =>
      obtain ⟨fields, rfl⟩ : ∃ fields, payload = .obj fields := by
        cases payload <;> first | exact ⟨_, rfl⟩ | cases hget
      obtain ⟨n, hn, hretried, e, he⟩ : ∃ n ≤ 4, (∀ j < n, (env.responses j).isRetryable = true) ∧
          ∃ e, env.responses n = .raised e := by
        by_contra hnone
        refine h ⟨⟨fields, hloads⟩, fun n hn hretried e he => hnone ⟨n, hn, hretried, e, he⟩⟩
      obtain ⟨m, hm, hearlier, hlast, hdeliver⟩ := deliver_eq env.responses (.obj fields) effects
      -- the retries end with the POST that raises
      obtain rfl : m = n := by
        rcases Nat.lt_trichotomy m n with hlt | rfl | hlt
        · have := hlast (hretried m hlt)
          omega
        · rfl
        · have hretryable := hearlier n hlt
          rw [he] at hretryable
          cases hretryable
      refine ⟨e, (List.range (m + 1)).map fun j => .post (.obj fields) (env.responses j),
        by simp only [mainIteration, handleRecord, hloads, hget, hdeliver, Response.check_other.mpr he,
          commitAfter], fun effect hmem => ?_⟩
      obtain ⟨j, hj, rfl⟩ := List.mem_map.mp hmem
      refine ⟨.obj fields, env.responses j, rfl, ?_⟩
      rw [← Bool.not_eq_true, ← Response.check_ok]
      rcases Nat.lt_or_eq_of_le (Nat.le_of_lt_succ (List.mem_range.mp hj)) with hlt | rfl
      · obtain ⟨text, htext⟩ := Response.check_transient.mpr (hearlier j hlt)
        simp [htext]
      · simp [Response.check_other.mpr he]

/-- One iteration ends with its commit, after delivering the record or routing it to the dead-letter
topic and unless that publication or the commit fails, if and only if the record holds a JSON object
and the ERP answers its POSTs, were it with errors. -/
theorem iteration_concluded_iff (loads : ByteArray → Except PyError Json) (env : WorkerEnv)
    (commit : Except PyError Unit) (msg : ApprovedRecord) (effects : List Effect) :
    Concluded loads env commit msg effects (mainIteration loads env commit msg effects) ↔
      (∃ fields, loads msg.value = .ok (.obj fields)) ∧ env.Answers := by
  refine ⟨fun h => ?_, fun ⟨⟨fields, hloads⟩, hanswers⟩ => concluded_of_object hloads hanswers⟩
  by_contra hnot
  obtain ⟨e, posts, heq, hposts⟩ := mainIteration_raises commit effects hnot
  generalize mainIteration loads env commit msg effects = result at h heq
  cases h with
  | @settled new hsettles =>
    obtain rfl : new = posts := List.append_cancel_left (congrArg Prod.snd heq)
    rcases hsettles with ⟨payload, response, -, hmem, hsuccess⟩ | hmem
    · obtain ⟨_, _, hpost, hfailed⟩ := hposts _ hmem
      cases hpost
      rw [hsuccess] at hfailed
      cases hfailed
    · obtain ⟨_, _, hpost, -⟩ := hposts _ hmem
      cases hpost
  | @unpublished new _ _ _ hmem =>
    obtain rfl : new = posts := List.append_cancel_left (congrArg Prod.snd heq)
    obtain ⟨_, _, hpost, -⟩ := hposts _ hmem
    cases hpost

/-! ### Every record -/

lemma Worker.commitPosition_eq {r : Worker} {p : ℕ} (hi : Inv ApprovedRecord.offset r)
    (hb : r.batches = [⟨p, [msg], []⟩]) :
    r.commitPosition = r.commit p (msg.offset + 1) [] := by
  have hcommitted : r.position = fun q => if q = p then msg.offset + 1 else r.committed q := by
    funext q
    split_ifs with hq
    · rw [hq]
      exact hi.position ⟨p, [msg], []⟩ (by simp [hb]) msg rfl
    · refine hi.idle q fun b hmem => ?_
      rw [hb, List.mem_singleton] at hmem
      rw [hmem]
      exact fun heq => hq heq.symm
  simp only [commitPosition, Reader.commit, hcommitted]

/-- The worker reads its records as a reader does that fetches them one by one. -/
lemma Worker.Step.reader {r r' : Worker} (hi : Inv ApprovedRecord.offset r)
    (hs : Worker.Step loads r r') :
    Reader.Step ApprovedRecord.offset (fun _ _ => True) (Worker.Handles loads) (Worker.Dies loads)
      r r' := by
  cases hs with
  | published h => exact .published trivial h
  | @next p msg hidle h =>
    refine .fetched hidle ⟨List.pairwise_singleton _ _, by simp, by simp, fun b hb => ?_⟩
    rw [List.mem_singleton.mp hb]
    obtain ⟨rest, hrest⟩ := List.head?_eq_some_iff.mp h
    exact ⟨rest, hrest.symm⟩
  | handled hb h => exact .returned hb h
  | died hb h => exact .broken hb h
  | committed hb =>
    rw [commitPosition_eq hi hb]
    exact .committed hb rfl
  | stopped => exact .stopped

lemma Worker.Reachable.reader {r : Worker} (h : Worker.Reachable loads r) :
    Reader.Reachable ApprovedRecord.offset (fun _ _ => True) (Worker.Handles loads)
      (Worker.Dies loads) [] r := by
  induction h with
  | start => exact .start
  | step _ hs ih => exact ih.step (hs.reader ih.inv)

/-- One of the calls on the record made effects that settle it. -/
def Worker.Settled (loads : ByteArray → Except PyError Json) (r : Worker) (p : ℕ)
    (msg : ApprovedRecord) : Prop :=
  ∃ before new after, (p, msg, before) ∈ r.met ∧ r.state = before ++ new ++ after ∧
    Settles loads msg new

/-- No effect is taken back, and no call. -/
lemma Worker.extends {r r' : Worker}
    (hs : Reader.Step ApprovedRecord.offset (fun _ _ => True) (Worker.Handles loads)
      (Worker.Dies loads) r r') : r.state <+: r'.state ∧ r.met <+: r'.met := by
  cases hs with
  | returned _ h =>
    obtain ⟨env, h⟩ := h
    obtain ⟨new, rfl, -⟩ := settles_of_handled h
    exact ⟨List.prefix_append _ _, List.prefix_append _ _⟩
  | broken _ h =>
    obtain ⟨env, h, -⟩ := h
    exact ⟨h, List.prefix_append _ _⟩
  | published => exact ⟨List.prefix_rfl, List.prefix_rfl⟩
  | fetched => exact ⟨List.prefix_rfl, List.prefix_rfl⟩
  | committed => exact ⟨List.prefix_rfl, List.prefix_rfl⟩
  | stopped => exact ⟨List.prefix_rfl, List.prefix_rfl⟩

lemma Worker.Reachable.settled {r : Worker} (h : Worker.Reachable loads r) {p : ℕ}
    (hm : msg ∈ r.log p) (hlt : msg.offset < r.committed p) : r.Settled loads p msg := by
  refine Reader.Reachable.behind (P := fun r p msg => Worker.Settled loads r p msg) ?_ ?_ h.reader
    (.inl ⟨hm, hlt⟩)
  · rintro r p msg effects batches - ⟨env, henv⟩
    obtain ⟨new, rfl, hnew⟩ := settles_of_handled henv
    exact ⟨r.state, new, [], by simp [Reader.call], (List.append_nil _).symm, hnew⟩
  · rintro r r' p msg - hs ⟨before, new, after, hmet, hstate, hnew⟩
    obtain ⟨⟨more, hmore⟩, hcalls⟩ := Worker.extends hs
    refine ⟨before, new, after ++ more, hcalls.subset hmet, ?_, hnew⟩
    rw [← hmore, hstate, List.append_assoc]

/-- A record below the committed offset was delivered or is in the dead-letter topic, and one
call of `deliver` makes at most five POSTs, up to the first success and the first answer that is
not worth another attempt. -/
theorem worker_never_drops (loads : ByteArray → Except PyError Json) :
    (∀ r, Worker.Reachable loads r → ∀ p, ∀ msg ∈ r.log p, msg.offset < r.committed p →
      ∃ before new after, (p, msg, before) ∈ r.met ∧ r.state = before ++ new ++ after ∧
        ((∃ payload response, loads msg.value = .ok payload ∧ .post payload response ∈ new ∧
          response.isSuccess = true) ∨ .deadLetter msg.value msg.key true ∈ new)) ∧
    ∀ (responses : ℕ → Response) (payload : Json) (effects : List Effect),
      ∃ n < 5, (deliver responses payload effects).2 =
          effects ++ (List.range (n + 1)).map (fun j => .post payload (responses j)) ∧
        (∀ j < n, (responses j).isSuccess = false ∧ (responses j).isRetryable = true) ∧
        ((responses n).isRetryable = true → n = 4) ∧
        ((deliver responses payload effects).1 = .ok () ↔ (responses n).isSuccess = true) := by
  refine ⟨fun r h p msg hm hlt => h.settled hm hlt, fun responses payload effects => ?_⟩
  obtain ⟨n, hn, hearlier, hlast, heq⟩ := deliver_eq responses payload effects
  rw [heq]
  refine ⟨n, by omega, rfl, fun j hj => ⟨?_, hearlier j hj⟩, hlast, Response.check_ok⟩
  rw [← Bool.not_eq_true, ← Response.check_ok]
  obtain ⟨text, htext⟩ := Response.check_transient.mpr (hearlier j hj)
  simp [htext]

/-- A record that holds no object is never passed: the worker meets it after every restart. -/
theorem poison_blocks {r : Worker} (h : Worker.Reachable loads r) {p : ℕ} (hm : msg ∈ r.log p)
    (hpoison : ∀ fields, loads msg.value ≠ .ok (.obj fields)) : r.committed p ≤ msg.offset := by
  by_contra hlt
  obtain ⟨fields, hfields⟩ : ∃ fields, loads msg.value = .ok (.obj fields) := by
    refine Reader.Reachable.behind (P := fun _ _ msg => ∃ fields, loads msg.value = .ok (.obj fields))
      ?_ ?_ h.reader (.inl ⟨hm, Nat.lt_of_not_le hlt⟩)
    · rintro r p msg effects batches - ⟨env, henv⟩
      exact object_of_handled henv
    · rintro r r' p msg - - hobject
      exact hobject
  exact hpoison fields hfields

/-! ### A record that is no object -/

def listRecord : ApprovedRecord :=
  ⟨0, none, (Json.arr []).render.toUTF8⟩

/-- Every POST is answered 201, and the dead-letter topic accepts what it is sent. -/
def healthyErp : WorkerEnv where
  responses _ := .answered 201
  publication := .acknowledged

/-- An empty list raises out of the loop although nothing around the worker fails. -/
theorem list_stops_worker :
    mainIteration (Externals.rendered [.arr []]).loads healthyErp (.ok ()) listRecord [] =
        (.error ⟨"'list' object has no attribute 'get'"⟩, []) ∧
      ¬ Concluded (Externals.rendered [.arr []]).loads healthyErp (.ok ()) listRecord []
        (mainIteration (Externals.rendered [.arr []]).loads healthyErp (.ok ()) listRecord []) := by
  have hloads : (Externals.rendered [.arr []]).loads listRecord.value = .ok (.arr []) := by
    simp only [Externals.rendered, Externals.reading, listRecord, fromUTF8?_toUTF8, Option.bind_some,
      List.map_cons, List.map_nil, lookup_head]
  have hraises : mainIteration (Externals.rendered [.arr []]).loads healthyErp (.ok ()) listRecord [] =
      (.error ⟨"'list' object has no attribute 'get'"⟩, []) := by
    simp only [mainIteration, handleRecord, hloads]
    rfl
  refine ⟨hraises, fun h => ?_⟩
  generalize mainIteration (Externals.rendered [.arr []]).loads healthyErp (.ok ()) listRecord [] =
    result at h hraises
  cases h with
  | settled => cases hraises
  | unpublished hfailed => cases hfailed

/-! ### An order the ERP refuses -/

def approvedOrder : Json :=
  .obj [("order_id", .int 1)]

def orderApproved : ApprovedRecord :=
  ⟨0, some "1".toUTF8, approvedOrder.render.toUTF8⟩

/-- The ERP answers 503, then 404; the dead-letter topic accepts what it is sent. -/
def refusingErp : WorkerEnv where
  responses i := if i = 0 then .answered 503 else .answered 404
  publication := .acknowledged

/-- What handling the order does. -/
def refusalEffects : List Effect :=
  [.post approvedOrder (.answered 503), .post approvedOrder (.answered 404),
    .deadLetter orderApproved.value orderApproved.key true, .counted .dlq]

lemma handleRecord_refused :
    handleRecord (Externals.rendered [approvedOrder]).loads refusingErp orderApproved [] =
      (.ok (), refusalEffects) := by
  have hloads : (Externals.rendered [approvedOrder]).loads orderApproved.value =
      .ok approvedOrder := by
    simp only [Externals.rendered, Externals.reading, orderApproved, fromUTF8?_toUTF8,
      Option.bind_some, List.map_cons, List.map_nil, lookup_head]
  simp only [handleRecord, hloads]
  rfl

/-- The worker behind the order. -/
def refusedWorker : Worker where
  state := refusalEffects
  log p := if p = 0 then [orderApproved] else []
  committed p := if p = 0 then 1 else 0
  position p := if p = 0 then 1 else 0
  batches := []
  met := [(0, orderApproved, [])]

lemma reachable_refusedWorker :
    Worker.Reachable (Externals.rendered [approvedOrder]).loads refusedWorker := by
  have hread : Worker.Reachable (Externals.rendered [approvedOrder]).loads
      ((Reader.start []).publish 0 orderApproved) :=
    Worker.Reachable.start.step (.published (by simp [Reader.start]))
  have hnext : (((Reader.start [] : Worker).publish 0 orderApproved).pending ApprovedRecord.offset 0
      0).head? = some orderApproved := by
    simp [Reader.start, Reader.publish, Reader.pending, orderApproved]
  have hfetched := hread.step (.next rfl hnext)
  have hhandled := hfetched.step (.handled rfl ⟨refusingErp, handleRecord_refused⟩)
  have hworker : Worker.commitPosition (((((Reader.start [] : Worker).publish 0 orderApproved).fetch
      ApprovedRecord.offset [⟨0, [orderApproved], [orderApproved]⟩]).call 0 orderApproved
      refusalEffects [⟨0, [orderApproved], []⟩])) = refusedWorker := by
    have hposition : ∀ q, (((Reader.start [] : Worker).publish 0 orderApproved).fetch
        ApprovedRecord.offset [⟨0, [orderApproved], [orderApproved]⟩]).position q =
          if q = 0 then 1 else 0 := by
      intro q
      cases q <;> rfl
    simp only [Worker.commitPosition, refusedWorker, Reader.call, Reader.publish, Reader.start,
      List.nil_append]
    congr 1 <;> funext q <;> exact hposition q
  rw [← hworker]
  exact hhandled.step (.committed rfl)

/-- The order is in the dead-letter topic when its offset is committed. -/
theorem worker_dead_letters :
    ∃ before new after, (0, orderApproved, before) ∈ refusedWorker.met ∧
      refusedWorker.state = before ++ new ++ after ∧
        ((∃ payload response,
          (Externals.rendered [approvedOrder]).loads orderApproved.value = .ok payload ∧
            .post payload response ∈ new ∧ response.isSuccess = true) ∨
          .deadLetter orderApproved.value orderApproved.key true ∈ new) :=
  (worker_never_drops (Externals.rendered [approvedOrder]).loads).1 refusedWorker
    reachable_refusedWorker 0 orderApproved (List.mem_singleton.mpr rfl) Nat.zero_lt_one

end EventPipeline

import Mathlib.Algebra.BigOperators.Group.Finset.Piecewise
import Mathlib.Algebra.Group.Action.Defs
import EventPipeline.Criterion
import EventPipeline.Library.Pool
import EventPipeline.Library.Reader
import EventPipeline.Webhook

/-!
# A burst of the load simulator

`run` of the load simulator against the receiver. Every order is a task of its own that sends its
events one after the other, each under a permit of the semaphore; a request that gets no answer
within ten seconds counts as failed, whether or not the receiver has handled it or still will.
However the requests are answered, no more of them are in flight than the semaphore allows, and
with a permit every burst ends (`burst_ends`). When all of them were answered with success, what a
consumer finds in the partitions is an interleaving of the orders' sequences, and the check that
the simulator asks for comes out (`burst_counted`).
-/

namespace EventPipeline

open Transaction

namespace Workload

/-- What the receiver reads of a request. -/
def envelope (wl : Workload) (seq : ℕ) (step : OrderStep) : WebhookEnvelope where
  eventId := (wl.eventId seq step).text
  eventType := match step with
    | .created => .orderCreated
    | .approved => .orderStatusChanged
    | .paid => .paymentConfirmed
  occurredAt := wl.occurredAt seq step
  data := match (wl.event seq step).getItem "data" with
    | .ok (.obj fields) => fields
    | _ => []
  length_eventId := by
    rw [Uuid.length_text]
    decide

/-- The jobs of an order. -/
def jobs (wl : Workload) (seq : ℕ) : List OrderStep :=
  if seq < wl.orders then wl.runOrder seq else []

/-- The requests of a burst. -/
def requests (wl : Workload) : ℕ :=
  ∑ seq ∈ Finset.range wl.orders, (wl.runOrder seq).length

variable {wl : Workload} {seq : ℕ} {step : OrderStep}

/-- The request is the envelope. -/
lemma event_eq (wl : Workload) (seq : ℕ) (step : OrderStep) : wl.event seq step =
    .obj [("event_id", .str (wl.envelope seq step).eventId),
      ("event_type", .str (wl.envelope seq step).eventType.text),
      ("occurred_at", .str (wl.envelope seq step).occurredAt),
      ("data", .obj (wl.envelope seq step).data)] := by
  cases step <;> rfl

/-- The events of an order are published under its external id. -/
lemma partitionKey_envelope (wl : Workload) (seq : ℕ) (step : OrderStep) :
    (wl.envelope seq step).partitionKey = .str (orderId seq) := by
  have hlookup : (wl.envelope seq step).data.lookup "external_order_id" =
      some (.str (orderId seq)) := by
    cases step <;> rfl
  have hne : orderId seq ≠ "" := by
    intro heq
    have hlength := congrArg String.length heq
    rw [orderId, String.length_append] at hlength
    simp at hlength
  have htruthy : (Json.str (orderId seq)).truthy = true := by simpa [Json.truthy] using hne
  simp only [WebhookEnvelope.partitionKey, hlookup, Option.getD_some, htruthy, if_true]

lemma jobs_of_notMem (wl : Workload) : ∀ seq ∉ Finset.range wl.orders, wl.jobs seq = [] :=
  fun _ h => if_neg (by simpa using h)

lemma sum_jobs (wl : Workload) :
    ∑ seq ∈ Finset.range wl.orders, (wl.jobs seq).length = wl.requests :=
  Finset.sum_congr rfl fun seq hseq => by rw [jobs, if_pos (Finset.mem_range.mp hseq)]

lemma length_runOrder (wl : Workload) (seq : ℕ) :
    (wl.runOrder seq).length = 3 + if wl.replayed seq then 1 else 0 := by
  unfold runOrder
  split <;> rfl

/-- Three requests an order, and one more for each that is replayed. -/
lemma requests_eq (wl : Workload) : wl.requests =
    3 * wl.orders + ((Finset.range wl.orders).filter fun seq => wl.replayed seq = true).card := by
  simp only [requests, length_runOrder, Finset.sum_add_distrib, Finset.sum_const,
    Finset.card_range, smul_eq_mul, Finset.card_filter, mul_comm]

end Workload

/-! ### Requests and answers -/

/-- The status code of an answer. -/
def Answer.status : Answer → ℕ
  | .accepted _ => 202
  | .unavailable _ => 503
  | .raised _ => 500

/-- The receiver handles a request; a call of `send_and_wait` that fails may have put its record on
`webhook-events` all the same. -/
inductive Served (dumps : Json → Except PyError ByteArray) (partitioner : String → ℕ)
    (envelope : WebhookEnvelope) (r : Receiver) (log : ℕ → List Message) :
    Answer → Receiver → (ℕ → List Message) → Prop
  | unsent (env : RequestEnv) (h : (receiveWebhook dumps env envelope r).2.sent = r.sent) :
      Served dumps partitioner envelope r log (receiveWebhook dumps env envelope r).1
        (receiveWebhook dumps env envelope r).2 log
  | lost (env : RequestEnv) {send : Send}
      (h : (receiveWebhook dumps env envelope r).2.sent = r.sent ++ [send])
      (hlost : send.accepted = false) :
      Served dumps partitioner envelope r log (receiveWebhook dumps env envelope r).1
        (receiveWebhook dumps env envelope r).2 log
  | published (env : RequestEnv) {send : Send} {offset : ℕ}
      (h : (receiveWebhook dumps env envelope r).2.sent = r.sent ++ [send])
      (hoffset : ∀ m ∈ log (partitioner send.key), m.offset < offset) :
      Served dumps partitioner envelope r log (receiveWebhook dumps env envelope r).1
        (receiveWebhook dumps env envelope r).2 fun q =>
          if q = partitioner send.key then log q ++ [⟨offset, send.value⟩] else log q

/-- A request that is accepted is in the partition of its key. -/
lemma Served.accepted {dumps : Json → Except PyError ByteArray} {partitioner : String → ℕ}
    {envelope : WebhookEnvelope} {r r' : Receiver} {log log' : ℕ → List Message} {answer : Answer}
    (h : Served dumps partitioner envelope r log answer r' log') (ha : answer.status = 202) :
    ∃ key time message, envelope.partitionKey = .str key ∧
      dumps (envelope.body time) = .ok message.value ∧
      log' = fun q => if q = partitioner key then log q ++ [message] else log q := by
  have haccepted : ∀ env, (receiveWebhook dumps env envelope r).1.status = 202 →
      ∃ key value, envelope.partitionKey = .str key ∧ dumps (envelope.body env.time) = .ok value ∧
        (receiveWebhook dumps env envelope r).2.sent = r.sent ++ [⟨key, value, true⟩] := by
    intro env hstatus
    unfold receiveWebhook at hstatus ⊢
    split_ifs at hstatus ⊢ with hready
    · cases hstatus
    · cases hvalue : dumps (envelope.body env.time) with
      | error e =>
        simp only [hvalue] at hstatus
        cases hstatus
      | ok value =>
        simp only [hvalue] at hstatus ⊢
        split at hstatus
        · rename_i key hkey
          split_ifs at hstatus ⊢ with hadmits
          · cases hsend : env.send with
            | some e =>
              simp only [hsend] at hstatus
              cases hstatus
            | none => exact ⟨key, value, hkey, rfl, by simp only⟩
          · cases hstatus
        · cases hstatus
  cases h with
  | unsent env h =>
    obtain ⟨key, value, -, -, hsent⟩ := haccepted env ha
    rw [hsent] at h
    simp at h
  | lost env h hlost =>
    obtain ⟨key, value, -, -, hsent⟩ := haccepted env ha
    rw [hsent] at h
    obtain rfl := List.singleton_inj.mp (List.append_cancel_left h)
    cases hlost
  | @published env send offset h hoffset =>
    obtain ⟨key, value, hkey, hvalue, hsent⟩ := haccepted env ha
    rw [hsent] at h
    obtain rfl := List.singleton_inj.mp (List.append_cancel_left h)
    exact ⟨key, env.time, ⟨offset, value⟩, hkey, hvalue, rfl⟩

/-! ### Bursts -/

structure Burst where
  pool : Pool ℕ OrderStep
  /-- What the receiver has answered the request in flight of an order. -/
  answers : ℕ → Option Answer
  /-- The requests that were given up before the receiver had handled them. -/
  stray : List (ℕ × OrderStep)
  receiver : Receiver
  log : ℕ → List Message
  /-- The status codes; 0 for a request that failed. -/
  results : List ℕ

namespace Burst

variable (dumps : Json → Except PyError ByteArray) (partitioner : String → ℕ) (wl : Workload)

def start (concurrency : ℕ) : Burst where
  pool := .start concurrency wl.jobs
  answers _ := none
  stray := []
  receiver := ⟨[], [], 0⟩
  log _ := []
  results := []

/-- What the tasks of `run` do. -/
inductive Sends : Burst → Burst → Prop
  | entered {b : Burst} {seq : ℕ} (h : b.pool.Ready seq) : Sends b { b with pool := b.pool.enter seq }
  | answered {b : Burst} {seq : ℕ} {answer : Answer} (hholding : seq ∈ b.pool.holding)
      (ha : b.answers seq = some answer) :
      Sends b { b with
        pool := b.pool.leave seq
        answers := Function.update b.answers seq none
        results := b.results ++ [answer.status] }
  | failed {b : Burst} {seq : ℕ} {step : OrderStep} {rest : List OrderStep}
      (hholding : seq ∈ b.pool.holding) (htodo : b.pool.todo seq = step :: rest) :
      Sends b { b with
        pool := b.pool.leave seq
        answers := Function.update b.answers seq none
        stray := if b.answers seq = none then b.stray ++ [(seq, step)] else b.stray
        results := b.results ++ [0] }

/-- What the receiver does. -/
inductive Serves : Burst → Burst → Prop
  | received {b : Burst} {seq : ℕ} {step : OrderStep} {rest : List OrderStep} {answer : Answer}
      {receiver : Receiver} {log : ℕ → List Message} (hholding : seq ∈ b.pool.holding)
      (htodo : b.pool.todo seq = step :: rest) (hnew : b.answers seq = none)
      (h : Served dumps partitioner (wl.envelope seq step) b.receiver b.log answer receiver log) :
      Serves b { b with answers := Function.update b.answers seq (some answer), receiver, log }
  | strayed {b : Burst} {op : ℕ × OrderStep} {answer : Answer} {receiver : Receiver}
      {log : ℕ → List Message} (hop : op ∈ b.stray)
      (h : Served dumps partitioner (wl.envelope op.1 op.2) b.receiver b.log answer receiver log) :
      Serves b { b with stray := b.stray.erase op, receiver, log }

/-- Bursts in which the tasks have taken a number of steps. -/
inductive Runs (concurrency : ℕ) : ℕ → Burst → Prop
  | start : Runs concurrency 0 (start wl concurrency)
  | sent {n : ℕ} {b b' : Burst} (h : Runs concurrency n b) (hs : Sends b b') :
      Runs concurrency (n + 1) b'
  | served {n : ℕ} {b b' : Burst} (h : Runs concurrency n b)
      (hs : Serves dumps partitioner wl b b') : Runs concurrency n b'

variable {dumps partitioner wl} {b b' : Burst} {c n seq : ℕ}

/-! ### The tasks -/

/-- What holds in all states of a burst. -/
structure Inv (wl : Workload) (c n : ℕ) (b : Burst) : Prop where
  pool : Pool.Runs c wl.jobs n b.pool
  answers : ∀ seq, b.answers seq ≠ none → seq ∈ b.pool.holding
  stray : b.stray ≠ [] → 0 ∈ b.results
  results : b.results.length + ∑ seq ∈ Finset.range wl.orders, (b.pool.todo seq).length =
    wl.requests

/-- A task whose request is over has one event less to send. -/
lemma sum_leave {r : Pool ℕ OrderStep} (h : Pool.Runs c wl.jobs n r) (hseq : seq ∈ r.holding) :
    ∑ i ∈ Finset.range wl.orders, ((r.leave seq).todo i).length + 1 =
      ∑ i ∈ Finset.range wl.orders, (r.todo i).length := by
  have hbefore := h.length_eq (Finset.range wl.orders) wl.jobs_of_notMem
  have hafter := (h.step (.left hseq)).length_eq (Finset.range wl.orders) wl.jobs_of_notMem
  have hbusy := (Pool.leave_busy hseq).length_eq
  rw [List.length_cons] at hbusy
  omega

namespace Inv

lemma start (wl : Workload) (c : ℕ) : Inv wl c 0 (start wl c) where
  pool := .start
  answers seq h := absurd rfl h
  stray h := absurd rfl h
  results := by
    show 0 + ∑ seq ∈ Finset.range wl.orders, (wl.jobs seq).length = wl.requests
    rw [zero_add, wl.sum_jobs]

/-- A request is over. -/
lemma leave {status : ℕ} {stray : List (ℕ × OrderStep)} (h : Inv wl c n b)
    (hseq : seq ∈ b.pool.holding) (hstray : stray ≠ [] → 0 ∈ b.results ++ [status]) :
    Inv wl c (n + 1) { b with
      pool := b.pool.leave seq
      answers := Function.update b.answers seq none
      stray
      results := b.results ++ [status] } where
  pool := h.pool.step (.left hseq)
  answers i hi := by
    by_cases heq : i = seq
    · rw [heq] at hi
      exact absurd (Function.update_self ..) hi
    · have hi : b.answers i ≠ none := by simpa [Function.update_of_ne heq] using hi
      have hmem := (List.perm_cons_erase hseq).mem_iff.mp (h.answers i hi)
      have herase := (List.mem_cons.mp hmem).resolve_left heq
      show i ∈ (b.pool.leave seq).holding
      unfold Pool.leave
      split
      · exact herase
      · exact List.mem_append_left _ herase
  stray := hstray
  results := by
    have hresults := h.results
    have hsum := sum_leave h.pool hseq
    rw [List.length_append, List.length_singleton]
    show _ + ∑ i ∈ Finset.range wl.orders, ((b.pool.leave seq).todo i).length = _
    omega

lemma sends (h : Inv wl c n b) (hs : Sends b b') : Inv wl c (n + 1) b' := by
  cases hs with
  | @entered seq hready =>
    refine ⟨h.pool.step (.entered hready), fun i hi => ?_, h.stray, ?_⟩
    · have hmem := h.answers i hi
      show i ∈ (b.pool.enter seq).holding
      unfold Pool.enter
      split
      · exact List.mem_append_left _ hmem
      · exact hmem
    · rw [Pool.enter_todo]
      exact h.results
  | answered hholding ha =>
    exact h.leave hholding fun hne => List.mem_append_left _ (h.stray hne)
  | failed hholding htodo =>
    exact h.leave hholding fun _ => List.mem_append_right _ (List.mem_singleton_self _)

lemma serves (h : Inv wl c n b) (hs : Serves dumps partitioner wl b b') : Inv wl c n b' := by
  cases hs with
  | @received seq _ _ _ _ _ hholding =>
    refine ⟨h.pool, fun i hi => ?_, h.stray, h.results⟩
    by_cases heq : i = seq
    · exact heq ▸ hholding
    · exact h.answers i (by simpa [Function.update_of_ne heq] using hi)
  | strayed hop => exact ⟨h.pool, h.answers, fun _ => h.stray (List.ne_nil_of_mem hop), h.results⟩

end Inv

lemma Runs.inv (h : Runs dumps partitioner wl c n b) : Inv wl c n b := by
  induction h with
  | start => exact .start wl c
  | sent _ hs ih => exact ih.sends hs
  | served _ hs ih => exact ih.serves hs

/-- Without a permit nothing is sent. -/
lemma Runs.silent (h : Runs dumps partitioner wl 0 n b) :
    b.results = [] ∧ b.stray = [] ∧ ∀ p, b.log p = [] := by
  induction h with
  | start => exact ⟨rfl, rfl, fun _ => rfl⟩
  | sent h hs ih =>
    have hnone := h.inv.pool.holding_eq_nil
    cases hs with
    | entered => exact ih
    | answered hholding => simp [hnone] at hholding
    | failed hholding => simp [hnone] at hholding
  | served h hs ih =>
    have hnone := h.inv.pool.holding_eq_nil
    cases hs with
    | received hholding => simp [hnone] at hholding
    | strayed hop => simp [ih.2.1] at hop

/-- As long as an event is left to send, and there is a permit at all, some task can go on: the
receiver need not answer. -/
lemma Inv.exists_sends (h : Inv wl c n b) (hc : 0 < c) (hseq : b.pool.todo seq ≠ []) :
    ∃ b', Sends b b' := by
  obtain ⟨r', hs⟩ := h.pool.inv.exists_step hc hseq
  cases hs with
  | entered hready => exact ⟨_, .entered hready⟩
  | @left i hholding =>
    have hne := h.pool.inv.todo i (List.mem_append_left _ hholding)
    obtain ⟨step, rest, htodo⟩ := List.exists_cons_of_ne_nil hne
    exact ⟨_, .failed hholding htodo⟩

/-- Whatever the receiver answers, and whatever is answered in time: at most `concurrency` requests
are in flight, of every order one at most, and the tasks take at most two steps for each request.
If there is a permit, a burst that cannot go on has sent everything and has a result for every
request; without one it sends nothing. -/
theorem burst_ends (dumps : Json → Except PyError ByteArray) (partitioner : String → ℕ)
    (wl : Workload) {concurrency n : ℕ} {b : Burst} (h : Runs dumps partitioner wl concurrency n b) :
    b.pool.holding.length ≤ concurrency ∧ b.pool.holding.Nodup ∧ n ≤ 2 * wl.requests ∧
      b.results.length ≤ wl.requests ∧
      (0 < concurrency → (∀ b', ¬ Sends b b') →
        (∀ seq, b.pool.todo seq = []) ∧ b.results.length = wl.requests ∧ n = 2 * wl.requests) ∧
      (concurrency = 0 → b.results = [] ∧ ∀ p, b.log p = []) := by
  have hinv := h.inv
  have hpool := hinv.pool.inv
  have hsteps := hinv.pool.length_eq (Finset.range wl.orders) wl.jobs_of_notMem
  have hbusy := hinv.pool.busy_le (Finset.range wl.orders) wl.jobs_of_notMem
  have hresults := hinv.results
  rw [wl.sum_jobs] at hsteps
  refine ⟨hpool.length_holding_le, (List.nodup_append.mp hpool.distinct).1, by omega, by omega, ?_,
    ?_⟩
  · intro hc hstuck
    have hdone : ∀ seq, b.pool.todo seq = [] := by
      intro seq
      by_contra hseq
      obtain ⟨b', hs⟩ := hinv.exists_sends hc hseq
      exact hstuck b' hs
    simp only [hdone, List.length_nil, Finset.sum_const_zero] at hsteps hbusy hresults
    exact ⟨hdone, by omega, by omega⟩
  · rintro rfl
    exact ⟨h.silent.1, h.silent.2.2⟩

/-! ### What is published -/

/-- A record of `webhook-events`, and the event it carries. -/
structure Post where
  partition : ℕ
  op : ℕ × OrderStep
  message : Message

/-- The request was answered with success. -/
def Success (status : ℕ) : Prop :=
  200 ≤ status ∧ status < 300

/-- Nothing has failed so far. -/
structure Clean (b : Burst) : Prop where
  results : ∀ status ∈ b.results, Success status
  answers : ∀ seq answer, b.answers seq = some answer → Success answer.status

/-- The events of an order that the receiver has not accepted. -/
def unsent (b : Burst) (seq : ℕ) : List OrderStep :=
  if b.answers seq = none then b.pool.todo seq else (b.pool.todo seq).tail

/-- The partitions have what the orders have sent, of every order in its own sequence. -/
structure Carried (dumps : Json → Except PyError ByteArray) (partitioner : String → ℕ)
    (wl : Workload) (b : Burst) (posts : List Post) : Prop where
  log : ∀ p, (posts.filter (·.partition = p)).map (·.message) = b.log p
  partition : ∀ post ∈ posts, post.partition = partitioner (Workload.orderId post.op.1)
  value : ∀ post ∈ posts, ∃ time,
    dumps ((wl.envelope post.op.1 post.op.2).body time) = .ok post.message.value
  sequence : ∀ seq, (posts.filter (·.op.1 = seq)).map (·.op.2) ++ b.unsent seq = wl.jobs seq

lemma success_iff (answer : Answer) : Success answer.status ↔ answer.status = 202 := by
  cases answer <;> simp [Success, Answer.status]

/-- A task that comes to a job, and one whose request was accepted, leave unsent what was. -/
lemma Carried.of_eq {posts : List Post} (h : Carried dumps partitioner wl b posts)
    (hlog : b'.log = b.log) (hunsent : ∀ seq, b'.unsent seq = b.unsent seq) :
    Carried dumps partitioner wl b' posts where
  log p := by rw [hlog, h.log]
  partition := h.partition
  value := h.value
  sequence seq := by rw [hunsent, h.sequence]

lemma Carried.received {posts : List Post} {step : OrderStep} {rest : List OrderStep}
    {answer : Answer} {receiver : Receiver} {log : ℕ → List Message}
    (h : Carried dumps partitioner wl b posts) (htodo : b.pool.todo seq = step :: rest)
    (hnew : b.answers seq = none) (ha : Success answer.status)
    (hserved : Served dumps partitioner (wl.envelope seq step) b.receiver b.log answer receiver log) :
    ∃ posts', Carried dumps partitioner wl
      { b with answers := Function.update b.answers seq (some answer), receiver, log } posts' := by
  obtain ⟨key, time, message, hkey, hvalue, rfl⟩ := hserved.accepted ((success_iff answer).mp ha)
  rw [wl.partitionKey_envelope] at hkey
  cases hkey
  refine ⟨posts ++ [⟨partitioner (Workload.orderId seq), (seq, step), message⟩], ?_, ?_, ?_, ?_⟩
  · intro p
    rw [List.filter_append, List.map_append, h.log]
    by_cases hp : p = partitioner (Workload.orderId seq)
    · simp [hp]
    · simp [hp, Ne.symm hp]
  · exact List.forall_mem_append.mpr ⟨h.partition, by simp⟩
  · exact List.forall_mem_append.mpr ⟨h.value, by simpa using ⟨time, hvalue⟩⟩
  · intro i
    rw [List.filter_append, List.map_append, List.append_assoc]
    have hsequence := h.sequence i
    by_cases hi : i = seq
    · subst hi
      simp only [unsent, hnew, if_true, htodo] at hsequence
      simpa [unsent, htodo] using hsequence
    · simpa [unsent, Function.update_of_ne hi, Ne.symm hi] using hsequence

lemma Runs.carried (h : Runs dumps partitioner wl c n b) (hclean : b.Clean) :
    ∃ posts, Carried dumps partitioner wl b posts := by
  induction h with
  | start => exact ⟨[], fun _ => rfl, by simp, by simp, fun seq => rfl⟩
  | @sent n b b' h hs ih =>
    cases hs with
    | entered hready =>
      obtain ⟨posts, hposts⟩ := ih ⟨hclean.results, hclean.answers⟩
      exact ⟨posts, hposts.of_eq rfl fun seq => by rw [unsent, unsent, Pool.enter_todo]⟩
    | @answered seq answer hholding ha =>
      have hsuccess : Success answer.status :=
        hclean.results _ (List.mem_append_right _ (List.mem_singleton_self _))
      obtain ⟨posts, hposts⟩ := ih ⟨fun status hstatus =>
        hclean.results _ (List.mem_append_left _ hstatus), fun i answer' hi => by
          by_cases heq : i = seq
          · rw [heq, ha] at hi
            cases hi
            exact hsuccess
          · exact hclean.answers i answer' (by simpa [Function.update_of_ne heq] using hi)⟩
      refine ⟨posts, hposts.of_eq rfl fun i => ?_⟩
      by_cases heq : i = seq
      · subst heq
        simp [unsent, ha]
      · simp [unsent, Function.update_of_ne heq]
    | failed hholding htodo =>
      have hfailed := hclean.results 0 (List.mem_append_right _ (List.mem_singleton_self _))
      exact absurd hfailed.1 (by decide)
  | @served n b b' h hs ih =>
    cases hs with
    | @received seq step rest answer receiver log hholding htodo hnew hserved =>
      have hsuccess : Success answer.status := hclean.answers seq answer (Function.update_self ..)
      obtain ⟨posts, hposts⟩ := ih ⟨hclean.results, fun i answer' hi => by
        by_cases heq : i = seq
        · rw [heq, hnew] at hi
          cases hi
        · exact hclean.answers i answer' (by simpa [Function.update_of_ne heq] using hi)⟩
      exact hposts.received htodo hnew hsuccess hserved
    | strayed hop =>
      have hfailed := hclean.results 0 (h.inv.stray (List.ne_nil_of_mem hop))
      exact absurd hfailed.1 (by decide)

/-! ### What is consumed -/

/-- The calls read every partition in its order. -/
def Reads (b : Burst) (calls : List (ℕ × CallEnv × Message)) : Prop :=
  ∀ p, (calls.filter (·.1 = p)).map (·.2.2) = b.log p

lemma forall₂_of_map_eq {α β γ : Type} {f : α → γ} {g : β → γ} {as : List α} {bs : List β}
    (h : as.map f = bs.map g) : List.Forall₂ (fun a b => f a = g b) as bs := by
  rw [← List.forall₂_eq_eq_eq, List.forall₂_map_left_iff, List.forall₂_map_right_iff] at h
  exact h

/-- What is read in the order of the partitions is read in the order of the orders' sequences. -/
lemma Carried.interleaves {posts : List Post} {calls : List (ℕ × CallEnv × Message)}
    (h : Carried dumps partitioner wl b posts) (hsent : ∀ seq, b.unsent seq = [])
    (hreads : b.Reads calls) :
    ∃ ops, wl.Interleaves ops ∧ List.Forall₂ (fun op call => ∃ time,
      dumps ((wl.envelope op.1 op.2).body time) = .ok call.2.2.value) ops calls := by
  obtain ⟨posts', hparts, hpairs⟩ := @exists_merge _ _ _ _ Post.partition
    (Prod.fst : ℕ × CallEnv × Message → ℕ) (fun post call => post.message = call.2.2) posts calls
    fun p => forall₂_of_map_eq ((h.log p).trans (hreads p).symm)
  have hmem : ∀ post ∈ posts', post ∈ posts := by
    intro post hpost
    have hpart : post ∈ posts'.filter (·.partition = post.partition) := by simpa using hpost
    rw [hparts] at hpart
    exact List.mem_of_mem_filter hpart
  have hsequence : ∀ seq, posts'.filter (·.op.1 = seq) = posts.filter (·.op.1 = seq) := by
    -- the events of an order are in one partition
    have hone : ∀ seq, ∀ ps : List Post, (∀ post ∈ ps, post ∈ posts) →
        ps.filter (·.op.1 = seq) =
          (ps.filter (·.partition = partitioner (Workload.orderId seq))).filter (·.op.1 = seq) := by
      intro seq ps hps
      rw [List.filter_filter]
      refine List.filter_congr fun post hpost => ?_
      have hpartition := h.partition post (hps post hpost)
      by_cases hseq : post.op.1 = seq
      · simp [← hseq, hpartition]
      · simp [hseq]
    intro seq
    rw [hone seq posts' hmem, hparts, ← hone seq posts fun _ hpost => hpost]
  refine ⟨posts'.map (·.op), fun seq => ?_, ?_⟩
  · have hjobs := h.sequence seq
    rw [hsent, List.append_nil] at hjobs
    rw [List.filter_map, List.map_map]
    show (posts'.filter (·.op.1 = seq)).map (·.op.2) = wl.jobs seq
    rw [hsequence, hjobs]
  · rw [List.forall₂_map_left_iff]
    refine ((List.forall₂_and_left posts' calls).mpr ⟨hmem, hpairs⟩).imp ?_
    rintro post call ⟨hpost, -, hmessage⟩
    rw [← hmessage]
    exact h.value post hpost

end Burst

/-- The consumer does not look at when an event was received. -/
def withoutReceivedAt : Json → Json
  | .obj fields => .obj (fields.filter (·.1 ≠ "received_at"))
  | v => v

def Externals.unreceived (ext : Externals) : Externals :=
  { ext with loads := fun value => (ext.loads value).map withoutReceivedAt }

variable {ext : Externals} {wl : Workload} {msg : Message} {event event' eventId : Json}

lemma eventTxn_congr (hid : event.getItem "event_id" = event'.getItem "event_id")
    (htype : event.getItem "event_type" = event'.getItem "event_type")
    (hdata : event.getItem "data" = event'.getItem "data") (eventId : Json) :
    eventTxn event eventId = eventTxn event' eventId := by
  simp only [eventTxn, processEvent, Prog.item, hid, htype, hdata]

lemma conclude_congr (htype : event.getItem "event_type" = event'.getItem "event_type")
    (env : CallEnv) (result : Except Exn (Option Outbox)) (w : World) :
    conclude ext env event eventId result w =
      conclude ext.unreceived env event' eventId result w := by
  simp only [conclude, World.countEvent, htype]
  rfl

/-- What a call does about an event, it does about the event without the time of its reception. -/
lemma handleMessage_unreceived {envelope : WebhookEnvelope} {time : Number}
    (hloads : ext.loads msg.value = .ok (envelope.body time)) (env : CallEnv) (w : World) :
    handleMessage ext env msg w = handleMessage ext.unreceived env msg w := by
  have hdec : decodeEvent ext msg.value = .ok (envelope.body time, .str envelope.eventId) := by
    simp only [decodeEvent, hloads]
    rfl
  have hdec' : decodeEvent ext.unreceived msg.value =
      .ok (withoutReceivedAt (envelope.body time), .str envelope.eventId) := by
    simp only [decodeEvent, Externals.unreceived, hloads]
    rfl
  have htype : (envelope.body time).getItem "event_type" =
      (withoutReceivedAt (envelope.body time)).getItem "event_type" := rfl
  have htxn : eventTxn (envelope.body time) (.str envelope.eventId) =
      eventTxn (withoutReceivedAt (envelope.body time)) (.str envelope.eventId) :=
    eventTxn_congr rfl rfl rfl _
  have hattempt : ∀ attempt, runInTxn ext.sql attempt (envelope.body time) (.str envelope.eventId) =
      runInTxn ext.unreceived.sql attempt (withoutReceivedAt (envelope.body time))
        (.str envelope.eventId) := by
    intro attempt
    funext db
    simp only [runInTxn, htxn]
    rfl
  simp only [handleMessage, hdec, hdec', runAttempts, hattempt]
  exact conclude_congr htype env _ _

/-- The calls on what the receiver has published of a workload do what calls on its events do. -/
lemma handleAll_unreceived {calls : List (ℕ × CallEnv × Message)}
    (hloads : ∀ call ∈ calls, ∃ (envelope : WebhookEnvelope) (time : Number),
      ext.loads call.2.2.value = .ok (envelope.body time)) (w : World) :
    handleAll ext (calls.map Prod.snd) w = handleAll ext.unreceived (calls.map Prod.snd) w := by
  induction calls generalizing w with
  | nil => rfl
  | cons call calls ih =>
    obtain ⟨⟨envelope, time, hcall⟩, hcalls⟩ := List.forall_mem_cons.mp hloads
    rw [List.map_cons, handleAll_cons, handleAll_cons, handleMessage_unreceived hcall, ih hcalls]

lemma withoutReceivedAt_body (seq : ℕ) (step : OrderStep) (time : Number) :
    withoutReceivedAt ((wl.envelope seq step).body time) = wl.event seq step := by
  rw [wl.event_eq]
  rfl

lemma carries_unreceived {op : ℕ × OrderStep} {call : CallEnv × Message} {time : Number}
    (hflawless : call.1.Flawless)
    (hloads : ext.loads call.2.value = .ok ((wl.envelope op.1 op.2).body time)) :
    Workload.Carries ext.unreceived wl op call := by
  refine ⟨hflawless, ?_⟩
  simp only [decodeEvent, Externals.unreceived, hloads, Except.map, withoutReceivedAt_body]
  rw [wl.event_eq]
  rfl

/-- The orders and the ledger after all events of a workload. -/
lemma Workload.Handled.counts {ops : List (ℕ × OrderStep)} {w : World}
    (h : Workload.Handled ext wl ops w) (hops : wl.Interleaves ops) :
    w.db.orders.length = wl.orders ∧ (∀ o ∈ w.db.orders, o.status.text = "APPROVED") ∧
      w.db.processedEvents.length = 3 * wl.orders := by
  obtain ⟨acc, snapshots, hnodup, hmem, hs, -, -⟩ := h.accepted
  have hall : ∀ seq step, (seq, step) ∈ acc ↔ seq < wl.orders := fun seq step =>
    (hmem _).trans (hops.mem_iff seq step)
  have hlength : ∀ step, (Workload.seqs step acc).length = wl.orders := fun step => by
    simpa using (Workload.seqs_perm hnodup hall step).length_eq
  have horders : w.db.orders.map (·.externalOrderId.text) =
      (Workload.seqs .created acc).map Workload.orderId := by
    simpa [Database.shop, Order.info, Function.comp_def] using hs.orders
  refine ⟨?_, fun o ho => ?_, ?_⟩
  · simpa [hlength] using congrArg List.length horders
  · have hmem : o.externalOrderId.text ∈ w.db.orders.map (·.externalOrderId.text) :=
      List.mem_map_of_mem ho
    rw [horders] at hmem
    obtain ⟨seq, hseq, htext⟩ := List.mem_map.mp hmem
    have hstatus := hs.status _ (List.mem_map_of_mem ho) seq htext.symm
    rwa [if_pos ((hall seq .approved).mpr ((hall seq .created).mp (Workload.mem_seqs.mp hseq)))]
      at hstatus
  · have hledger := congrArg List.length hs.ledger
    simp only [Database.shop, List.length_map, Workload.length_seqs acc, hlength] at hledger
    omega

namespace Burst

variable {dumps : Json → Except PyError ByteArray} {partitioner : String → ℕ} {b : Burst}
  {c n : ℕ}

/-- A burst that is over, all of whose requests were answered with success, and whatever order the
consumer reads the partitions in, if nothing goes wrong there: the tables have what an interleaving
of the orders' sequences leaves, as many orders as were simulated, all approved, and fewer events in
the ledger than requests were sent if and only if one of them was a replay. -/
theorem burst_counted (ext : Externals)
    (hdumps : ∀ snapshot, ∃ value, ext.dumps snapshot = .ok value)
    (dumps : Json → Except PyError ByteArray) (partitioner : String → ℕ) (wl : Workload)
    (hloads : ∀ seq < wl.orders, ∀ step time value,
      dumps ((wl.envelope seq step).body time) = .ok value →
        ext.loads value = .ok ((wl.envelope seq step).body time))
    (hsql : ext.sql.ReadsWorkload wl) (hids : wl.DistinctIds) {concurrency n : ℕ} {b : Burst}
    (h : Runs dumps partitioner wl concurrency n b) (hdone : ∀ seq, b.pool.todo seq = [])
    (hok : ∀ status ∈ b.results, Success status) {calls : List (ℕ × CallEnv × Message)}
    (hreads : b.Reads calls) (hflawless : ∀ call ∈ calls, call.2.1.Flawless) :
    ∃ ops w, w = handleAll ext (calls.map Prod.snd) .start ∧ wl.Interleaves ops ∧
      Workload.Handled ext wl ops w ∧ w.db.orders.length = wl.orders ∧
      (∀ o ∈ w.db.orders, o.status.text = "APPROVED") ∧
      w.db.processedEvents.length = 3 * wl.orders ∧
      (w.db.processedEvents.length < b.results.length ↔
        ∃ seq < wl.orders, wl.replayed seq = true) := by
  have hinv := h.inv
  have hidle : ∀ seq, b.answers seq = none := by
    intro seq
    by_contra hne
    exact hinv.pool.inv.todo seq (List.mem_append_left _ (hinv.answers seq hne)) (hdone seq)
  have hsent : ∀ seq, b.unsent seq = [] := fun seq => by rw [unsent, if_pos (hidle seq), hdone]
  obtain ⟨posts, hposts⟩ := h.carried ⟨hok, fun seq answer ha => by simp [hidle seq] at ha⟩
  obtain ⟨ops, hops, hpairs⟩ := hposts.interleaves hsent hreads
  have hread : List.Forall₂ (fun op call => ∃ time,
      ext.loads call.2.2.value = .ok ((wl.envelope op.1 op.2).body time)) ops calls := by
    refine ((List.forall₂_and_left ops calls).mpr
      ⟨fun op hop => (hops.mem_iff op.1 op.2).mp hop, hpairs⟩).imp ?_
    rintro op call ⟨hop, time, hvalue⟩
    exact ⟨time, hloads op.1 hop op.2 time _ hvalue⟩
  have hreceived : ∀ call ∈ calls, ∃ (envelope : WebhookEnvelope) (time : Number),
      ext.loads call.2.2.value = .ok (envelope.body time) := by
    intro call hcall
    obtain ⟨op, -, time, hcall⟩ := exists_of_mem_right hread hcall
    exact ⟨_, time, hcall⟩
  have hcarries : List.Forall₂ (Workload.Carries ext.unreceived wl) ops (calls.map Prod.snd) := by
    rw [List.forall₂_map_right_iff]
    refine List.Forall₂.flip (((List.forall₂_and_left calls ops).mpr
      ⟨hflawless, hread.flip⟩).imp ?_)
    rintro call op ⟨hcall, time, hloads⟩
    exact carries_unreceived hcall hloads
  have hdumps' : ∀ snapshot, ∃ value, ext.unreceived.dumps snapshot = .ok value := hdumps
  have hsql' : ext.unreceived.sql.ReadsWorkload wl := hsql
  have hhandled := Workload.Handled.messages hdumps' hsql' hids hcarries (.start _ wl) hops
  rw [List.nil_append, ← handleAll_unreceived hreceived] at hhandled
  generalize handleAll ext (calls.map Prod.snd) .start = w at hhandled
  obtain ⟨horders, happroved, hledger⟩ := hhandled.counts hops
  have hresults : b.results.length = wl.requests := by simpa [hdone] using hinv.results
  refine ⟨ops, w, rfl, hops, ⟨hhandled.consistent, hhandled.accepted⟩, horders, happroved, hledger, ?_⟩
  rw [hledger, hresults, wl.requests_eq]
  simp only [Nat.lt_add_right_iff_pos, Finset.card_pos, Finset.filter_nonempty_iff, Finset.mem_range]

/-! ### Orders that wait for one another -/

/-- A request, as it is published. -/
def posted (wl : Workload) (op : ℕ × OrderStep) : Json :=
  (wl.envelope op.1 op.2).body RequestEnv.healthy.time

/-- Requests in the order in which they are published. -/
def messages (wl : Workload) (ops : List (ℕ × OrderStep)) : List Message :=
  ops.zipIdx.map fun x => ⟨x.2, (posted wl x.1).render.toUTF8⟩

/-- `orjson.dumps`, as far as the burst needs it. -/
def dumpsOnce (v : Json) : Except PyError ByteArray :=
  match v.getItem "received_at" with
  | .ok (.num time) =>
    if time = RequestEnv.healthy.time then .ok v.render.toUTF8
    else .error ⟨"Type is not JSON serializable"⟩
  | _ => .error ⟨"Type is not JSON serializable"⟩

lemma messages_concat (wl : Workload) (ops : List (ℕ × OrderStep)) (op : ℕ × OrderStep) :
    messages wl (ops ++ [op]) =
      messages wl ops ++ [⟨ops.length, (posted wl op).render.toUTF8⟩] := by
  simp [messages, List.zipIdx_append]

/-- The first of the events that are left is under the only permit, and some orders wait for it. -/
structure Turn (wl : Workload) (sent : List (ℕ × OrderStep)) (waiting : List ℕ)
    (rest : List (ℕ × OrderStep)) (b : Burst) : Prop where
  todo : ∀ seq, b.pool.todo seq = (rest.filter (·.1 = seq)).map Prod.snd
  holding : b.pool.holding = (rest.head?.map Prod.fst).toList
  waiting : b.pool.waiting = waiting
  answers : ∀ seq, b.answers seq = none
  log : ∀ p, b.log p = if p = 0 then messages wl sent else []
  results : b.results = sent.map fun _ => 202

section Turn

variable {op next : ℕ × OrderStep} {sent rest : List (ℕ × OrderStep)}

/-- The next order comes to its event while the request of another one is in flight. -/
lemma Turn.enter (h : Turn wl sent [] (op :: next :: rest) b)
    (hruns : Runs dumpsOnce (fun _ => 0) wl 1 n b) (hne : op.1 ≠ next.1) :
    ∃ b', Runs dumpsOnce (fun _ => 0) wl 1 (n + 1) b' ∧
      Turn wl sent [next.1] (op :: next :: rest) b' := by
  have hholding : b.pool.holding = [op.1] := h.holding
  have hready : b.pool.Ready next.1 := ⟨by simp [h.todo, hne],
    by simp [hholding, Ne.symm hne], by simp [h.waiting]⟩
  have hpermits : b.pool.permits = 0 := by
    have hone := hruns.inv.pool.inv.permits
    rw [hholding] at hone
    simpa using hone
  have hpool : b.pool.enter next.1 = ⟨b.pool.todo, 0, [op.1], [next.1]⟩ := by
    simp [Pool.enter, hpermits, h.waiting, hholding]
  refine ⟨_, hruns.sent (.entered hready), ?_, ?_, ?_, h.answers, h.log, h.results⟩
  · rw [hpool]
    exact h.todo
  · rw [hpool]
    rfl
  · rw [hpool]

/-- The request in flight is handled and answered, and the permit goes to the order that waits. -/
lemma Turn.serve (h : Turn wl sent (rest.head?.map Prod.fst).toList (op :: rest) b)
    (hruns : Runs dumpsOnce (fun _ => 0) wl 1 n b) :
    ∃ b', Runs dumpsOnce (fun _ => 0) wl 1 (n + 1) b' ∧ Turn wl (sent ++ [op]) [] rest b' := by
  obtain ⟨seq, step⟩ := op
  have hholding : b.pool.holding = [seq] := h.holding
  obtain ⟨answer, receiver, hserved⟩ : ∃ id receiver, Served dumpsOnce (fun _ => 0)
      (wl.envelope seq step) b.receiver b.log (.accepted id) receiver fun q =>
        if q = 0 then b.log q ++ [⟨sent.length, (posted wl (seq, step)).render.toUTF8⟩]
        else b.log q := by
    obtain ⟨key, hkey, -, heq⟩ | ⟨hnone, -⟩ := @receiveWebhook_eq dumpsOnce .healthy
      (wl.envelope seq step) b.receiver _ rfl rfl rfl
    · have hserved := @Served.published dumpsOnce (fun _ => 0) (wl.envelope seq step) b.receiver b.log
        .healthy _ sent.length (congrArg (·.2.sent) heq) fun m hm => by
          simp only [h.log, if_true, messages, List.mem_map] at hm
          obtain ⟨x, hx, rfl⟩ := hm
          simpa using (List.mem_zipIdx hx).2.1
      rw [heq] at hserved
      exact ⟨_, _, hserved⟩
    · exact absurd (fun _ _ => rfl) (hnone _ (Workload.partitionKey_envelope _ _ _))
  have hmem : seq ∈ b.pool.holding := by simp [hholding]
  have hfirst : b.pool.todo seq = step :: (rest.filter (·.1 = seq)).map Prod.snd := by
    simp [h.todo]
  have hreceived := hruns.served (.received hmem hfirst (h.answers seq) hserved)
  have hanswered := hreceived.sent (@Sends.answered _ seq (.accepted answer) hmem (by simp))
  refine ⟨_, hanswered, ?_, ?_, ?_, ?_, ?_, ?_⟩
  · intro i
    simp only [Pool.leave_todo]
    by_cases hi : i = seq
    · simp [hi, hfirst]
    · simp [Function.update_of_ne hi, h.todo, Ne.symm hi]
  · cases rest with
    | nil => simp [Pool.leave, h.waiting, hholding]
    | cons next rest => simp [Pool.leave, h.waiting, hholding]
  · cases rest with
    | nil => simp [Pool.leave, h.waiting]
    | cons next rest => simp [Pool.leave, h.waiting]
  · intro i
    by_cases hi : i = seq
    · simp [hi]
    · simp [Function.update_of_ne hi, h.answers]
  · intro p
    by_cases hp : p = 0
    · simp [hp, h.log, messages_concat]
    · simp [hp, h.log]
  · simp [h.results, Answer.status]

lemma Turn.all (hchain : rest.IsChain fun op next => op.1 ≠ next.1) (h : Turn wl sent [] rest b)
    (hruns : Runs dumpsOnce (fun _ => 0) wl 1 n b) :
    ∃ n' b', Runs dumpsOnce (fun _ => 0) wl 1 n' b' ∧ Turn wl (sent ++ rest) [] [] b' := by
  induction rest generalizing sent b n with
  | nil => exact ⟨n, b, hruns, by simpa using h⟩
  | cons op rest ih =>
    have hwaits : ∃ n₁ b₁, Runs dumpsOnce (fun _ => 0) wl 1 n₁ b₁ ∧
        Turn wl sent (rest.head?.map Prod.fst).toList (op :: rest) b₁ := by
      cases rest with
      | nil => exact ⟨n, b, hruns, h⟩
      | cons next rest =>
        obtain ⟨b₁, hruns₁, h₁⟩ := h.enter hruns (List.isChain_cons_cons.mp hchain).1
        exact ⟨_, b₁, hruns₁, h₁⟩
    obtain ⟨n₁, b₁, hruns₁, h₁⟩ := hwaits
    obtain ⟨b₂, hruns₂, h₂⟩ := h₁.serve hruns₁
    simpa using ih hchain.tail h₂ hruns₂

end Turn

/-- A burst with one permit: every order but the first waits for the request of another one. -/
lemma exists_burst {ops : List (ℕ × OrderStep)} (hops : wl.Interleaves ops)
    (hchain : ops.IsChain fun op next => op.1 ≠ next.1) :
    ∃ n b, Runs dumpsOnce (fun _ => 0) wl 1 n b ∧ Turn wl ops [] [] b := by
  have htodo : ∀ seq, wl.jobs seq = (ops.filter (·.1 = seq)).map Prod.snd := fun seq =>
    (hops seq).symm
  cases ops with
  | nil => exact ⟨0, _, .start, htodo, rfl, rfl, fun _ => rfl, fun p => by simp [start, messages], rfl⟩
  | cons op ops =>
    have hready : (start wl 1).pool.Ready op.1 := by
      refine ⟨?_, by simp [start, Pool.start], by simp [start, Pool.start]⟩
      show wl.jobs op.1 ≠ []
      simp [htodo]
    show ∃ n b, Runs dumpsOnce (fun _ => 0) wl 1 n b ∧ Turn wl ([] ++ op :: ops) [] [] b
    refine Turn.all hchain ⟨?_, rfl, rfl, fun _ => rfl, fun p => ?_, rfl⟩
      (.sent .start (.entered hready))
    · intro seq
      rw [Pool.enter_todo]
      exact htodo seq
    · simp [start, messages]

lemma Turn.stuck {sent : List (ℕ × OrderStep)} (h : Turn wl sent [] [] b) (b' : Burst) :
    ¬ Sends b b' := by
  intro hs
  cases hs with
  | entered hready => exact hready.todo (by simp [h.todo])
  | answered hholding => simp [h.holding] at hholding
  | failed hholding => simp [h.holding] at hholding

/-- After the last order it is the first one's turn again. -/
lemma isChain_rounds {orders : ℕ} (h : 1 < orders) (steps : List OrderStep) :
    (steps.flatMap fun step => (List.range orders).map fun seq => (seq, step)).IsChain
      fun op next => op.1 ≠ next.1 := by
  have hround : ∀ step : OrderStep, ((List.range orders).map fun seq => (seq, step)).IsChain
      fun op next => op.1 ≠ next.1 := by
    intro step
    rw [List.isChain_map]
    exact (List.pairwise_lt_range.imp fun hlt => Nat.ne_of_lt hlt).isChain
  have hfirst : ∀ steps : List OrderStep, ∀ op ∈ (steps.flatMap fun step =>
      (List.range orders).map fun seq => (seq, step)).head?, op.1 = 0 := by
    intro steps
    obtain ⟨k, rfl⟩ := Nat.exists_eq_succ_of_ne_zero (Nat.ne_zero_of_lt h)
    cases steps with
    | nil => simp
    | cons step steps => simp [List.range_succ_eq_map]
  induction steps with
  | nil => exact .nil
  | cons step steps ih =>
    rw [List.flatMap_cons, List.isChain_append]
    refine ⟨hround step, ih, fun op hop next hnext => ?_⟩
    have hlast : op.1 = orders - 1 := by
      simp only [List.getLast?_map, Option.mem_def, Option.map_eq_some_iff] at hop
      obtain ⟨seq, hseq, rfl⟩ := hop
      rw [List.getLast?_range, if_neg (by omega)] at hseq
      exact (Option.some.inj hseq).symm
    have hnext := hfirst steps next hnext
    omega

/-- The orders come to their events one after the other, each while the one before it is in flight. -/
theorem burst_ends_rounds : ∃ n b, Runs dumpsOnce (fun _ => 0) (.rounds 5001) 1 n b ∧
    b.pool.holding.length ≤ 1 ∧ n ≤ 2 * (Workload.rounds 5001).requests ∧
    b.results.length = (Workload.rounds 5001).requests ∧
    n = 2 * (Workload.rounds 5001).requests := by
  obtain ⟨n, b, hruns, hturn⟩ := exists_burst (Workload.rounds_interleaves 5001)
    (isChain_rounds (by decide) _)
  obtain ⟨hle, -, hn, -, hdone, -⟩ := burst_ends dumpsOnce (fun _ => 0) (.rounds 5001) hruns
  obtain ⟨-, hresults, hsteps⟩ := hdone Nat.zero_lt_one hturn.stuck
  exact ⟨n, b, hruns, hle, hn, hresults, hsteps⟩

lemma nodup_posted (hids : wl.DistinctIds) :
    ((wl.allOps.map (posted wl)).map Json.render).Nodup := by
  refine Workload.nodup_rendered hids fun op => ?_
  simp only [posted, WebhookEnvelope.body, Workload.envelope]
  exact ⟨_, rfl⟩

lemma loads_posted (hids : wl.DistinctIds) {op : ℕ × OrderStep} (hop : op.1 < wl.orders) :
    (Workload.externals (wl.allOps.map (posted wl))).loads (posted wl op).render.toUTF8 =
      .ok (posted wl op) := by
  have hmem : posted wl op ∈ wl.allOps.map (posted wl) :=
    List.mem_map_of_mem (Workload.mem_allOps.mpr hop)
  exact Workload.loads_externals (nodup_posted hids) hmem

/-- What `dumpsOnce` writes, `orjson.loads` reads. -/
lemma loads_dumpsOnce (hids : wl.DistinctIds) {op : ℕ × OrderStep} (hop : op.1 < wl.orders)
    {time : Number} {value : ByteArray}
    (h : dumpsOnce ((wl.envelope op.1 op.2).body time) = .ok value) :
    (Workload.externals (wl.allOps.map (posted wl))).loads value =
      .ok ((wl.envelope op.1 op.2).body time) := by
  have hreceived : ((wl.envelope op.1 op.2).body time).getItem "received_at" =
      .ok (.num time) := rfl
  simp only [dumpsOnce, hreceived] at h
  split_ifs at h with htime
  subst htime
  have hvalue : value = (posted wl op).render.toUTF8 := (Except.ok.inj h).symm
  rw [hvalue]
  exact loads_posted hids hop

/-- A consumer that reads what the burst has published. -/
theorem burst_counted_rounds : ∃ n b, Runs dumpsOnce (fun _ => 0) (.rounds 5001) 1 n b ∧
    ∃ ext ops w, w = handleAll ext ((messages (.rounds 5001) (Workload.roundsOps 5001)).map
        fun msg => (.healthy, msg)) .start ∧
      (Workload.rounds 5001).Interleaves ops ∧ Workload.Handled ext (.rounds 5001) ops w ∧
      w.db.orders.length = 5001 ∧ (∀ o ∈ w.db.orders, o.status.text = "APPROVED") ∧
      w.db.processedEvents.length = 3 * 5001 ∧ (w.db.processedEvents.length < b.results.length ↔
        ∃ seq < (Workload.rounds 5001).orders, (Workload.rounds 5001).replayed seq = true) := by
  have hids : (Workload.rounds 5001).DistinctIds := Workload.rounds_distinct (by decide)
  obtain ⟨n, b, hruns, hturn⟩ := exists_burst (Workload.rounds_interleaves 5001)
    (isChain_rounds (by decide) _)
  obtain ⟨calls, hcalls⟩ : ∃ calls : List (ℕ × CallEnv × Message), calls =
      (messages (.rounds 5001) (Workload.roundsOps 5001)).map fun msg => (0, .healthy, msg) :=
    ⟨_, rfl⟩
  have hreads : b.Reads calls := by
    intro p
    rw [hturn.log, hcalls, List.filter_map, List.map_map]
    by_cases hp : p = 0
    · simp [hp, Function.comp_def]
    · simp [hp, Ne.symm hp, Function.comp_def]
  have hflawless : ∀ call ∈ calls, call.2.1.Flawless := by
    rw [hcalls]
    intro call hcall
    obtain ⟨msg, -, rfl⟩ := List.mem_map.mp hcall
    exact flawless_healthy
  obtain ⟨ops, w, hw, hrest⟩ := burst_counted
    (Workload.externals ((Workload.rounds 5001).allOps.map (posted (.rounds 5001))))
    (fun _ => ⟨_, rfl⟩) dumpsOnce (fun _ => 0) (.rounds 5001)
    (fun seq hseq step time value hvalue => @loads_dumpsOnce _ hids (seq, step) hseq _ _ hvalue)
    (Workload.rounds_reads 5001) hids hruns (fun seq => by simp [hturn.todo])
    (by simp [hturn.results, Success]) hreads hflawless
  refine ⟨n, b, hruns, _, ops, w, ?_, hrest⟩
  rw [hw, hcalls, List.map_map]
  rfl

end Burst

end EventPipeline

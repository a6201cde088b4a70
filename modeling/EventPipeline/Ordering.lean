import EventPipeline.Loop
import EventPipeline.Webhook
import Mathlib.Data.List.Sort

/-!
# Events of one order, in order

All events that name one order lie in one partition, in the order of their publication. They
take effect in that order (`order_kept`), if no call gives one of them up for the errors of its
environment alone, and none that was refused is accepted when it is handled again.
-/

namespace EventPipeline

open Transaction Reader

variable {ext : Externals} {event eventId : Json} {msg : Message} {env : CallEnv} {w : World}
  {l l' : Loop} {p : ℕ} {o : String}

/-! ### Calls that change the tables -/

/-- A call that changes the tables has committed its event, on the tables it met. -/
lemma handleMessage_changed (h : (handleMessage ext env msg w).2.db ≠ w.db) :
    ∃ event eventId, decodeEvent ext msg.value = .ok (event, eventId) ∧
      InLedger ext.sql eventId (handleMessage ext env msg w).2.db ∧
      ∃ (tick : ℕ → Tick) (r : Option Outbox × ℕ × Database),
        (eventTxn event eventId).run ext.sql.engine (fun i => .ok (tick i)) 0 w.db = .ok r := by
  cases hdec : decodeEvent ext msg.value with
  | error e =>
    refine absurd ?_ h
    simp [handleMessage, hdec, World.malformed, World.log, World.count]
  | ok decoded =>
    obtain ⟨event, eventId⟩ := decoded
    have hid := decodeEvent_eventId hdec
    rw [handleMessage_db hdec] at h ⊢
    refine ⟨event, eventId, rfl, ?_⟩
    suffices hdb : (runAttempts ext.sql env.attempts event eventId w.db).2 = w.db ∨
        (InLedger ext.sql eventId (runAttempts ext.sql env.attempts event eventId w.db).2 ∧
          ∃ (tick : ℕ → Tick) (r : Option Outbox × ℕ × Database),
            (eventTxn event eventId).run ext.sql.engine (fun i => .ok (tick i)) 0 w.db = .ok r) from
      hdb.resolve_left h
    refine retry_preserves (I := fun db => db = w.db ∨ (InLedger ext.sql eventId db ∧
      ∃ (tick : ℕ → Tick) (r : Option Outbox × ℕ × Database),
        (eventTxn event eventId).run ext.sql.engine (fun i => .ok (tick i)) 0 w.db = .ok r))
      ?_ 2 0 w.db (.inl rfl)
    rintro i db (rfl | ⟨hledger, hrun⟩)
    · refine (runInTxn_run ext.sql (env.attempts i) event eventId w.db).imp id ?_
      rintro ⟨outbox, n, hrun⟩
      refine ⟨inLedger_of_runs hid (.of_run hrun), fun i' =>
        ((env.attempts i).statement i').toOption.getD ⟨0, 0⟩, 
          (outbox, n, (runInTxn ext.sql (env.attempts i) event eventId w.db).2), ?_⟩
      refine (raises_eventTxn event eventId).run_eq_ok (fun i' t ht => ?_) hrun
      simp [ht, Except.toOption]
    · exact .inr ⟨hledger.runInTxn hid _, hrun⟩

/-! ### Settled events -/

/-- What the calls made so far have met is consistent, and earlier than the state at hand. -/
lemma Loop.Reachable.met_later {routed : ℕ → Message → Prop}
    {attended : CallEnv → Message → Database → Prop} {repeatable : Loop → ℕ → Message → Prop}
    (h : Loop.Reachable ext routed attended repeatable l) {c : ℕ × Message × Progress}
    (hc : c ∈ l.met) : Consistent ext.sql c.2.2.world.db ∧
      Later ext.sql c.2.2.world.db l.state.world.db := by
  induction h with
  | start => cases hc
  | @step l l' hl hs ih =>
    have hconsistent := Loop.Reachable.consistent hl
    have hlater := (Loop.Step.later hs hconsistent).2
    suffices hmet : c ∈ l.met ∨ c.2.2 = l.state by
      rcases hmet with hmet | hstate
      · exact ⟨(ih hmet).1, (ih hmet).2.trans hlater⟩
      · rw [hstate]
        exact ⟨hconsistent, hlater⟩
    cases hs with
    | returned =>
      refine (List.mem_append.mp hc).imp id fun hmem => ?_
      rw [List.mem_singleton.mp hmem]
    | broken =>
      refine (List.mem_append.mp hc).imp id fun hmem => ?_
      rw [List.mem_singleton.mp hmem]
    | published => exact .inl hc
    | fetched => exact .inl hc
    | committed => exact .inl hc
    | stopped => exact .inl hc

/-- If the message was handled before, its event is in the ledger now, or no insert that
refused it then would accept it now. -/
def Repeatable (ext : Externals) (l : Loop) (p : ℕ) (msg : Message) : Prop :=
  ∀ s, (p, msg, s) ∈ l.met → ∀ event eventId, decodeEvent ext msg.value = .ok (event, eventId) →
    InLedger ext.sql eventId l.state.world.db ∨ (PlainEvent event ∧
      ¬ Shop.Fragile ext.sql event s.world.db.shop l.state.world.db.shop)

/-- A settled message changes nothing when it is handled again. -/
lemma Settled.unchanged (h : Settled ext l p msg) (hr : Repeatable ext l p msg)
    (hc : Consistent ext.sql l.state.world.db)
    (hmet : ∀ c ∈ l.met, Consistent ext.sql c.2.2.world.db ∧
      Later ext.sql c.2.2.world.db l.state.world.db) (env : CallEnv) :
    (handleMessage ext env msg l.state.world).2.db = l.state.world.db := by
  by_contra hchanged
  obtain ⟨event, eventId, hdec, -, tick, r, hrun⟩ := handleMessage_changed hchanged
  have hid := decodeEvent_eventId hdec
  have hfresh : ¬ InLedger ext.sql eventId l.state.world.db := fun hledger =>
    hledger.not_runs hid (.of_run hrun)
  rcases h with ⟨e, herror⟩ | ⟨event', eventId', hdec', hledger | ⟨s, hs, tick', x, hrefused⟩⟩
  · rw [hdec] at herror
    cases herror
  · rw [hdec] at hdec'
    cases hdec'
    exact hfresh hledger
  · rw [hdec] at hdec'
    cases hdec'
    obtain ⟨hplain, hfragile⟩ := (hr s hs event eventId hdec).resolve_left hfresh
    obtain ⟨hcs, hlater⟩ := hmet _ hs
    obtain ⟨t, ht, -⟩ := (@agree_eventTxn ext.sql _ tick 0 hc event eventId hplain).of_ok hrun
    obtain ⟨t₀, ht₀⟩ := Shop.event_later (hlater.shop hcs) hlater.shop_ledger ht hfragile
    -- the event was accepted by the tables that refused it
    obtain ⟨r₀, hr₀, -⟩ :=
      (@agree_eventTxn ext.sql _ tick' 0 hcs event eventId hplain).of_some ht₀
    rw [hrefused] at hr₀
    cases hr₀

/-! ### Effects of one order -/

/-- The events of `o` that took effect so far, with what was published before them. -/
structure InOrder (ext : Externals) (o : String) (q : ℕ) (l : Loop) : Prop where
  published : ∀ e ∈ l.state.effects, e.2.names ext o = true → e.1 = q ∧ e.2 ∈ l.log q
  ledger : ∀ e ∈ l.state.effects, ∃ event eventId,
    decodeEvent ext e.2.value = .ok (event, eventId) ∧ InLedger ext.sql eventId l.state.world.db
  settled : ∀ e ∈ l.state.effects, e.2.names ext o = true →
    ∀ m ∈ l.log q, m.names ext o = true → m.offset < e.2.offset → Settled ext l q m
  sorted : (l.state.effects.filter fun e => e.2.names ext o).Pairwise fun e e' =>
    e.2.offset < e'.2.offset

namespace InOrder

variable {q : ℕ} {routed : ℕ → Message → Prop}
  {attended : CallEnv → Message → Database → Prop} {repeatable : Loop → ℕ → Message → Prop}

lemma start (ext : Externals) (o : String) (q : ℕ) : InOrder ext o q (Reader.start .start) where
  published := by simp [Reader.start, Progress.start]
  ledger := by simp [Reader.start, Progress.start]
  settled := by simp [Reader.start, Progress.start]
  sorted := .nil

/-- What holds of earlier effects goes on to hold. -/
lemma keep (h : InOrder ext o q l) (hs : Loop.Step ext routed attended repeatable l l')
    (hc : Consistent ext.sql l.state.world.db) {e : ℕ × Message} (he : e ∈ l.state.effects) :
    (∃ event eventId, decodeEvent ext e.2.value = .ok (event, eventId) ∧
      InLedger ext.sql eventId l'.state.world.db) ∧
    (e.2.names ext o = true → (e.1 = q ∧ e.2 ∈ l'.log q) ∧
      ∀ m ∈ l'.log q, m.names ext o = true → m.offset < e.2.offset → Settled ext l' q m) := by
  obtain ⟨event, eventId, hdec, hledger⟩ := h.ledger e he
  refine ⟨⟨event, eventId, hdec, hledger.later (hs.later hc).2⟩, fun hnames => ?_⟩
  obtain ⟨hq, hmem⟩ := h.published e he hnames
  rcases hs.log_cases q with hlog | ⟨m₀, habove, hlog⟩
  all_goals rw [hlog]
  · exact ⟨⟨hq, hmem⟩, fun m hm hmnames hlt =>
      (h.settled e he hnames m hm hmnames hlt).step hc hs⟩
  · refine ⟨⟨hq, List.mem_append_left _ hmem⟩, fun m hm hmnames hlt => ?_⟩
    rcases List.mem_append.mp hm with hm | hm
    · exact (h.settled e he hnames m hm hmnames hlt).step hc hs
    · -- published after the event took effect
      rw [List.mem_singleton.mp hm] at hlt
      have := habove e.2 hmem
      omega

/-- A step without effects. -/
lemma of_effects_eq (h : InOrder ext o q l) (hs : Loop.Step ext routed attended repeatable l l')
    (hc : Consistent ext.sql l.state.world.db) (heq : l'.state.effects = l.state.effects) :
    InOrder ext o q l' := by
  refine ⟨?_, ?_, ?_, ?_⟩
  all_goals rw [heq]
  · exact fun e he hnames => ((h.keep hs hc he).2 hnames).1
  · exact fun e he => (h.keep hs hc he).1
  · exact fun e he hnames => ((h.keep hs hc he).2 hnames).2
  · exact h.sorted

/-- A step in which the event of the message `msg` takes effect. -/
lemma of_effect (h : InOrder ext o q l) (hl : Loop.Reachable ext routed attended repeatable l)
    (hs : Loop.Step ext routed attended repeatable l l') {messages todo : List Message}
    {rest : List (Batch Message)} (hb : l.batches = ⟨p, messages, msg :: todo⟩ :: rest)
    (hrouted : ∀ p msg, routed p msg → msg.names ext o = true → p = q)
    (ha : ∀ env msg db, msg.names ext o = true → attended env msg db → Attended ext env msg db)
    (hr : msg.names ext o = true → Repeatable ext l p msg)
    (hstate : l'.state = l.state.handle ext env p msg)
    (hchanged : (handleMessage ext env msg l.state.world).2.db ≠ l.state.world.db) :
    InOrder ext o q l' := by
  have hc := Loop.Reachable.consistent hl
  have hmem : msg ∈ l.log p := hl.inv.mem_log hb
  have hq : msg.names ext o = true → p = q := hrouted p msg (hl.routed_of_mem hmem)
  obtain ⟨event, eventId, hdec, hledger, tick, r, hrun⟩ := handleMessage_changed hchanged
  have hfresh : ¬ InLedger ext.sql eventId l.state.world.db := fun hledger =>
    hledger.not_runs (decodeEvent_eventId hdec) (.of_run hrun)
  have hworld : l'.state.world = (handleMessage ext env msg l.state.world).2 := by
    rw [hstate]
    rfl
  have heffects : l'.state.effects = l.state.effects ++ [(p, msg)] := by
    rw [hstate]
    exact if_neg hchanged
  -- a message behind one that took effect is not handled again to any effect
  have habove : msg.names ext o = true → ∀ e ∈ l.state.effects, e.2.names ext o = true →
      e.2.offset < msg.offset := by
    intro hnames e he henames
    obtain rfl := hq hnames
    obtain ⟨-, hemem⟩ := h.published e he henames
    by_contra hle
    rcases Nat.lt_or_eq_of_le (Nat.le_of_not_lt hle) with hlt | heq
    · exact hchanged ((h.settled e he henames msg hmem hnames hlt).unchanged (hr hnames) hc
        (fun c => Loop.Reachable.met_later hl) env)
    · obtain rfl := hl.inv.eq_of_offset_eq hmem hemem heq
      obtain ⟨event', eventId', hdec', hledger'⟩ := h.ledger e he
      rw [hdec] at hdec'
      cases hdec'
      exact hfresh hledger'
  have hold : ∀ m ∈ l'.log q, msg ∈ l.log q → m.offset < msg.offset → m ∈ l.log q := by
    intro m hm hmsg hlt
    rcases hs.log_cases q with hlog | ⟨m₀, hm₀, hlog⟩
    · exact hlog ▸ hm
    · rw [hlog] at hm
      refine (List.mem_append.mp hm).resolve_right fun hm => ?_
      rw [List.mem_singleton.mp hm] at hlt
      have := hm₀ msg hmsg
      omega
  refine ⟨?_, ?_, ?_, ?_⟩
  all_goals rw [heffects]
  · intro e he hnames
    rcases List.mem_append.mp he with he | he
    · exact ((h.keep hs hc he).2 hnames).1
    · obtain rfl := List.mem_singleton.mp he
      obtain rfl := hq hnames
      rcases hs.log_cases p with hlog | ⟨m₀, -, hlog⟩
      · exact ⟨rfl, hlog ▸ hmem⟩
      · exact ⟨rfl, hlog ▸ List.mem_append_left _ hmem⟩
  · intro e he
    rcases List.mem_append.mp he with he | he
    · exact (h.keep hs hc he).1
    · obtain rfl := List.mem_singleton.mp he
      exact ⟨event, eventId, hdec, hworld ▸ hledger⟩
  · intro e he hnames m hm hmnames hlt
    rcases List.mem_append.mp he with he | he
    · exact ((h.keep hs hc he).2 hnames).2 m hm hmnames hlt
    · obtain rfl := List.mem_singleton.mp he
      obtain rfl := hq hnames
      have hbehind := hl.inv.behind hb (hold m hm hmem hlt) hlt
      exact (hl.settled (Q := fun m => m.names ext o = true) ha hbehind hmnames).step hc hs
  · rw [List.filter_append]
    refine List.pairwise_append.mpr ⟨h.sorted, ?_, fun e he e' he' => ?_⟩
    · exact (List.pairwise_singleton _ _).filter _
    · obtain ⟨he, hnames⟩ := List.mem_filter.mp he
      obtain ⟨he', hnames'⟩ := List.mem_filter.mp he'
      obtain rfl := List.mem_singleton.mp he'
      exact habove hnames' e he hnames

end InOrder

/-- The events of one order take effect in the order of their publication: whatever the batches,
the crashes and the errors of the database, if every call on a message of the order that returned
was attended, and every call on it was repeatable. -/
theorem order_kept (ext : Externals) (dumps : Json → Except PyError ByteArray)
    (partitioner : String → ℕ) (ho : o ≠ "")
    (h : Loop.Reachable ext (Published ext dumps partitioner)
      (fun env msg db => msg.names ext o = true → Attended ext env msg db)
      (fun l p msg => msg.names ext o = true → Repeatable ext l p msg) l) :
    ((l.state.effects.filter fun e => e.2.names ext o).map Prod.snd).Sublist
      (l.log (partitioner o)) := by
  have hinOrder : InOrder ext o (partitioner o) l := by
    induction h with
    | start => exact .start ext o _
    | @step l l' hl hs ih =>
      have hc := Loop.Reachable.consistent hl
      rcases Loop.Step.state_cases hs with heq | ⟨p, msg, messages, todo, rest, env, hb, hr, heq⟩
      · exact ih.of_effects_eq hs hc (by rw [heq])
      · by_cases hdb : (handleMessage ext env msg l.state.world).2.db = l.state.world.db
        · refine ih.of_effects_eq hs hc ?_
          rw [heq]
          exact if_pos hdb
        · exact ih.of_effect hl hs hb (fun p msg hpublished hnames =>
            hpublished.partition_eq hnames ho) (fun env msg db hnames ha => ha hnames) hr heq hdb
  -- both lists are sorted by offset
  have hsorted : ((l.state.effects.filter fun e => e.2.names ext o).map Prod.snd).Pairwise
      fun m m' => m.offset < m'.offset := List.pairwise_map.mpr hinOrder.sorted
  have hirrefl : Std.Irrefl fun m m' : Message => m.offset < m'.offset :=
    ⟨fun m => Nat.lt_irrefl m.offset⟩
  have hasymm : Std.Asymm fun m m' : Message => m.offset < m'.offset :=
    ⟨fun m m' => Nat.lt_asymm⟩
  refine List.sublist_of_subperm_of_pairwise (List.subperm_of_subset hsorted.nodup fun m hm => ?_)
    hsorted (h.inv.sorted _)
  obtain ⟨e, he, rfl⟩ := List.mem_map.mp hm
  obtain ⟨he, hnames⟩ := List.mem_filter.mp he
  exact (hinOrder.published e he hnames).2

/-! ### Two messages -/

/-- The text of an event as the receiver publishes it, with `data` as JSON text. -/
def publishedText (eventId eventType data : String) : String :=
  "\x7b\"event_id\":\"" ++ eventId ++ "\",\"event_type\":\"" ++ eventType ++
  "\",\"occurred_at\":\"2024-05-01T12:00:00\",\"received_at\":1714564800.5,\"data\":" ++
  data ++ "\x7d"

def createdText : String :=
  publishedText "e1" "ORDER_CREATED" <|
    "\x7b\"external_order_id\":\"o1\",\"total_amount\":10,\"client\":\x7b" ++
    "\"external_client_id\":\"c1\",\"name\":\"Ana\",\"email\":\"a@b\"," ++
    "\"document\":\"1\"\x7d,\"address\":\x7b\"external_address_id\":\"a1\"," ++
    "\"street\":\"Rua A\",\"number\":\"1\",\"neighborhood\":\"Centro\"," ++
    "\"city\":\"Recife\",\"state\":\"PE\",\"postal_code\":\"50000\"," ++
    "\"country\":\"BR\"\x7d\x7d"

def paidText : String :=
  publishedText "e2" "PAYMENT_CONFIRMED" <|
    "\x7b\"external_order_id\":\"o1\",\"external_payment_id\":\"p1\"," ++
    "\"method\":\"pix\",\"amount\":10\x7d"

lemma length_createdEnvelope : 1 ≤ "e1".length ∧ "e1".length ≤ 100 := by decide

/-- An order, as it is posted to the receiver. -/
def createdEnvelope : WebhookEnvelope where
  eventId := "e1"
  eventType := .orderCreated
  occurredAt := "2024-05-01T12:00:00"
  data := [("external_order_id", .str "o1"), ("total_amount", .int 10),
    ("client", .obj [("external_client_id", .str "c1"), ("name", .str "Ana"),
      ("email", .str "a@b"), ("document", .str "1")]),
    ("address", .obj [("external_address_id", .str "a1"), ("street", .str "Rua A"),
      ("number", .str "1"), ("neighborhood", .str "Centro"), ("city", .str "Recife"),
      ("state", .str "PE"), ("postal_code", .str "50000"), ("country", .str "BR")])]
  length_eventId := length_createdEnvelope

/-- Its payment. -/
def paidEnvelope : WebhookEnvelope where
  eventId := "e2"
  eventType := .paymentConfirmed
  occurredAt := "2024-05-01T12:00:00"
  data := [("external_order_id", .str "o1"), ("external_payment_id", .str "p1"),
    ("method", .str "pix"), ("amount", .int 10)]
  length_eventId := by decide

def requestEnv : RequestEnv :=
  ⟨true, ⟨17145648005, 1⟩, fun _ _ => true, none⟩

def createdEvent : Json :=
  createdEnvelope.body requestEnv.time

def paidEvent : Json :=
  paidEnvelope.body requestEnv.time

/-- `orjson.dumps` on the two events. -/
def dumpsPublished (v : Json) : Except PyError ByteArray := do
  let eventId ← v.getItem "event_id"
  if eventId.isText "e1" then .ok createdText.toUTF8
  else if eventId.isText "e2" then .ok paidText.toUTF8
  else .error ⟨"Type is not JSON serializable"⟩

def publishedExternals : Externals :=
  .reading [(createdText, createdEvent), (paidText, paidEvent)]

def createdMessage : Message :=
  ⟨0, createdText.toUTF8⟩

def paidMessage : Message :=
  ⟨1, paidText.toUTF8⟩

lemma decodeEvent_created :
    decodeEvent publishedExternals createdMessage.value = .ok (createdEvent, .str "e1") :=
  decodeEvent_reading lookup_head rfl

lemma decodeEvent_paid :
    decodeEvent publishedExternals paidMessage.value = .ok (paidEvent, .str "e2") :=
  decodeEvent_reading ((lookup_tail (by decide)).trans lookup_head) rfl

lemma published_created :
    Published publishedExternals dumpsPublished (fun _ => 0) 0 createdMessage :=
  ⟨requestEnv, createdEnvelope, ⟨"o1", createdText.toUTF8, true⟩, List.mem_singleton_self _,
    rfl, rfl, loads_of_decodeEvent decodeEvent_created⟩

lemma published_paid : Published publishedExternals dumpsPublished (fun _ => 0) 0 paidMessage :=
  ⟨requestEnv, paidEnvelope, ⟨"o1", paidText.toUTF8, true⟩, List.mem_singleton_self _,
    rfl, rfl, loads_of_decodeEvent decodeEvent_paid⟩

lemma names_created : createdMessage.names publishedExternals "o1" = true :=
  Message.names_iff.mpr ⟨_, _, _, decodeEvent_created, rfl, rfl⟩

lemma names_paid : paidMessage.names publishedExternals "o1" = true :=
  Message.names_iff.mpr ⟨_, _, _, decodeEvent_paid, rfl, rfl⟩

section Two

variable {routed : ℕ → Message → Prop} {attended : CallEnv → Message → Database → Prop}
  {repeatable : Loop → ℕ → Message → Prop} {a b : Message}

/-- A batch of two messages. -/
lemma reachable_two (ha : a.offset = 0) (hb : b.offset = 1) (hra : routed 0 a)
    (hrb : routed 0 b) : ∃ l : Loop, Loop.Reachable ext routed attended repeatable l ∧
      l.log 0 = [a, b] ∧ l.committed 0 = 0 ∧ l.state = .start ∧ l.met = [] ∧
      l.batches = [⟨0, [a, b], [a, b]⟩] := by
  obtain ⟨l, hl⟩ : ∃ l : Loop, l = ((Reader.start .start).publish 0 a).publish 0 b := ⟨_, rfl⟩
  have hlog : l.log 0 = [a, b] := by rw [hl]; rfl
  have hr : Loop.Reachable ext routed attended repeatable l := by
    rw [hl]
    refine .step (.step .start (.published hra (by simp [Reader.start]))) (.published hrb ?_)
    simp [Reader.publish, Reader.start, ha, hb]
  have hfetched := @fetched_all l 0 (by simp [hlog]) (by rw [hl]; rfl)
  rw [hlog] at hfetched
  refine ⟨_, .step hr (.fetched (by rw [hl]; rfl) hfetched), hlog, ?_, ?_, ?_, rfl⟩
  all_goals rw [hl]; rfl

/-- Both are handled, one after the other. -/
lemma reachable_in_turn {env env' : CallEnv} (ha : a.offset = 0) (hb : b.offset = 1)
    (hra : routed 0 a) (hrb : routed 0 b)
    (hattended : ∀ db, attended env a db) (hattended' : ∀ db, attended env' b db)
    (hrepeatable : ∀ (l : Loop) msg, (∀ s, (0, msg, s) ∉ l.met) → repeatable l 0 msg)
    (hreturns : ∀ w, (handleMessage ext env a w).1 = .ok ())
    (hreturns' : ∀ w, (handleMessage ext env' b w).1 = .ok ()) :
    ∃ l : Loop, Loop.Reachable ext routed attended repeatable l ∧ l.log 0 = [a, b] ∧
      l.committed 0 = 0 ∧ l.state = (Progress.start.handle ext env 0 a).handle ext env' 0 b := by
  obtain ⟨l, hl, hlog, hcommitted, hstate, hmet, hbatches⟩ :=
    @reachable_two ext routed attended repeatable a b ha hb hra hrb
  have hab : b ≠ a := by
    rintro rfl
    omega
  have hfirst : Returns ext attended l 0 a (Progress.start.handle ext env 0 a) :=
    ⟨env, hattended _, hreturns _, by rw [hstate]⟩
  have hl₁ := hl.step (.returned hbatches ⟨hrepeatable l a (by simp [hmet]), hfirst⟩)
  have hl₂ := hl₁.step (.returned rfl ⟨hrepeatable _ b ?_, env', hattended' _, hreturns' _, rfl⟩)
  · exact ⟨_, hl₂, hlog, hcommitted, rfl⟩
  · simp [Reader.call, hmet, hab]

/-- Both are handled, the consumer stops, and the first is handled again. -/
lemma reachable_again {env env' env'' : CallEnv} (ha : a.offset = 0) (hb : b.offset = 1)
    (hra : routed 0 a) (hrb : routed 0 b)
    (hreturns : ∀ env w, (handleMessage ext env a w).1 = .ok ())
    (hreturns' : ∀ w, (handleMessage ext env' b w).1 = .ok ()) :
    ∃ l : Loop, Loop.Reachable ext routed (fun _ _ _ => True) (fun _ _ _ => True) l ∧
      l.log 0 = [a, b] ∧
      l.state = ((Progress.start.handle ext env 0 a).handle ext env' 0 b).handle ext env'' 0 a := by
  obtain ⟨l, hl, hlog, hcommitted, hstate⟩ :=
    @reachable_in_turn ext routed (fun _ _ _ => True) (fun _ _ _ => True) a b env env' ha hb hra hrb
      (fun _ => trivial) (fun _ => trivial) (fun _ _ _ => trivial) (hreturns env) hreturns'
  have hstopped := hl.step .stopped
  have hfetched := @fetched_all l.restart 0 (by simp [Reader.restart, hlog]) hcommitted
  have hreturned : Returns ext (fun _ _ _ => True)
      (l.restart.fetch Message.offset [⟨0, [a, b], [a, b]⟩]) 0 a (l.state.handle ext env'' 0 a) :=
    ⟨env'', trivial, hreturns _ _, rfl⟩
  rw [show l.restart.log 0 = [a, b] from hlog] at hfetched
  exact ⟨_, (hstopped.step (.fetched rfl hfetched)).step (.returned rfl ⟨trivial, hreturned⟩), hlog,
    by rw [← hstate]; rfl⟩

end Two

lemma Progress.handle_db (s : Progress) (hdec : decodeEvent ext msg.value = .ok (event, eventId)) :
    (s.handle ext env p msg).world.db =
      (runAttempts ext.sql env.attempts event eventId s.world.db).2 := by
  rw [Progress.handle_world, handleMessage_db hdec]

/-- A call that adds to the ledger. -/
lemma Progress.handle_commits {s : Progress} {db : Database}
    (hdec : decodeEvent ext msg.value = .ok (event, eventId)) (hdb : s.world.db = db)
    (h : (runAttempts ext.sql env.attempts event eventId db).2.processedEvents.length ≠
      db.processedEvents.length) :
    (s.handle ext env p msg).effects = s.effects ++ [(p, msg)] := by
  rw [Progress.handle_effects, handleMessage_db hdec, hdb]
  refine if_neg fun heq => h ?_
  rw [heq]

/-- What the attempts of a call leave of the tables. -/
def attempted (env : CallEnv) (event : Json) (eventId : String) (db : Database) : Database :=
  (runAttempts .plain env.attempts event (.str eventId) db).2

/-- An order and its payment, handled while nothing goes wrong. -/
theorem order_kept_in_turn :
    ∃ l : Loop, l.state.effects = [(0, createdMessage), (0, paidMessage)] ∧
      ((l.state.effects.filter fun e => e.2.names publishedExternals "o1").map Prod.snd).Sublist
        (l.log 0) := by
  obtain ⟨l, hl, -, -, hstate⟩ := @reachable_in_turn publishedExternals
    (Published publishedExternals dumpsPublished fun _ => 0)
    (fun env msg db => msg.names publishedExternals "o1" = true →
      Attended publishedExternals env msg db)
    (fun l p msg => msg.names publishedExternals "o1" = true → Repeatable publishedExternals l p msg)
    createdMessage paidMessage .healthy .healthy rfl rfl published_created published_paid
    (fun db _ => attended_healthy _ _ _) (fun db _ => attended_healthy _ _ _)
    (fun l msg hmet _ s hs => absurd hs (hmet s))
    (handleMessage_typed decodeEvent_created rfl _) (handleMessage_typed decodeEvent_paid rfl _)
  refine ⟨l, ?_, order_kept publishedExternals dumpsPublished (fun _ => 0) (by decide) hl⟩
  obtain ⟨s₁, hs₁⟩ : ∃ s, s = Progress.start.handle publishedExternals .healthy 0 createdMessage :=
    ⟨_, rfl⟩
  have hdb₁ : s₁.world.db = attempted .healthy createdEvent "e1" .empty :=
    hs₁ ▸ Progress.handle_db .start decodeEvent_created
  have heffects₁ : s₁.effects = [(0, createdMessage)] := by
    rw [hs₁]
    exact Progress.handle_commits decodeEvent_created rfl (by decide)
  have heffects₂ := @Progress.handle_commits publishedExternals _ _ paidMessage .healthy 0 s₁ _
    decodeEvent_paid hdb₁ (by decide)
  rw [hstate, ← hs₁, heffects₂, heffects₁]
  rfl

/-- The order is given up while no connection can be opened, and its payment dropped as one of an
unknown order. The consumer stops before the offset is committed, and the order is created. -/
theorem order_overtaken :
    ¬ ∀ (ext : Externals) (dumps : Json → Except PyError ByteArray) (partitioner : String → ℕ)
      (o : String), o ≠ "" → ∀ l : Loop, Loop.Reachable ext (Published ext dumps partitioner)
        (fun _ _ _ => True) (fun _ _ _ => True) l →
      ((l.state.effects.filter fun e => e.2.names ext o).map Prod.snd).Sublist
        (l.log (partitioner o)) := by
  intro h
  obtain ⟨l, hl, hlog, hstate⟩ := @reachable_again publishedExternals
    (Published publishedExternals dumpsPublished fun _ => 0) createdMessage paidMessage .refused
    .healthy .healthy rfl rfl published_created published_paid
    (handleMessage_typed decodeEvent_created rfl) (handleMessage_typed decodeEvent_paid rfl _)
  obtain ⟨s₁, hs₁⟩ : ∃ s, s = Progress.start.handle publishedExternals .refused 0 createdMessage :=
    ⟨_, rfl⟩
  obtain ⟨s₂, hs₂⟩ : ∃ s, s = s₁.handle publishedExternals .healthy 0 paidMessage := ⟨_, rfl⟩
  have hempty : attempted .refused createdEvent "e1" .empty = .empty := by decide
  have hdb₁ : s₁.world.db = .empty := by
    rw [← hempty, hs₁]
    exact Progress.handle_db .start decodeEvent_created
  have hdb₂ : s₂.world.db = attempted .healthy paidEvent "e2" .empty := by
    rw [← hdb₁, hs₂]
    exact Progress.handle_db s₁ decodeEvent_paid
  have heffects₁ : s₁.effects = [] := by
    rw [hs₁, Progress.handle_effects, handleMessage_db decodeEvent_created]
    exact if_pos hempty
  have heffects₂ : s₂.effects = [(0, paidMessage)] := by
    rw [hs₂, @Progress.handle_commits publishedExternals _ _ paidMessage .healthy 0 s₁ _
      decodeEvent_paid hdb₁ (by decide), heffects₁]
    rfl
  have heffects₃ := @Progress.handle_commits publishedExternals _ _ createdMessage .healthy 0 s₂ _
    decodeEvent_created hdb₂ (by decide)
  have hsublist := h publishedExternals dumpsPublished (fun _ => 0) "o1" (by decide) l hl
  rw [hstate, ← hs₁, ← hs₂, heffects₃, heffects₂, hlog] at hsublist
  have heq : [paidMessage, createdMessage] = [createdMessage, paidMessage] := by
    refine List.Sublist.eq_of_length ?_ rfl
    simpa [names_created, names_paid] using hsublist
  have hoffset := congrArg (List.map Message.offset) heq
  cases hoffset

end EventPipeline

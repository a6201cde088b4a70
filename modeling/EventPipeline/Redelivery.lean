import EventPipeline.Refusals

/-!
# Messages handled twice

A consumer that stops before it commits its offset handles its messages again. An accepted
event is found in the ledger, and a refused one is refused again, unless an insert refused it
at first and finds a row to update or reuse now. Where no redelivered event is of that kind,
the crash leaves no trace (`redelivery_transparent`).
-/

namespace EventPipeline

open Transaction

variable {ext : Externals} {sql : SqlServer} {db : Database} {event eventId : Json}
  {msg : Message} {env : CallEnv} {w : World}

/-- Nothing goes wrong in an attempt: the connection opens, every statement is executed and
the COMMIT is acknowledged. -/
structure Attempt.Undisturbed (env : Attempt) : Prop where
  begin_eq : env.begin = none
  executed : ∀ n, ∃ t, env.statement n = .ok t
  commit_eq : env.commit = .acknowledged

def CallEnv.Undisturbed (env : CallEnv) : Prop :=
  ∀ i, (env.attempts i).Undisturbed

/-- The event of a message has no item with a key `order_id` of its own. -/
def Message.Plain (ext : Externals) (msg : Message) : Prop :=
  ∀ event eventId, decodeEvent ext msg.value = .ok (event, eventId) → PlainEvent event

/-- What a message does to the shop. -/
def Shop.deliver (ext : Externals) (s : Shop) (msg : Message) : Shop :=
  match decodeEvent ext msg.value with
  | .error _ => s
  | .ok (event, eventId) => (Shop.event ext.sql event eventId s).getD s

/-! ### One message -/

/-- The transaction of an event where nothing goes wrong. -/
lemma Attempt.Undisturbed.run {env : Attempt} (hu : env.Undisturbed) (hc : Consistent sql db)
    (eventId : Json) (hplain : PlainEvent event) :
    Agree (Ends fun _ db' s => db'.shop = s)
      ((eventTxn event eventId).run sql.engine env.statement 0 db)
      (Shop.event sql event eventId db.shop) := by
  choose tick htick using hu.executed
  rw [funext htick]
  exact agree_eventTxn hc eventId hplain

lemma Attempt.Undisturbed.accepted {env : Attempt} (hu : env.Undisturbed)
    (hc : Consistent sql db) (hplain : PlainEvent event) {s : Shop}
    (hs : Shop.event sql event eventId db.shop = some s) :
    ∃ outbox db', runInTxn sql env event eventId db = (.ok outbox, db') ∧ db'.shop = s := by
  obtain ⟨⟨outbox, n, db'⟩, hrun, hview⟩ := (hu.run hc eventId hplain).of_some hs
  refine ⟨outbox, db', ?_, hview⟩
  simp only [runInTxn, hu.begin_eq, hrun, hu.commit_eq]

lemma Attempt.Undisturbed.refused {env : Attempt} (hu : env.Undisturbed)
    (hc : Consistent sql db) (hplain : PlainEvent event)
    (hs : Shop.event sql event eventId db.shop = none) :
    ∃ x, runInTxn sql env event eventId db = (.error x, db) := by
  obtain ⟨x, hrun⟩ := (hu.run hc eventId hplain).of_none hs
  refine ⟨x, ?_⟩
  simp only [runInTxn, hu.begin_eq, hrun]

lemma Attempt.Undisturbed.cases {env : Attempt} (h : env.Undisturbed) (sql : SqlServer)
    (event eventId : Json) (db : Database) :
    (∃ x, runInTxn sql env event eventId db = (.error x, db)) ∨
      ∃ outbox db', runInTxn sql env event eventId db = (.ok outbox, db') := by
  unfold runInTxn
  rw [h.begin_eq, h.commit_eq]
  cases (eventTxn event eventId).run sql.engine env.statement 0 db with
  | error x => exact .inl ⟨x, rfl⟩
  | ok result => exact .inr ⟨_, _, rfl⟩

namespace CallEnv.Undisturbed

/-- A call ends as one of its attempts, made on the state it met. -/
lemma attempts_eq (h : env.Undisturbed) (sql : SqlServer) (event eventId : Json) (db : Database) :
    ∃ j, runAttempts sql env.attempts event eventId db =
      runInTxn sql (env.attempts j) event eventId db := by
  refine retry_traceless (fun i x db' hx => ?_) 2 0
  rcases (h i).cases sql event eventId db with ⟨y, hy⟩ | ⟨outbox, db'', hok⟩
  · rw [hy] at hx
    cases hx
    rfl
  · rw [hok] at hx
    cases hx

lemma accepted (hu : env.Undisturbed) (hc : Consistent ext.sql w.db)
    (hdec : decodeEvent ext msg.value = .ok (event, eventId)) (hplain : PlainEvent event)
    {s : Shop} (hs : Shop.event ext.sql event eventId w.db.shop = some s) :
    (handleMessage ext env msg w).2.db.shop = s := by
  obtain ⟨outbox, db', hattempt, hview⟩ := (hu 0).accepted hc hplain hs
  rw [handleMessage_db hdec, runAttempts, retry_eq_attempt, hattempt]
  · exact hview
  · intro x hx
    rw [hattempt] at hx
    cases hx

/-- A refused event leaves the tables as they are, at every attempt. -/
lemma refused (hu : env.Undisturbed) (hc : Consistent ext.sql w.db)
    (hdec : decodeEvent ext msg.value = .ok (event, eventId)) (hplain : PlainEvent event)
    (hs : Shop.event ext.sql event eventId w.db.shop = none) :
    (handleMessage ext env msg w).2.db = w.db := by
  rw [handleMessage_db hdec]
  refine retry_preserves (I := (· = w.db)) ?_ 2 0 w.db rfl
  rintro i db rfl
  obtain ⟨x, hattempt⟩ := (hu i).refused hc hplain hs
  rw [hattempt]

/-- A message changes the shop as its event says, or not at all. -/
lemma handleMessage_shop (hu : env.Undisturbed) (hc : Consistent ext.sql w.db)
    (hplain : msg.Plain ext) :
    (handleMessage ext env msg w).2.db.shop = Shop.deliver ext w.db.shop msg := by
  unfold Shop.deliver
  cases hdec : decodeEvent ext msg.value with
  | error e => simp [handleMessage, hdec, World.malformed, World.log, World.count]
  | ok decoded =>
    obtain ⟨event, eventId⟩ := decoded
    have hp : PlainEvent event := hplain event eventId hdec
    cases hs : Shop.event ext.sql event eventId w.db.shop with
    | some s =>
      simp only [hs, Option.getD_some]
      exact hu.accepted hc hdec hp hs
    | none =>
      simp only [hs, Option.getD_none]
      exact congrArg Database.shop (hu.refused hc hdec hp hs)

end CallEnv.Undisturbed

/-! ### Messages in a row -/

/-- Undisturbed calls on plain messages. -/
def Smooth (ext : Externals) (calls : List (CallEnv × Message)) : Prop :=
  ∀ call ∈ calls, call.1.Undisturbed ∧ call.2.Plain ext

lemma handleAll_later {calls : List (CallEnv × Message)} (hc : Consistent ext.sql w.db) :
    Consistent ext.sql (handleAll ext calls w).db ∧
      Later ext.sql w.db (handleAll ext calls w).db := by
  induction calls generalizing w with
  | nil => exact ⟨hc, .refl _ _⟩
  | cons call calls ih =>
    obtain ⟨hc₁, hl₁⟩ := Later.handleMessage hc call.1 call.2
    obtain ⟨hc₂, hl₂⟩ := ih hc₁
    exact ⟨hc₂, hl₁.trans hl₂⟩

lemma handleAll_shop {calls : List (CallEnv × Message)} (hc : Consistent ext.sql w.db)
    (hsmooth : Smooth ext calls) :
    (handleAll ext calls w).db.shop =
      (calls.map Prod.snd).foldl (Shop.deliver ext) w.db.shop := by
  induction calls generalizing w with
  | nil => rfl
  | cons call calls ih =>
    obtain ⟨⟨hu, hplain⟩, hcalls⟩ := List.forall_mem_cons.mp hsmooth
    obtain ⟨hc₁, -⟩ := Later.handleMessage hc call.1 call.2
    rw [handleAll_cons, List.map_cons, List.foldl_cons, ← hu.handleMessage_shop hc hplain]
    exact ih hc₁ hcalls

/-- Calls none of which changes the tables. -/
lemma handleAll_idle {calls : List (CallEnv × Message)}
    (h : ∀ call ∈ calls, ∀ w, w.db = db → (handleMessage ext call.1 call.2 w).2.db = db)
    (hw : w.db = db) : (handleAll ext calls w).db = db := by
  induction calls generalizing w with
  | nil => exact hw
  | cons call calls ih =>
    obtain ⟨hcall, hcalls⟩ := List.forall_mem_cons.mp h
    exact ih hcalls (hcall w hw)

/-! ### Redelivery -/

lemma InLedger.later {db' : Database} (h : InLedger sql eventId db) (hl : Later sql db db') :
    InLedger sql eventId db' := by
  obtain ⟨row, hrow, htext⟩ := h
  obtain ⟨row', hrow', heq⟩ := hl.ledger.exists_of_mem hrow
  exact ⟨row', hrow', heq ▸ htext⟩

/-- An event in the ledger is refused. -/
lemma InLedger.event_eq_none (h : InLedger sql eventId db)
    (hid : event.getItem "event_id" = .ok eventId) :
    Shop.event sql event eventId db.shop = none := by
  refine Option.eq_none_iff_forall_ne_some.mpr fun t ht => ?_
  simp only [Shop.event, Shop.process, hid, Except.toOption, Shop.claim, Option.bind_eq_bind,
    Option.bind_some, Option.bind_eq_some_iff, Option.ite_none_right_eq_some,
    Option.ite_none_left_eq_some] at ht
  obtain ⟨-, ⟨_, -, _, -, _, ⟨-, id, hclaim, _, -, hfresh, -⟩, -⟩, -⟩ := ht
  obtain ⟨row, hrow, htext⟩ := h
  have hkey : sql.text 100 "event_id" eventId = .ok row.eventId := sql.text_eq_ok.mpr htext
  rw [hkey] at hclaim
  cases hclaim
  exact hfresh (List.any_eq_true.mpr
    ⟨row.info, List.mem_map_of_mem hrow, sql.same_refl row.eventId.text⟩)

/-- A message that was handled changes nothing when it is handled again, unless its event is
fragile. -/
lemma CallEnv.Undisturbed.again {env' : CallEnv} {w' : World} (hu : env.Undisturbed)
    (hu' : env'.Undisturbed) (hc : Consistent ext.sql w.db) (hplain : msg.Plain ext)
    (hl : Later ext.sql (handleMessage ext env msg w).2.db w'.db)
    (hc' : Consistent ext.sql w'.db)
    (hf : ∀ event eventId, decodeEvent ext msg.value = .ok (event, eventId) →
      ¬ Shop.Fragile ext.sql event w.db.shop w'.db.shop) :
    (handleMessage ext env' msg w').2.db = w'.db := by
  obtain ⟨-, hl₁⟩ := Later.handleMessage hc env msg
  cases hdec : decodeEvent ext msg.value with
  | error e => simp [handleMessage, hdec, World.malformed, World.log, World.count]
  | ok decoded =>
    obtain ⟨event, eventId⟩ := decoded
    have hid := decodeEvent_eventId hdec
    have hp : PlainEvent event := hplain event eventId hdec
    refine hu'.refused hc' hdec hp ?_
    cases hs : Shop.event ext.sql event eventId w.db.shop with
    | some s =>
      obtain ⟨outbox, db', hattempt, -⟩ := (hu 0).accepted hc hp hs
      have hledger : InLedger ext.sql eventId (handleMessage ext env msg w).2.db := by
        rw [handleMessage_db hdec, runAttempts, retry_eq_attempt, hattempt]
        · exact inLedger_of_runs hid (runInTxn_ok hattempt)
        · intro x hx
          rw [hattempt] at hx
          cases hx
      exact (hledger.later hl).event_eq_none hid
    | none =>
      have hlater : Later ext.sql w.db w'.db := hl₁.trans hl
      refine Option.eq_none_iff_forall_ne_some.mpr fun t ht => ?_
      obtain ⟨t, ht⟩ := Shop.event_later (hlater.shop hc) hlater.shop_ledger ht (hf event eventId hdec)
      rw [hs] at ht
      cases ht

/-- Whatever the state the consumer starts in, and wherever it stops before its offset is
committed: handling the messages again from the beginning leaves the tables as handling them
once does, if no event that was refused is fragile when it is redelivered. -/
theorem redelivery_transparent (ext : Externals) {f : Fleet}
    (h : Fleet.Reachable ext (fun _ _ => True) f) {ms : List Message} {k : ℕ}
    {first second once : List (CallEnv × Message)} (hfirst : first.map Prod.snd = ms.take k)
    (hsecond : second.map Prod.snd = ms) (honce : once.map Prod.snd = ms)
    (hsmooth : Smooth ext (first ++ second ++ once))
    (hstable : ∀ before call after, first = before ++ call :: after → ∀ event eventId,
      decodeEvent ext call.2.value = .ok (event, eventId) →
        ¬ Shop.Fragile ext.sql event (handleAll ext before f.world).db.shop
          (handleAll ext first f.world).db.shop) :
    (handleAll ext second (handleAll ext first f.world)).db.shop =
      (handleAll ext once f.world).db.shop := by
  have hc := h.consistent
  have hsmooth₁ : Smooth ext first := fun call hcall => hsmooth call (by simp [hcall])
  have hsmooth₂ : Smooth ext second := fun call hcall => hsmooth call (by simp [hcall])
  have hsmooth₃ : Smooth ext once := fun call hcall => hsmooth call (by simp [hcall])
  obtain ⟨hc₁, -⟩ := handleAll_later hc
  -- the messages handled before the crash change nothing the second time
  have hidle : (handleAll ext (second.take k) (handleAll ext first f.world)).db =
      (handleAll ext first f.world).db := by
    refine handleAll_idle (fun call hcall w hw => ?_) rfl
    have hmem : call.2 ∈ first.map Prod.snd := by
      rw [hfirst, ← hsecond, ← List.map_take]
      exact List.mem_map_of_mem hcall
    obtain ⟨call', hcall', hmsg⟩ := List.mem_map.mp hmem
    obtain ⟨before, after, hsplit⟩ := List.append_of_mem hcall'
    obtain ⟨hcb, -⟩ := handleAll_later hc
    obtain ⟨hcm, -⟩ := Later.handleMessage hcb call'.1 call'.2
    obtain ⟨-, hl⟩ := handleAll_later hcm
    have hend : handleAll ext first f.world = handleAll ext after
        (handleMessage ext call'.1 call'.2 (handleAll ext before f.world)).2 := by
      rw [hsplit, handleAll_append]
      rfl
    rw [← hmsg]
    have hf := hstable before call' after hsplit
    rw [← hw] at hf ⊢
    refine (hsmooth₁ call' hcall').1.again (hsmooth₂ call (List.mem_of_mem_take hcall)).1 hcb
      (hsmooth₁ call' hcall').2 ?_ ?_ hf
    · rw [hw, hend]
      exact hl
    · rw [hw]
      exact hc₁
  have hrest : Smooth ext (second.drop k) := fun call hcall =>
    hsmooth₂ call (List.mem_of_mem_drop hcall)
  calc (handleAll ext second (handleAll ext first f.world)).db.shop
      = (handleAll ext (second.drop k)
          (handleAll ext (second.take k) (handleAll ext first f.world))).db.shop := by
        rw [← handleAll_append ext (second.take k), List.take_append_drop]
    _ = ((second.drop k).map Prod.snd).foldl (Shop.deliver ext)
          (handleAll ext first f.world).db.shop := by
        rw [handleAll_shop (hidle ▸ hc₁) hrest, hidle]
    _ = ((second.drop k).map Prod.snd).foldl (Shop.deliver ext)
          ((first.map Prod.snd).foldl (Shop.deliver ext) f.world.db.shop) := by
        rw [handleAll_shop hc hsmooth₁]
    _ = ms.foldl (Shop.deliver ext) f.world.db.shop := by
        rw [List.map_drop, hsecond, hfirst, ← List.foldl_append, List.take_append_drop]
    _ = (handleAll ext once f.world).db.shop := by
        rw [handleAll_shop hc hsmooth₃, honce]

lemma Attempt.undisturbed_healthy : Attempt.healthy.Undisturbed :=
  ⟨rfl, fun n => ⟨⟨n, 0⟩, rfl⟩, rfl⟩

lemma CallEnv.undisturbed_healthy : CallEnv.healthy.Undisturbed :=
  fun _ => Attempt.undisturbed_healthy

lemma plainEvent_sample : PlainEvent sampleOrder := by
  intro _ data items hdata hitems mappings hmappings item hitem
  cases hdata
  cases hitems
  cases hmappings
  cases hitem

/-- Only an event that creates an order has items. -/
lemma plainEvent_of_type {type : String} (h : event.getItem "event_type" = .ok (.str type))
    (htype : type ≠ "ORDER_CREATED") : PlainEvent event := by
  intro hcreated
  rw [h] at hcreated
  cases hcreated
  exact absurd rfl htype

/-- A `PAYMENT_CONFIRMED` event on the wire, with `method` as JSON text, and as `orjson` reads
it. -/
def paymentText (eventId method : String) (amount : ℕ) : String :=
  "\x7b\"event_id\":\"" ++ eventId ++ "\",\"event_type\":\"PAYMENT_CONFIRMED\",\"data\":\x7b" ++
  "\"external_order_id\":\"o1\",\"external_payment_id\":\"p1\",\"method\":" ++ method ++
  ",\"amount\":" ++ toString amount ++ "\x7d\x7d"

def paymentEvent (eventId : String) (method : Json) (amount : ℕ) : Json :=
  .obj [("event_id", .str eventId), ("event_type", .str "PAYMENT_CONFIRMED"),
    ("data", .obj [("external_order_id", .str "o1"), ("external_payment_id", .str "p1"),
      ("method", method), ("amount", .int amount)])]

/-- A payment without a method, and a second event about the same payment. -/
def paymentCalls : List (CallEnv × Message × Json × Json) :=
  [(.healthy, sampleMessage, sampleOrder, .str "e1"),
    (.healthy, ⟨1, (paymentText "e2" "null" 10).toUTF8⟩, paymentEvent "e2" .null 10, .str "e2"),
    (.healthy, ⟨2, (paymentText "e3" "\"pix\"" 20).toUTF8⟩, paymentEvent "e3" (.str "pix") 20,
      .str "e3")]

def paymentExternals : Externals :=
  .reading [(sampleText, sampleOrder), (paymentText "e2" "null" 10, paymentEvent "e2" .null 10),
    (paymentText "e3" "\"pix\"" 20, paymentEvent "e3" (.str "pix") 20)]

lemma decodeEvent_payment : ∀ call ∈ paymentCalls,
    decodeEvent paymentExternals call.2.1.value = .ok call.2.2 := by
  have h₁ : decodeEvent paymentExternals sampleText.toUTF8 = .ok (sampleOrder, .str "e1") :=
    decodeEvent_reading lookup_head rfl
  have h₂ : decodeEvent paymentExternals (paymentText "e2" "null" 10).toUTF8 =
      .ok (paymentEvent "e2" .null 10, .str "e2") :=
    decodeEvent_reading ((lookup_tail (by decide)).trans lookup_head) rfl
  have h₃ : decodeEvent paymentExternals (paymentText "e3" "\"pix\"" 20).toUTF8 =
      .ok (paymentEvent "e3" (.str "pix") 20, .str "e3") :=
    decodeEvent_reading ((lookup_tail (by decide)).trans
      ((lookup_tail (by decide)).trans lookup_head)) rfl
  simp only [paymentCalls, List.forall_mem_cons, List.not_mem_nil, false_imp_iff, implies_true,
    and_true]
  exact ⟨h₁, h₂, h₃⟩

lemma smooth_payment :
    Smooth paymentExternals (paymentCalls.map fun call => (call.1, call.2.1)) := by
  intro call hcall
  obtain ⟨call', hcall', rfl⟩ := List.mem_map.mp hcall
  have hdec := decodeEvent_payment call' hcall'
  refine ⟨?_, fun event eventId h => ?_⟩
  · have henv : ∀ call ∈ paymentCalls, call.1 = .healthy := by simp [paymentCalls]
    rw [henv call' hcall']
    exact CallEnv.undisturbed_healthy
  · have hevent : event = call'.2.2.1 := by
      rw [hdec] at h
      exact (congrArg Prod.fst (Except.ok.inj h)).symm
    rw [hevent]
    simp only [paymentCalls, List.mem_cons, List.not_mem_nil, or_false] at hcall'
    rcases hcall' with rfl | rfl | rfl
    · exact plainEvent_sample
    · exact plainEvent_of_type rfl (by decide)
    · exact plainEvent_of_type rfl (by decide)

lemma handleAll_payment (n : ℕ) :
    (handleAll paymentExternals ((paymentCalls.take n).map fun call => (call.1, call.2.1))
        .start).db =
      (paymentCalls.take n).foldl (fun db call =>
        (runAttempts .plain call.1.attempts call.2.2.1 call.2.2.2 db).2) .empty :=
  handleAll_db (paymentCalls.take n)
    (fun call hcall => decodeEvent_payment call (List.mem_of_mem_take hcall)) .start

/-- The crash comes before the last message: the order is in the ledger by then, and the payment
without a method is refused again. -/
theorem redelivery_transparent_payment :
    (handleAll paymentExternals (paymentCalls.map fun call => (call.1, call.2.1))
        (handleAll paymentExternals ((paymentCalls.take 2).map fun call => (call.1, call.2.1))
          .start)).db.shop =
      (handleAll paymentExternals (paymentCalls.map fun call => (call.1, call.2.1))
        .start).db.shop := by
  refine @redelivery_transparent paymentExternals ⟨.start, []⟩ .start (paymentCalls.map (·.2.1)) 2
    _ _ _ rfl rfl rfl (fun call hcall => smooth_payment call ?_) ?_
  · simp only [List.mem_append, List.map_take] at hcall
    exact hcall.elim (·.elim List.mem_of_mem_take id) id
  · intro before call after hsplit event eventId hdec
    have hcall : ((paymentCalls.take 2).map fun call => (call.1, call.2.1))[before.length]? =
        some call := by
      rw [hsplit]
      simp
    have hbefore : before = (paymentCalls.take before.length).map fun call => (call.1, call.2.1) := by
      have htake := congrArg (List.take before.length) hsplit
      have hle : before.length ≤ 2 := by
        have hlength := congrArg List.length hsplit
        simp [paymentCalls] at hlength
        omega
      rw [List.take_left, ← List.map_take, List.take_take, Nat.min_eq_left hle] at htake
      exact htake.symm
    rw [hbefore, handleAll_payment, handleAll_payment]
    match before.length, hcall with
    | 0, hcall =>
      obtain rfl := Option.some.inj hcall
      cases (decodeEvent_payment (.healthy, sampleMessage, sampleOrder, .str "e1")
        List.mem_cons_self).symm.trans hdec
      rintro ⟨id, eventType, data, s₀, s₀', hid, htype, -, -, hclaim, -⟩
      cases hid
      cases htype
      -- the redelivered event is in the ledger
      have hnone : (Shop.claim .plain (.str "e1") (.str "ORDER_CREATED")
          ((paymentCalls.take 2).foldl (fun db call =>
            (runAttempts .plain call.1.attempts call.2.2.1 call.2.2.2 db).2) .empty).shop).isNone =
              true := by decide
      rw [show paymentExternals.sql = .plain from rfl] at hclaim
      rw [hclaim] at hnone
      cases hnone
    | 1, hcall =>
      obtain rfl := Option.some.inj hcall
      -- nothing has changed since the payment was refused
      have hsame : ((paymentCalls.take 2).foldl (fun db call =>
          (runAttempts .plain call.1.attempts call.2.2.1 call.2.2.2 db).2) .empty).shop =
            ((paymentCalls.take 1).foldl (fun db call =>
              (runAttempts .plain call.1.attempts call.2.2.1 call.2.2.2 db).2) .empty).shop := by rfl
      rintro ⟨id, eventType, data, s₀, s₀', -, -, -, hclaim, hclaim', hrefused, haccepted⟩
      rw [hsame, hclaim] at hclaim'
      cases hclaim'
      exact haccepted hrefused

/-- Once, the payment without a method is refused and the payment stands at the amount of the
second event; after a crash, the redelivered event updates it. -/
theorem redelivery_overwrites :
    ¬ ∀ (ext : Externals) (f : Fleet), Fleet.Reachable ext (fun _ _ => True) f →
      ∀ (ms : List Message) (k : ℕ) (first second once : List (CallEnv × Message)),
        first.map Prod.snd = ms.take k → second.map Prod.snd = ms → once.map Prod.snd = ms →
        Smooth ext (first ++ second ++ once) →
        (handleAll ext second (handleAll ext first f.world)).db.shop =
          (handleAll ext once f.world).db.shop := by
  intro h
  obtain ⟨calls, hcalls⟩ : ∃ calls, calls = paymentCalls.map fun call => (call.1, call.2.1) :=
    ⟨_, rfl⟩
  have hshop := h paymentExternals ⟨.start, []⟩ .start (calls.map Prod.snd) 3 calls calls calls
    (by simp [hcalls, paymentCalls]) rfl rfl fun call hcall => smooth_payment call (by
      rw [← hcalls]
      simpa using hcall)
  have honce : ((paymentCalls.foldl (fun db call =>
      (runAttempts .plain call.1.attempts call.2.2.1 call.2.2.2 db).2) .empty).payments.map
        (·.amount)) = [2000] := by decide
  have htwice : (((paymentCalls ++ paymentCalls).foldl (fun db call =>
      (runAttempts .plain call.1.attempts call.2.2.1 call.2.2.2 db).2) .empty).payments.map
        (·.amount)) = [1000] := by decide
  have hamounts : ∀ db : Database, db.shop.payments.map (·.amount) = db.payments.map (·.amount) :=
    fun db => by simp [Database.shop, Payment.info]
  have hpayments := congrArg (fun s : Shop => s.payments.map (·.amount)) hshop
  have hdb := handleAll_db paymentCalls decodeEvent_payment .start
  have hdb₂ := handleAll_db (paymentCalls ++ paymentCalls) (by simpa using decodeEvent_payment)
    .start
  rw [List.map_append, handleAll_append, ← hcalls] at hdb₂
  rw [← hcalls] at hdb
  simp only [hamounts, hdb, hdb₂] at hpayments
  rw [show World.start.db = .empty from rfl, show paymentExternals.sql = .plain from rfl, honce,
    htwice] at hpayments
  cases hpayments

end EventPipeline

import EventPipeline.Workload

/-!
# The acceptance criterion of the load simulator

Every message of a workload meets its turn: the creation of an order comes first, and once more at
most at the end. So what has been accepted after a number of messages is what they say, each event
once (`Handled`), and after all of them every order is approved, paid and published once
(`criterion_met`).
-/

namespace EventPipeline

open Transaction

namespace Workload

variable {ext : Externals} {sql : SqlServer} {wl : Workload} {seq : ℕ} {step : OrderStep}
  {before after acc : List (ℕ × OrderStep)} {s : Shop} {w : World}

/-! ### Turns -/

/-- The sequence of an order, split at one of its events: the event is new and in its turn, or it is
the creation once more. -/
lemma runOrder_split {pre post : List OrderStep} (h : pre ++ step :: post = wl.runOrder seq) :
    step ∈ pre ∨ step ∉ pre ∧ (step = .created ∧ .approved ∉ pre ∨ .created ∈ pre) := by
  unfold runOrder at h
  match pre, h with
  | [], h =>
    obtain ⟨rfl, -⟩ := List.cons.inj h
    simp
  | [a], h =>
    simp only [List.cons_append, List.nil_append, List.cons.injEq] at h
    obtain ⟨rfl, rfl, -⟩ := h
    simp
  | [a, b], h =>
    simp only [List.cons_append, List.nil_append, List.cons.injEq] at h
    obtain ⟨rfl, rfl, rfl, -⟩ := h
    simp
  | [a, b, c], h =>
    simp only [List.cons_append, List.nil_append, List.cons.injEq] at h
    obtain ⟨rfl, rfl, rfl, h⟩ := h
    split_ifs at h
    obtain ⟨rfl, -⟩ := List.cons.inj h
    simp
  | a :: b :: c :: d :: pre, h =>
    simp only [List.cons_append, List.nil_append, List.cons.injEq] at h
    obtain ⟨rfl, rfl, rfl, h⟩ := h
    split_ifs at h
    exact absurd (List.cons.inj h).2 (by simp)

/-- Every message of a workload meets its turn. -/
lemma Interleaves.turn (h : wl.Interleaves (before ++ (seq, step) :: after)) :
    seq < wl.orders ∧ ((seq, step) ∈ before ∨ (seq, step) ∉ before ∧
      (step = .created ∧ (seq, .approved) ∉ before ∨ (seq, .created) ∈ before)) := by
  have hseq := h seq
  simp only [List.filter_append, List.filter_cons, decide_true, if_true, List.map_append,
    List.map_cons] at hseq
  have hlt : seq < wl.orders := by
    by_contra hge
    rw [if_neg hge] at hseq
    simp at hseq
  rw [if_pos hlt] at hseq
  have hmem : ∀ step', step' ∈ (before.filter (·.1 = seq)).map Prod.snd ↔ (seq, step') ∈ before := by
    intro step'
    simp only [List.mem_map, List.mem_filter, decide_eq_true_eq]
    constructor
    · rintro ⟨op, ⟨hop, rfl⟩, rfl⟩
      exact hop
    · intro hop
      exact ⟨_, ⟨hop, rfl⟩, rfl⟩
  refine ⟨hlt, ?_⟩
  have hsplit := runOrder_split hseq
  simpa only [hmem] using hsplit

/-- Every event of every order is among the messages. -/
lemma Interleaves.mem_iff {ops : List (ℕ × OrderStep)} (h : wl.Interleaves ops) (seq : ℕ)
    (step : OrderStep) : (seq, step) ∈ ops ↔ seq < wl.orders := by
  have hseq := h seq
  constructor
  · intro hop
    by_contra hge
    rw [if_neg hge, List.map_eq_nil_iff, List.filter_eq_nil_iff] at hseq
    exact hseq _ hop (decide_eq_true rfl)
  · intro hlt
    rw [if_pos hlt] at hseq
    have hmem : step ∈ (ops.filter (·.1 = seq)).map Prod.snd := by
      rw [hseq, runOrder]
      cases step <;> simp
    obtain ⟨op, hop, rfl⟩ := List.mem_map.mp hmem
    obtain ⟨hop, hone⟩ := List.mem_filter.mp hop
    exact of_decide_eq_true hone ▸ hop

/-! ### One message -/

lemma plainEvent (wl : Workload) (seq : ℕ) (step : OrderStep) : PlainEvent (wl.event seq step) := by
  intro htype data items hdata hitems mappings hmappings item hitem
  cases step with
  | created =>
    cases hdata
    cases hitems
    cases hmappings
    obtain rfl := List.mem_singleton.mp hitem
    rfl
  | approved => exact absurd (Json.str.inj (Except.ok.inj htype)) (by decide)
  | paid => exact absurd (Json.str.inj (Except.ok.inj htype)) (by decide)

/-- The message is about an event of the workload, and nothing goes wrong when it is handled. -/
structure Carries (ext : Externals) (wl : Workload) (op : ℕ × OrderStep) (call : CallEnv × Message) :
    Prop where
  flawless : call.1.Flawless
  decoded : decodeEvent ext call.2.value =
    .ok (wl.event op.1 op.2, .str (wl.eventId op.1 op.2).text)

/-- The state after some messages of a workload: each event has been accepted once, and each
approval published once. -/
structure Handled (ext : Externals) (wl : Workload) (before : List (ℕ × OrderStep)) (w : World) :
    Prop where
  consistent : Consistent ext.sql w.db
  accepted : ∃ acc snapshots, acc.Nodup ∧ (∀ op, op ∈ acc ↔ op ∈ before) ∧
    Stocked wl acc w.db.shop ∧ Sends ext w.sent snapshots ∧
    snapshots.map (·.order.externalOrderId.text) = (seqs .approved acc).map orderId

lemma Carries.plain {op : ℕ × OrderStep} {call : CallEnv × Message} (h : Carries ext wl op call) :
    call.2.Plain ext := by
  intro event eventId hdec
  rw [h.decoded] at hdec
  cases hdec
  exact wl.plainEvent op.1 op.2

/-- A message whose event is not an approval publishes nothing. -/
lemma Carries.published_none {op : ℕ × OrderStep} {call : CallEnv × Message}
    (h : Carries ext wl op call) {db : Database} (hc : Consistent ext.sql db)
    (hnone : op.2 ≠ .approved ∨ Shop.event ext.sql (wl.event op.1 op.2)
      (.str (wl.eventId op.1 op.2).text) db.shop = none) :
    published ext call.1 call.2 db = none := by
  have hnotice := congrArg Prod.snd (h.flawless.undisturbed.notice_eq hc h.plain)
  simp only [Picture.notice, h.decoded, Database.picture] at hnotice
  rw [← Option.map_eq_none_iff, hnotice]
  rcases hnone with hne | hrefused
  · have hother : isApproval (wl.event op.1 op.2) = false := by
      obtain ⟨seq, step⟩ := op
      cases step with
      | created => rfl
      | approved => exact absurd rfl hne
      | paid => rfl
    have hannounced : ∀ s s', Shop.announced ext.sql (wl.event op.1 op.2) s s' = none := fun s s' => by
      simp [Shop.announced, hother]
    exact Option.bind_eq_none_iff.mpr fun s' _ => hannounced _ s'
  · rw [hrefused]
    rfl

/-- What an approval announces is the order it names. -/
lemma announced_order (hs : Stocked wl acc s) (hsql : sql.ReadsWorkload wl) {s' : Shop}
    {info : SnapshotInfo}
    (h : Shop.announced sql (wl.event seq .approved) s s' = some info) :
    info.order.text = orderId seq := by
  have happroval : isApproval (wl.event seq .approved) = true := rfl
  have hid : idOf (wl.event seq .approved) .order = some (.str (orderId seq)) := rfl
  simp only [Shop.announced, happroval, if_true, hid, Option.bind_eq_bind, Option.bind_some,
    Option.bind_eq_some_iff] at h
  obtain ⟨o, ho, hsnapshot⟩ := h
  have hsame : sql.same (orderId seq) o.ext.text = true := by
    simpa [Shop.orderNamed] using List.find?_some ho
  simp only [Shop.snapshot, Option.bind_eq_bind, Option.bind_eq_some_iff, Option.some.injEq]
    at hsnapshot
  obtain ⟨o', ho', c, -, a, -, rfl⟩ := hsnapshot
  have hext : o'.ext = o.ext := by simpa using List.find?_some ho'
  have htext : o'.ext.text = o.ext.text := congrArg Varchar.text hext
  exact htext.trans (hs.order_same hsql (List.mem_of_find?_eq_some ho) hsame).1

/-- The approval of a stored order publishes a snapshot of it. -/
lemma Carries.published_some {call : CallEnv × Message} (h : Carries ext wl (seq, .approved) call)
    {db : Database} (hc : Consistent ext.sql db) (hs : Stocked wl acc db.shop)
    (hsql : ext.sql.ReadsWorkload wl) (hcreated : (seq, .created) ∈ acc) {s' : Shop}
    (hevent : Shop.event ext.sql (wl.event seq .approved) (.str (wl.eventId seq .approved).text)
      db.shop = some s') :
    ∃ snapshot, published ext call.1 call.2 db = some snapshot ∧
      snapshot.order.externalOrderId.text = orderId seq := by
  have hchange : StatusChange (wl.event seq .approved)
      (.obj [("external_order_id", .str (orderId seq)), ("new_status", .str "APPROVED")])
      (.str (orderId seq)) (.str "APPROVED") := ⟨rfl, rfl, rfl, rfl⟩
  obtain ⟨o', ho', htext⟩ := hs.exists_order hcreated
  obtain ⟨o, ho, rfl⟩ := List.mem_map.mp ho'
  have hnamed : o ∈ db.ordersNamed ext.sql (.str (orderId seq)) := by
    refine List.mem_filter.mpr ⟨ho, holds_iff.mpr ?_⟩
    have hsame : ext.sql.same (orderId seq) o.externalOrderId.text = true := htext ▸ ext.sql.same_refl _
    exact congrArg Except.ok hsame
  obtain ⟨j, hj⟩ := h.flawless.undisturbed.attempts_eq ext.sql (wl.event seq .approved)
    (.str (wl.eventId seq .approved).text) db
  obtain ⟨outbox, db', hattempt, -⟩ := (h.flawless.undisturbed j).accepted hc
    (wl.plainEvent seq .approved) hevent
  obtain ⟨first, -, houtbox⟩ := hchange.outbox hnamed (runInTxn_ok hattempt)
  rw [if_pos (Json.isText_iff.mpr rfl)] at houtbox
  obtain ⟨snapshot, rfl, -⟩ := houtbox
  have hpublished : published ext call.1 call.2 db = some snapshot := by
    simp [published, h.decoded, hj, hattempt]
  refine ⟨snapshot, hpublished, ?_⟩
  have hnotice := congrArg Prod.snd (h.flawless.undisturbed.notice_eq hc h.plain)
  simp only [Picture.notice, h.decoded, Database.picture, hevent, hpublished, Option.map_some,
    Option.bind_some] at hnotice
  exact announced_order hs hsql hnotice.symm

/-! ### Runs -/

/-- An event that is accepted, at its turn. -/
lemma Stocked.next (h : Stocked wl acc s) (hsql : sql.ReadsWorkload wl) (hids : wl.DistinctIds)
    (hseq : seq < wl.orders) (hnew : (seq, step) ∉ acc)
    (hturn : step = .created ∧ (seq, .approved) ∉ acc ∨ (seq, .created) ∈ acc) :
    ∃ s', Shop.event sql (wl.event seq step) (.str (wl.eventId seq step).text) s = some s' ∧
      Stocked wl (acc ++ [(seq, step)]) s' := by
  cases step with
  | created =>
    rcases hturn with ⟨-, hpending⟩ | hcreated
    · exact h.created hsql hids hseq hnew hpending
    · exact absurd hcreated hnew
  | approved =>
    rcases hturn with ⟨heq, -⟩ | hcreated
    · cases heq
    · exact h.approved hsql hids hcreated hnew
  | paid =>
    rcases hturn with ⟨heq, -⟩ | hcreated
    · cases heq
    · exact h.paid hsql hids hcreated hnew

/-- One more message of a workload is handled. -/
lemma Handled.message (h : Handled ext wl before w)
    (hdumps : ∀ snapshot, ∃ value, ext.dumps snapshot = .ok value) (hsql : ext.sql.ReadsWorkload wl)
    (hids : wl.DistinctIds) (hops : wl.Interleaves (before ++ (seq, step) :: after))
    {call : CallEnv × Message} (hcall : Carries ext wl (seq, step) call) :
    Handled ext wl (before ++ [(seq, step)]) (handleMessage ext call.1 call.2 w).2 := by
  obtain ⟨acc, snapshots, hnodup, hmem, hs, hsends, happroved⟩ := h.accepted
  obtain ⟨hseq, hturn⟩ := hops.turn
  simp only [← hmem] at hturn
  have hpicture := congrArg Picture.shop
    (hcall.flawless.undisturbed.picture_eq h.consistent hcall.plain)
  obtain ⟨new, hnew, hnewsends⟩ := hcall.flawless.sends hdumps call.2 w
  have hdec := hcall.decoded
  refine ⟨(Later.handleMessage h.consistent call.1 call.2).1, ?_⟩
  rcases hturn with hold | ⟨hfresh, hturn⟩
  · -- the event has been accepted before
    have hledger : (wl.eventId seq step).text ∈ w.db.shop.ledger.map (·.eventId.text) := by
      rw [hs.ledger]
      exact List.mem_map.mpr ⟨_, hold, rfl⟩
    obtain ⟨e, he, htext⟩ := List.mem_map.mp hledger
    have hrefused : Shop.event ext.sql (wl.event seq step) (.str (wl.eventId seq step).text)
        w.db.shop = none :=
      Shop.event_taken (decodeEvent_eventId hdec) he
        ((Workload.keeps_eventId wl seq step).stored_iff.mpr htext)
    rw [hcall.published_none h.consistent (.inr hrefused)] at hnewsends
    cases hnewsends
    refine ⟨acc, snapshots, hnodup, fun op => ?_, ?_, ?_, happroved⟩
    · rw [hmem, List.mem_append, List.mem_singleton]
      exact ⟨.inl, fun hop => hop.elim id fun hop => hop ▸ (hmem _).mp hold⟩
    · have hshop : (handleMessage ext call.1 call.2 w).2.db.shop = w.db.shop := by
        simpa [Picture.deliver, hdec, Database.picture, hrefused] using hpicture
      exact hshop ▸ hs
    · rw [hnew, List.append_nil]
      exact hsends
  · obtain ⟨s', hevent, hs'⟩ := hs.next hsql hids hseq hfresh hturn
    have hshop : (handleMessage ext call.1 call.2 w).2.db.shop = s' := by
      simpa [Picture.deliver, hdec, Database.picture, hevent] using hpicture
    have hnodup' : (acc ++ [(seq, step)]).Nodup :=
      List.nodup_append.mpr ⟨hnodup, List.nodup_singleton _, fun op hop op' hop' heq =>
        hfresh (List.mem_singleton.mp hop' ▸ heq ▸ hop)⟩
    have hmem' : ∀ op, op ∈ acc ++ [(seq, step)] ↔ op ∈ before ++ [(seq, step)] := fun op => by
      rw [List.mem_append, List.mem_append, hmem]
    by_cases happroval : step = .approved
    · subst happroval
      have hcreated := hturn.resolve_left fun h => by cases h.1
      obtain ⟨snapshot, hpublished, htext⟩ := hcall.published_some h.consistent hs hsql hcreated hevent
      rw [hpublished] at hnewsends
      refine ⟨_, snapshots ++ [snapshot], hnodup', hmem', hshop ▸ hs', ?_, ?_⟩
      · rw [hnew]
        exact List.rel_append hsends hnewsends
      · simp [seqs_append_self, happroved, htext]
    · rw [hcall.published_none h.consistent (.inl happroval)] at hnewsends
      cases hnewsends
      refine ⟨_, snapshots, hnodup', hmem', hshop ▸ hs', ?_, ?_⟩
      · rw [hnew, List.append_nil]
        exact hsends
      · rw [seqs_append_of_ne happroval, happroved]

lemma Handled.start (ext : Externals) (wl : Workload) : Handled ext wl [] .start where
  consistent := .empty _
  accepted := ⟨[], [], .nil, fun _ => .rfl, ⟨by simp, rfl, rfl, by simp [World.start, Database.shop,
    Database.empty], rfl, rfl, rfl, by simp [World.start, Database.shop, Database.empty, seqs],
    by simp [World.start, Database.shop, Database.empty],
    by simp [World.start, Database.shop, Database.empty]⟩, .nil, rfl⟩

/-- The messages of a workload are handled one after the other. -/
lemma Handled.messages (hdumps : ∀ snapshot, ∃ value, ext.dumps snapshot = .ok value)
    (hsql : ext.sql.ReadsWorkload wl) (hids : wl.DistinctIds)
    {calls : List (CallEnv × Message)} (hcalls : List.Forall₂ (Carries ext wl) after calls)
    (h : Handled ext wl before w) (hops : wl.Interleaves (before ++ after)) :
    Handled ext wl (before ++ after) (handleAll ext calls w) := by
  induction hcalls generalizing before w with
  | nil => simpa using h
  | @cons op call ops calls hcall _ ih =>
    have hone := h.message hdumps hsql hids hops hcall
    have hall := ih hone (by simpa using hops)
    simpa using hall

/-! ### The criterion -/

/-- What a workload has to leave behind. -/
structure Met (ext : Externals) (wl : Workload) (w : World) : Prop where
  orders : w.db.orders.length = wl.orders
  approved : ∀ o ∈ w.db.orders, o.status.text = "APPROVED"
  items : w.db.orderItems.length = wl.orders
  payments : w.db.payments.length = wl.orders
  history : w.db.statusHistory.length = 2 * wl.orders
  ledger : w.db.processedEvents.length = 3 * wl.orders
  sent : w.sent.length = wl.orders
  /-- One publication of every order. -/
  published : ∃ snapshots, Sends ext w.sent snapshots ∧
    (snapshots.map (·.order.externalOrderId.text)).Perm (w.db.orders.map (·.externalOrderId.text))
  clients : w.db.clients.length = min wl.orders 5000
  current : ∀ c ∈ w.db.clients,
    (w.db.address.countP fun a => a.isCurrent && a.clientId = c.clientId) = 1

/-- Once every event has been accepted, every order has been. -/
lemma seqs_perm (hnodup : acc.Nodup) (hmem : ∀ seq step, (seq, step) ∈ acc ↔ seq < wl.orders)
    (step : OrderStep) : (seqs step acc).Perm (List.range wl.orders) := by
  refine (List.perm_ext_iff_of_nodup ?_ List.nodup_range).mpr fun seq => ?_
  · refine (hnodup.filter _).map_on fun op hop op' hop' heq => ?_
    have hstep : op.2 = op'.2 := (of_decide_eq_true (List.mem_filter.mp hop).2).trans
      (of_decide_eq_true (List.mem_filter.mp hop').2).symm
    exact Prod.ext heq hstep
  · rw [mem_seqs, hmem, List.mem_range]

lemma length_seqs (acc : List (ℕ × OrderStep)) : acc.length =
    (seqs .created acc).length + (seqs .approved acc).length + (seqs .paid acc).length := by
  induction acc with
  | nil => rfl
  | cons op acc ih =>
    obtain ⟨seq, step⟩ := op
    simp only [seqs, List.length_map] at ih
    cases step <;> simp [seqs, ih] <;> omega

/-- Orders share a client where their numbers are equal modulo 5000. -/
lemma length_clientIds (n : ℕ) {texts : List String} (hnodup : texts.Nodup)
    (hmem : ∀ t, t ∈ texts ↔ ∃ seq < n, clientId seq = t) : texts.length = min n 5000 := by
  have hperm : texts.Perm ((List.range (min n 5000)).map clientId) := by
    refine (List.perm_ext_iff_of_nodup hnodup ?_).mpr fun t => ?_
    · refine List.nodup_range.map_on fun i hi j hj heq => ?_
      rw [List.mem_range] at hi hj
      have hmod := clientId_eq_iff.mp heq
      rwa [Nat.mod_eq_of_lt (by omega), Nat.mod_eq_of_lt (by omega)] at hmod
    · rw [hmem, List.mem_map]
      constructor
      · rintro ⟨seq, hseq, rfl⟩
        refine ⟨seq % 5000, List.mem_range.mpr ?_, clientId_eq_iff.mpr (Nat.mod_mod _ _)⟩
        have hle := Nat.mod_le seq 5000
        have hlt := Nat.mod_lt seq (show 0 < 5000 by decide)
        omega
      · rintro ⟨i, hi, rfl⟩
        exact ⟨i, (List.mem_range.mp hi).trans_le (min_le_left _ _), rfl⟩
  simpa using hperm.length_eq

/-- Any workload, processed in any interleaving of the orders' sequences, meets the criterion. -/
theorem criterion_met (ext : Externals) (hdumps : ∀ snapshot, ∃ value, ext.dumps snapshot = .ok value)
    (wl : Workload) (hsql : ext.sql.ReadsWorkload wl) (hids : wl.DistinctIds)
    {ops : List (ℕ × OrderStep)} (hops : wl.Interleaves ops) {calls : List (CallEnv × Message)}
    (hcalls : List.Forall₂ (Carries ext wl) ops calls) : Met ext wl (handleAll ext calls .start) := by
  have hhandled := Handled.messages hdumps hsql hids hcalls (.start ext wl) hops
  obtain ⟨acc, snapshots, hnodup, hmem, hs, hsends, happroved⟩ := hhandled.accepted
  have hc := hhandled.consistent
  obtain ⟨w, hw⟩ : ∃ w, w = handleAll ext calls .start := ⟨_, rfl⟩
  rw [← hw] at hs hsends hc ⊢
  have hall : ∀ seq step, (seq, step) ∈ acc ↔ seq < wl.orders := fun seq step =>
    (hmem _).trans (hops.mem_iff seq step)
  have hperm := seqs_perm hnodup hall
  have hlength : ∀ step, (seqs step acc).length = wl.orders := fun step => by
    simpa using (hperm step).length_eq
  have horders : w.db.orders.map (·.externalOrderId.text) = (seqs .created acc).map orderId := by
    simpa [Database.shop, Order.info, Function.comp_def] using hs.orders
  have hsent := congrArg List.length happroved
  refine ⟨?_, fun o ho => ?_, ?_, ?_, ?_, ?_, ?_, ⟨snapshots, hsends, ?_⟩, ?_, fun c hc' => ?_⟩
  · simpa [hlength] using congrArg List.length horders
  · have hmem : o.externalOrderId.text ∈ w.db.orders.map (·.externalOrderId.text) :=
      List.mem_map_of_mem ho
    rw [horders] at hmem
    obtain ⟨seq, hseq, htext⟩ := List.mem_map.mp hmem
    have hstatus := hs.status _ (List.mem_map_of_mem ho) seq htext.symm
    rwa [if_pos ((hall seq .approved).mpr ((hall seq .created).mp (mem_seqs.mp hseq)))] at hstatus
  · simpa [Database.shop, hlength] using hs.items
  · simpa [Database.shop, hlength] using congrArg List.length hs.payments
  · have hhistory := hs.history
    simp only [Database.shop, List.length_map, hlength] at hhistory
    omega
  · have hledger := congrArg List.length hs.ledger
    simp only [Database.shop, List.length_map, length_seqs acc, hlength] at hledger
    omega
  · rw [hsends.length_eq]
    simpa [hlength] using hsent
  · rw [happroved, horders]
    exact ((hperm .approved).trans (hperm .created).symm).map _
  · rw [← List.length_map (·.externalClientId.text)]
    refine length_clientIds wl.orders ?_ fun t => ?_
    · refine List.pairwise_map.mpr (hc.clients.imp fun hfalse heq => ?_)
      simp [heq] at hfalse
    · have hclients := hs.clients t
      simpa [Database.shop, Client.info, Function.comp_def, hall] using hclients
  · have hkey := hc.clientKey_mem hc'
    have hcurrent := hs.current c.externalClientId
      (List.mem_map.mpr ⟨_, List.mem_map_of_mem hc', rfl⟩)
    rw [← hcurrent, Shop.current, Database.shop, List.countP_map]
    refine List.countP_congr fun a _ => ?_
    simp [Address.info, hc.clientId_iff hkey]

/-! ### Orders in rounds -/

/-- Noon of 1 May 2024 in seconds, the only time the sample server is asked to read. -/
def noon : String × Int :=
  ("2024-05-01T12:00:00Z", 1714564800)

def noonServer : SqlServer :=
  { SqlServer.plain with
    toDatetime
      | .text t => if t = noon.1 then some noon.2 else none
      | _ => none }

/-- The uuids of `rounds` are the first numbers. -/
def number (seq : ℕ) : OrderStep → ℕ
  | .created => 3 * seq
  | .approved => 3 * seq + 1
  | .paid => 3 * seq + 2

/-- Orders that are all created once more. -/
def rounds (orders : ℕ) : Workload where
  orders
  replayed _ := true
  eventId seq step := .ofNat _ (number seq step)
  occurredAt _ _ := noon.1
  date _ _ := noon.1

/-- All orders are created, then all are approved, all are paid, and all created once more. -/
def roundsOps (orders : ℕ) : List (ℕ × OrderStep) :=
  [OrderStep.created, .approved, .paid, .created].flatMap fun step =>
    (List.range orders).map fun seq => (seq, step)

/-- Every event once. -/
def allOps (wl : Workload) : List (ℕ × OrderStep) :=
  List.range wl.orders ×ˢ [OrderStep.created, .approved, .paid]

/-- `orjson` on some events, and a server that reads the time of `rounds`. -/
def externals (events : List Json) : Externals :=
  { Externals.rendered events with
    dumps := fun s => .ok s.json.toUTF8
    sql := noonServer }

def events (wl : Workload) : List Json :=
  wl.allOps.map fun op => wl.event op.1 op.2

def calls (wl : Workload) (ops : List (ℕ × OrderStep)) : List (CallEnv × Message) :=
  ops.map fun op => (.healthy, ⟨0, (wl.event op.1 op.2).render.toUTF8⟩)

lemma rounds_reads (orders : ℕ) : noonServer.ReadsWorkload (rounds orders) where
  statuses := ⟨plain_readsStatuses.distinct, plain_readsStatuses.not_numeric⟩
  upper _ _ _ _ h := of_decide_eq_true h
  lower _ _ _ _ h := of_decide_eq_true h
  amount := ⟨_, rfl⟩
  unitPrice := ⟨_, rfl⟩
  quantity := ⟨_, rfl⟩
  dates _ _ _ :=
    ⟨noon.2, show (if noon.1 = noon.1 then some noon.2 else none) = some noon.2 from if_pos rfl⟩

lemma rounds_distinct {orders : ℕ} (h : 3 * orders ≤ 2 ^ 128) : (rounds orders).DistinctIds := by
  intro seq step seq' step' hseq hseq' htext
  have hlt : ∀ seq < orders, ∀ step, number seq step < 2 ^ 128 := by
    intro seq hseq step
    cases step <;> simp only [number] <;> omega
  have hval := congrArg Fin.val (Uuid.text_injective htext)
  simp only [rounds, Fin.ofNat, Nat.mod_eq_of_lt (hlt seq hseq step),
    Nat.mod_eq_of_lt (hlt seq' hseq' step')] at hval
  have hseqs : seq = seq' := by
    cases step <;> cases step' <;> simp only [number] at hval <;> omega
  subst hseqs
  refine ⟨rfl, ?_⟩
  cases step <;> cases step' <;> simp only [number] at hval <;> first | rfl | omega

lemma rounds_interleaves (orders : ℕ) : (rounds orders).Interleaves (roundsOps orders) := by
  intro seq
  have hround : ∀ step : OrderStep,
      (((List.range orders).map fun i => (i, step)).filter (·.1 = seq)).map Prod.snd =
        if seq < orders then [step] else [] := by
    intro step
    have hone : (List.range orders).filter (· = seq) = if seq < orders then [seq] else [] := by
      rw [List.filter_eq, List.nodup_range.count]
      simp only [List.mem_range]
      split_ifs <;> rfl
    rw [List.filter_map]
    show (((List.range orders).filter (· = seq)).map _).map _ = _
    rw [hone]
    split_ifs <;> rfl
  simp only [roundsOps, List.filter_flatMap, List.map_flatMap, hround]
  show _ = if seq < orders then (rounds orders).runOrder seq else []
  split_ifs <;> rfl

lemma mem_allOps {op : ℕ × OrderStep} : op ∈ wl.allOps ↔ op.1 < wl.orders := by
  obtain ⟨seq, step⟩ := op
  rw [allOps, List.mem_product, List.mem_range, and_iff_left]
  cases step <;> simp

/-- Texts that begin with the ids of the events are told apart. -/
lemma nodup_rendered (h : wl.DistinctIds) {f : ℕ × OrderStep → Json} (hhead : ∀ op, ∃ fields,
      f op = .obj (("event_id", .str (wl.eventId op.1 op.2).text) :: fields)) :
    ((wl.allOps.map f).map Json.render).Nodup := by
  rw [List.map_map]
  refine List.Nodup.map_on ?_ (List.nodup_range.product (by decide))
  rintro ⟨seq, step⟩ hop ⟨seq', step'⟩ hop' heq
  obtain ⟨fields, hevent⟩ := hhead (seq, step)
  obtain ⟨fields', hevent'⟩ := hhead (seq', step')
  have htext : (wl.eventId seq step).text = (wl.eventId seq' step').text := by
    by_contra hne
    simp only [Function.comp_apply, hevent, hevent'] at heq
    exact Json.render_ne (by rw [Uuid.length_text, Uuid.length_text]) hne heq
  obtain ⟨rfl, rfl⟩ := h seq step seq' step' (mem_allOps.mp hop) (mem_allOps.mp hop') htext
  rfl

lemma loads_externals {events : List Json} (h : (events.map Json.render).Nodup) {event : Json}
    (hmem : event ∈ events) : (externals events).loads event.render.toUTF8 = .ok event := by
  have hloads : (externals events).loads =
      (Externals.reading (events.map fun event => (event.render, event))).loads := rfl
  rw [hloads]
  exact loads_reading (lookup_rendered h hmem)

lemma carries_calls (h : wl.DistinctIds) {ops : List (ℕ × OrderStep)}
    (hops : ∀ op ∈ ops, op.1 < wl.orders) :
    List.Forall₂ (Carries (externals wl.events) wl) ops (wl.calls ops) := by
  refine List.forall₂_map_right_iff.mpr (List.forall₂_same.mpr fun op hop => ⟨flawless_healthy, ?_⟩)
  obtain ⟨seq, step⟩ := op
  have hmem : wl.event seq step ∈ wl.events :=
    List.mem_map.mpr ⟨(seq, step), mem_allOps.mpr (hops _ hop), rfl⟩
  have hnodup : (wl.events.map Json.render).Nodup :=
    nodup_rendered h fun op => by
      obtain ⟨seq, step⟩ := op
      cases step <;> exact ⟨_, rfl⟩
  have hid : (wl.event seq step).getItem "event_id" = .ok (.str (wl.eventId seq step).text) := by
    cases step <;> rfl
  simp only [decodeEvent, loads_externals hnodup hmem, bind_eq_ok]
  exact ⟨_, rfl, _, hid, rfl⟩

/-- The first order and the last are of one client. -/
theorem criterion_met_rounds :
    Met (externals (rounds 5001).events) (rounds 5001) (handleAll (externals (rounds 5001).events)
        ((rounds 5001).calls (roundsOps 5001)) .start) ∧
      clientId 0 = clientId 5000 := by
  have hids : (rounds 5001).DistinctIds := rounds_distinct (by decide)
  have hops := rounds_interleaves 5001
  refine ⟨criterion_met (externals (rounds 5001).events) (fun _ => ⟨_, rfl⟩) (rounds 5001)
    (rounds_reads 5001) hids hops (carries_calls hids fun op hop => ?_), clientId_eq_iff.mpr rfl⟩
  exact (hops.mem_iff op.1 op.2).mp hop

end Workload

end EventPipeline

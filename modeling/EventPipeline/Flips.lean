import EventPipeline.Approvals
import EventPipeline.Redelivery
import EventPipeline.Snapshots

/-!
# Publications and approvals

`process_event` decides from the event alone whether an order is published: a status change to
`APPROVED` publishes it also when it is approved already. Over a run in which nothing goes wrong,
an order is published as often as its status flips to `APPROVED` when no event reports an approval
again (`one_notification_per_approval`).
-/

namespace EventPipeline

open Transaction

variable {ext : Externals} {sql : SqlServer} {db db' : Database} {event eventId : Json}
  {msg : Message} {env : CallEnv} {w : World} {orderId : ℕ} {outbox : Option Outbox}

/-! ### Calls in which nothing goes wrong -/

/-- The connection holds in every attempt, and what is sent is accepted. -/
structure CallEnv.Flawless (env : CallEnv) : Prop where
  undisturbed : env.Undisturbed
  send_eq : env.send = none

/-- The attempts of a call leave no trace, or one of them commits. -/
lemma CallEnv.Undisturbed.attempts_cases (h : env.Undisturbed) (sql : SqlServer)
    (event eventId : Json) (db : Database) :
    (∃ x, runAttempts sql env.attempts event eventId db = (.error x, db)) ∨
      ∃ outbox db', runAttempts sql env.attempts event eventId db = (.ok outbox, db') ∧
        Runs sql.engine (eventTxn event eventId) db outbox db' := by
  obtain ⟨j, hj⟩ := h.attempts_eq sql event eventId db
  rcases (h j).cases sql event eventId db with ⟨x, hx⟩ | ⟨outbox, db', hok⟩
  · exact .inl ⟨x, hj.trans hx⟩
  · exact .inr ⟨outbox, db', hj.trans hok, runInTxn_ok hok⟩

lemma conclude_ok {eventType : Json} (htype : event.getItem "event_type" = .ok eventType)
    (hdumps : ∀ snapshot, ∃ value, ext.dumps snapshot = .ok value) (hsend : env.send = none)
    (houtbox : ∀ ob, outbox = some ob → ob.eventType = "ORDER_APPROVED") (w : World) :
    ∃ new, (conclude ext env event eventId (.ok outbox) w).2.sent = w.sent ++ new ∧
      new.map (fun m => (m.key, m.accepted)) =
        outbox.toList.map fun ob => (toString ob.order.order.orderId, true) := by
  simp only [conclude, World.countEvent, htype]
  cases outbox with
  | none => exact ⟨[], (List.append_nil _).symm, rfl⟩
  | some ob =>
    obtain ⟨value, hvalue⟩ := hdumps ob.order
    simp only [houtbox ob rfl, if_true, World.publish, hvalue, hsend]
    exact ⟨_, rfl, rfl⟩

/-- A flawless call changes nothing and sends nothing, or it commits the event and sends what the
transaction returned. -/
lemma CallEnv.Flawless.handleMessage_cases (h : env.Flawless)
    (hdumps : ∀ snapshot, ∃ value, ext.dumps snapshot = .ok value) (msg : Message) (w : World) :
    ((handleMessage ext env msg w).2.db = w.db ∧ (handleMessage ext env msg w).2.sent = w.sent) ∨
      ∃ event eventId outbox, decodeEvent ext msg.value = .ok (event, eventId) ∧
        Runs ext.sql.engine (eventTxn event eventId) w.db outbox
          (handleMessage ext env msg w).2.db ∧
        ∃ new, (handleMessage ext env msg w).2.sent = w.sent ++ new ∧
          new.map (fun m => (m.key, m.accepted)) =
            outbox.toList.map fun ob => (toString ob.order.order.orderId, true) := by
  unfold EventPipeline.handleMessage
  cases hdec : decodeEvent ext msg.value with
  | error e => exact .inl ⟨rfl, rfl⟩
  | ok decoded =>
    obtain ⟨event, eventId⟩ := decoded
    simp only [conclude_db]
    rcases h.undisturbed.attempts_cases ext.sql event eventId w.db with ⟨x, hx⟩ |
      ⟨outbox, db', hok, hrun⟩
    · rw [hx]
      exact .inl ⟨rfl, (conclude_error ext env event eventId x _).1⟩
    · rw [hok]
      obtain ⟨_, eventType, data, row, db₁, now, hcom, -⟩ := committed_of_runs hrun
      refine .inr ⟨event, eventId, outbox, rfl, hrun, conclude_ok hcom.eventType_eq hdumps h.send_eq
        (fun ob hob => ?_) _⟩
      exact (published_of_runs (hob ▸ hrun)).1

/-! ### Flips -/

/-- The status of the order is `APPROVED`. -/
def Database.approved (db : Database) (orderId : ℕ) : Bool :=
  db.orders.any fun o => o.orderId = orderId && o.status.text = "APPROVED"

/-- How often the status of an order changes to `APPROVED` during some calls. -/
def flips (ext : Externals) (orderId : ℕ) : World → List (CallEnv × Message) → ℕ
  | _, [] => 0
  | w, call :: calls =>
    let w' := (handleMessage ext call.1 call.2 w).2
    (if w.db.approved orderId = false ∧ w'.db.approved orderId = true then 1 else 0) +
      flips ext orderId w' calls

/-- Where the message is a status change that is accepted and stores `APPROVED`, it says so in a
text and names one order, of another status. -/
def ApprovesOnce (ext : Externals) (db : Database) (msg : Message) : Prop :=
  ∀ event eventId data name newStatus (status : Varchar 20),
    decodeEvent ext msg.value = .ok (event, eventId) → StatusChange event data name newStatus →
    (∃ outbox db', Runs ext.sql.engine (eventTxn event eventId) db outbox db') →
    ext.sql.TextOf newStatus status → status.text = "APPROVED" →
    newStatus = .str "APPROVED" ∧ ∀ o, (db.ordersNamed ext.sql name).head? = some o →
      db.ordersNamed ext.sql name = [o] ∧ o.status.text ≠ "APPROVED"

lemma flips_append (ext : Externals) (orderId : ℕ) (w : World)
    (calls calls' : List (CallEnv × Message)) :
    flips ext orderId w (calls ++ calls') =
      flips ext orderId w calls + flips ext orderId (handleAll ext calls w) calls' := by
  induction calls generalizing w with
  | nil => exact (Nat.zero_add _).symm
  | cons call calls ih =>
    simp only [List.cons_append, flips, ih, Nat.add_assoc]
    rfl

/-- One more call. -/
lemma flips_concat (ext : Externals) (orderId : ℕ) (w : World) (calls : List (CallEnv × Message))
    (call : CallEnv × Message) :
    flips ext orderId w (calls ++ [call]) = flips ext orderId w calls +
      if (handleAll ext calls w).db.approved orderId = false ∧
        (handleAll ext (calls ++ [call]) w).db.approved orderId = true then 1 else 0 := by
  rw [flips_append, handleAll_append]
  rfl

lemma approved_iff : db.approved orderId = true ↔
    ∃ o ∈ db.orders, o.orderId = orderId ∧ o.status.text = "APPROVED" := by
  simp [Database.approved]

/-- An UPDATE makes the orders it names approved, and no other. -/
lemma approved_of_setStatus {name : Json} {status : Varchar 20} {closing : Bool} {now : ℕ}
    (h : (db.setStatus sql name status closing now).approved orderId = true) :
    db.approved orderId = true ∨
      status.text = "APPROVED" ∧ ∃ o ∈ db.ordersNamed sql name, o.orderId = orderId := by
  obtain ⟨o, ho, hid, hstatus⟩ := approved_iff.mp h
  obtain ⟨a, ha, ⟨hmem, rfl⟩ | ⟨-, rfl⟩⟩ := mem_updateByIds.mp ho
  · obtain ⟨b, hb, hba⟩ := List.mem_map.mp hmem
    exact .inr ⟨hstatus, b, hb, hba.trans hid⟩
  · exact .inl (approved_iff.mpr ⟨o, ha, hid, hstatus⟩)

lemma flip_of_statusChanged {name newStatus : Json} {status : Varchar 20} {closing : Bool}
    {now : ℕ} {o : Order} (hc : Consistent sql db)
    (hnamed : (db.ordersNamed sql name).head? = some o) (hstatus : sql.TextOf newStatus status)
    (hcond : status.text = "APPROVED" → newStatus = .str "APPROVED" ∧
      db.ordersNamed sql name = [o] ∧ o.status.text ≠ "APPROVED") (orderId : ℕ) :
    (if newStatus.isText "APPROVED" = true ∧ o.orderId = orderId then 1 else 0) =
      if db.approved orderId = false ∧
        (db.setStatus sql name status closing now).approved orderId = true then 1 else 0 := by
  refine if_congr ⟨?_, ?_⟩ rfl rfl
  · rintro ⟨hnew, rfl⟩
    rw [Json.isText_iff.mp hnew] at hstatus
    have htext : status.text = "APPROVED" :=
      SqlServer.text_of_ascii hstatus (by decide) (by decide)
    obtain ⟨-, -, hother⟩ := hcond htext
    have hmem := List.mem_of_mem_head? hnamed
    have ho : o ∈ db.orders := (List.mem_filter.mp hmem).1
    constructor
    · by_contra htrue
      obtain ⟨o', ho', hid, hstatus'⟩ := approved_iff.mp (by simpa using htrue)
      obtain rfl := hc.orderIds.eq_of_key_eq ho' ho hid
      exact hother hstatus'
    · refine approved_iff.mpr ⟨o.setStatus status closing now, ?_, rfl, htext⟩
      exact mem_updateByIds.mpr ⟨o, ho, .inl ⟨List.mem_map_of_mem hmem, rfl⟩⟩
  · rintro ⟨hbefore, hafter⟩
    rcases approved_of_setStatus hafter with htrue | ⟨htext, b, hb, hid⟩
    · rw [htrue] at hbefore
      cases hbefore
    · obtain ⟨hnew, hone, -⟩ := hcond htext
      rw [hone, List.mem_singleton] at hb
      exact ⟨Json.isText_iff.mpr hnew, hb ▸ hid⟩

/-- An accepted event publishes an order as often as it makes it approved. -/
lemma flip_of_runs (hc : Consistent ext.sql db)
    (hdec : decodeEvent ext msg.value = .ok (event, eventId)) (hcond : ApprovesOnce ext db msg)
    (hrun : Runs ext.sql.engine (eventTxn event eventId) db outbox db') (orderId : ℕ) :
    (outbox.toList.countP fun ob => toString ob.order.order.orderId = toString orderId) =
      if db.approved orderId = false ∧ db'.approved orderId = true then 1 else 0 := by
  obtain ⟨_, eventType, data, row, db₁, now, hcom, rfl⟩ := committed_of_runs hrun
  change _ = if db.approved orderId = false ∧ db₁.approved orderId = true then 1 else 0
  have hsame : ∀ db' : Database, db'.orders = db.orders →
      ¬ (db.approved orderId = false ∧ db'.approved orderId = true) := by
    rintro db' heq ⟨hfalse, htrue⟩
    rw [Database.approved, heq] at htrue
    rw [Database.approved, htrue] at hfalse
    cases hfalse
  cases hcom.processed with
  | @created _ _ _ _ _ _ _ _ order _ _ _ _ _ _ _ _ _ hclient _ haddress _ horder hitems _ =>
    refine (if_neg ?_).symm
    rintro ⟨hfalse, htrue⟩
    obtain ⟨o, ho, hid, hstatus⟩ := approved_iff.mp htrue
    have horders := congrArg (·.orders) (created_frame hclient haddress hitems)
    rcases List.mem_append.mp (horders ▸ ho) with hold | hnew
    · have hbefore : db.approved orderId = true := approved_iff.mpr ⟨o, hold, hid, hstatus⟩
      rw [hbefore] at hfalse
      cases hfalse
    · rw [List.mem_singleton.mp hnew, horder.status] at hstatus
      exact absurd hstatus (by decide)
  | @statusChanged name newStatus o status closing now' history _ type_eq hext hnew named hupdate _
      houtbox =>
    refine Eq.trans ?_ (flip_of_statusChanged hc named hupdate.status_eq (fun htext => ?_) orderId)
    · split_ifs at houtbox with happroved
      · obtain ⟨snapshot, rfl, hselect, -⟩ := houtbox
        have hid : snapshot.order.orderId = o.orderId := selectSnapshot_orderId hselect
        by_cases heq : o.orderId = orderId
        · simp [hid, happroved, heq]
        · rw [if_neg fun h => heq h.2, Option.toList_some, List.countP_singleton]
          exact if_neg fun hkey => heq (hid ▸ toString_inj (of_decide_eq_true hkey))
      · simp [houtbox, happroved]
    · obtain ⟨hstr, hone⟩ := hcond event eventId data name newStatus status hdec
        ⟨type_eq ▸ hcom.eventType_eq, hcom.data_eq, hext, hnew⟩ ⟨outbox, _, hrun⟩
        hupdate.status_eq htext
      exact ⟨hstr, hone o named⟩
  | paid _ _ _ _ hpayment => exact (if_neg (hsame _ (congrArg (·.orders) hpayment.frame))).symm
  | invoiced _ _ _ _ hinvoice => exact (if_neg (hsame _ (congrArg (·.orders) hinvoice.frame))).symm
  | unknownOrder => exact (if_neg (hsame _ rfl)).symm
  | unknownType => exact (if_neg (hsame _ rfl)).symm

/-- An accepted approval publishes the first order it names, whatever its status was. -/
lemma published_of_approval {data name : Json} {o : Order}
    (hchange : StatusChange event data name (.str "APPROVED"))
    (hnamed : (db.ordersNamed sql name).head? = some o)
    (hrun : Runs sql.engine (eventTxn event eventId) db outbox db') :
    ∃ ob, outbox = some ob ∧ ob.order.order.orderId = o.orderId := by
  obtain ⟨id, eventType, data', row, db₁, now, hcom, rfl⟩ := committed_of_runs hrun
  obtain rfl := Except.ok.inj (hchange.type_eq.symm.trans hcom.eventType_eq)
  obtain rfl := Except.ok.inj (hchange.data_eq.symm.trans hcom.data_eq)
  cases hcom.processed with
  | created type_eq => simp at type_eq
  | @statusChanged name' newStatus o' status closing now' history _ _ hext hnew named _ _ houtbox =>
    obtain rfl := Except.ok.inj (hchange.name_eq.symm.trans hext)
    obtain rfl := Except.ok.inj (hchange.newStatus_eq.symm.trans hnew)
    obtain rfl : o = o' := Option.some.inj (hnamed.symm.trans named)
    rw [if_pos (by simp)] at houtbox
    obtain ⟨snapshot, rfl, hselect, -⟩ := houtbox
    exact ⟨_, rfl, selectSnapshot_orderId hselect⟩
  | paid type_eq => simp at type_eq
  | invoiced type_eq => simp at type_eq
  | unknownOrder hext named =>
    obtain rfl := Except.ok.inj (hchange.name_eq.symm.trans hext)
    have hnone : db.ordersNamed sql name = [] := named
    simp [hnone] at hnamed
  | unknownType _ not_changed => exact absurd rfl not_changed

/-! ### Runs -/

lemma flips_count (hdumps : ∀ snapshot, ∃ value, ext.dumps snapshot = .ok value) (orderId : ℕ)
    {calls : List (CallEnv × Message)} (hc : Consistent ext.sql w.db)
    (hcalls : ∀ call ∈ calls, call.1.Flawless)
    (hcond : ∀ before call after, calls = before ++ call :: after →
      ApprovesOnce ext (handleAll ext before w).db call.2) :
    ((handleAll ext calls w).sent.countP fun m => m.accepted && m.key = toString orderId) =
      (w.sent.countP fun m => m.accepted && m.key = toString orderId) +
        flips ext orderId w calls := by
  induction calls generalizing w with
  | nil => rfl
  | cons call calls ih =>
    obtain ⟨hflawless, hrest⟩ := List.forall_mem_cons.mp hcalls
    obtain ⟨hc', -⟩ := Later.handleMessage hc call.1 call.2
    have hih := ih hc' hrest fun before call' after heq =>
      hcond (call :: before) call' after (by rw [heq]; rfl)
    have hone : ((handleMessage ext call.1 call.2 w).2.sent.countP fun m =>
        m.accepted && m.key = toString orderId) =
        (w.sent.countP fun m => m.accepted && m.key = toString orderId) +
          if w.db.approved orderId = false ∧
            (handleMessage ext call.1 call.2 w).2.db.approved orderId = true then 1 else 0 := by
      rcases hflawless.handleMessage_cases hdumps call.2 w with ⟨hdb, hsent⟩ |
        ⟨event, eventId, outbox, hdec, hrun, new, hsent, hnew⟩
      · rw [hdb, hsent, if_neg, Nat.add_zero]
        rintro ⟨hfalse, htrue⟩
        rw [htrue] at hfalse
        cases hfalse
      · rw [hsent, List.countP_append, ← flip_of_runs hc hdec (hcond [] call calls rfl) hrun orderId]
        congr 1
        have hcount := congrArg (List.countP fun p : String × Bool =>
          p.2 && p.1 = toString orderId) hnew
        simp only [List.countP_map, Function.comp_def, Bool.true_and] at hcount
        exact hcount
    rw [handleAll_cons, hih, hone, Nat.add_assoc]
    rfl

/-- Where every accepted approval names one order that is not approved, an order is published as
often as its status flips to `APPROVED`, and an event that reports the approval of an approved
order publishes nothing. -/
theorem one_notification_per_approval (ext : Externals)
    (hdumps : ∀ snapshot, ∃ value, ext.dumps snapshot = .ok value)
    (calls : List (CallEnv × Message)) (hcalls : ∀ call ∈ calls, call.1.Flawless)
    (hcond : ∀ before call after, calls = before ++ call :: after →
      ApprovesOnce ext (handleAll ext before .start).db call.2) :
    (∀ orderId, ((handleAll ext calls .start).sent.countP fun m =>
        m.accepted && m.key = toString orderId) = flips ext orderId .start calls) ∧
    ∀ before call after, calls = before ++ call :: after →
      ∀ event eventId data name, decodeEvent ext call.2.value = .ok (event, eventId) →
        StatusChange event data name (.str "APPROVED") →
        ∀ o ∈ (handleAll ext before .start).db.ordersNamed ext.sql name,
          o.status.text = "APPROVED" →
          (handleAll ext (before ++ [call]) .start).sent = (handleAll ext before .start).sent := by
  refine ⟨fun orderId => ?_, ?_⟩
  · have hcount := flips_count hdumps orderId (Consistent.empty ext.sql) hcalls hcond
    rw [hcount]
    exact Nat.zero_add _
  · rintro before call after rfl event eventId data name hdec hchange o ho hstatus
    obtain ⟨w, hw⟩ : ∃ w, w = handleAll ext before .start := ⟨_, rfl⟩
    have hlast : handleAll ext (before ++ [call]) .start = (handleMessage ext call.1 call.2 w).2 := by
      rw [handleAll_append, hw]
      rfl
    rw [hlast, ← hw]
    rcases (hcalls call (by simp)).handleMessage_cases hdumps call.2 w with ⟨-, hsent⟩ |
      ⟨event', eventId', outbox, hdec', hrun, -⟩
    · exact hsent
    · rw [hdec] at hdec'
      cases hdec'
      have hcommits := hcond before call after rfl
      rw [← hw] at hcommits ho
      obtain ⟨o', ho'⟩ : ∃ o', (w.db.ordersNamed ext.sql name).head? = some o' :=
        ⟨_, List.head?_eq_some_head (List.ne_nil_of_mem ho)⟩
      obtain ⟨hone, hother⟩ := (hcommits event eventId data name _ ⟨"APPROVED", by decide⟩ hdec hchange
        ⟨outbox, _, hrun⟩ (ext.sql.textOf_str.mpr (SqlServer.keeps_of_ascii (by decide)
          (by decide)).stored) rfl).2 o' ho'
      rw [hone, List.mem_singleton] at ho
      exact absurd (ho ▸ hstatus) hother

/-! ### An order approved twice -/

/-- Hundredths as `orjson` writes the `float` of a `Decimal`. -/
def hundredthsText (n : Int) : String :=
  toString (n / 100) ++ "." ++
    if n % 10 = 0 then toString (n % 100 / 10)
    else if n % 100 < 10 then "0" ++ toString (n % 100) else toString (n % 100)

/-- A clock reading of less than a minute, as `orjson` writes a `datetime`. -/
def Stamp.text : Stamp → String
  | .clock t => "1970-01-01T00:00:" ++ (if t < 10 then "0" else "") ++ toString t
  | .given t => toString t

/-- A snapshot as JSON text. -/
def Snapshot.json (s : Snapshot) : String :=
  let quoted (key value : String) : String := "\"" ++ key ++ "\":\"" ++ value ++ "\""
  let plain (key value : String) : String := "\"" ++ key ++ "\":" ++ value
  let braced (fields : List String) : String := "\x7b" ++ ",".intercalate fields ++ "\x7d"
  let field (f : AddressField) : String :=
    (s.order.address f).elim (plain f.column "null") (quoted f.column)
  let item (i : SnapshotItem) : String :=
    braced [quoted "sku" i.sku.text, quoted "description" i.description.text,
      plain "quantity" (toString i.quantity), plain "unit_price" (hundredthsText i.unitPrice)]
  braced ([plain "order_id" (toString s.order.orderId),
    quoted "external_order_id" s.order.externalOrderId.text, quoted "status" s.order.status.text,
    plain "total_amount" (hundredthsText s.order.totalAmount), quoted "currency" s.order.currency.text,
    quoted "order_date" s.order.orderDate.text,
    quoted "external_client_id" s.order.externalClientId.text,
    quoted "client_name" s.order.clientName.text, quoted "client_email" s.order.clientEmail.text,
    quoted "client_document" s.order.clientDocument.text] ++ AddressField.fields.map field ++
    [plain "items" ("[" ++ ",".intercalate (s.items.map item) ++ "]")])

/-- An order. -/
def pendingOrder : Json :=
  orderCreatedEvent "e1" "o1" "c1" "a1" (.str "Rua A")

/-- Its approval. -/
def approvalOf (eventId : String) : Json :=
  statusChangedEvent eventId (.str "o1") "APPROVED"

/-- The order, its approval, and the approval reported once more. -/
def approvals : List Json :=
  [pendingOrder, approvalOf "e2", approvalOf "e3"]

def approvalExternals : Externals :=
  { Externals.rendered approvals with dumps := fun s => .ok s.json.toUTF8 }

lemma decodeEvent_approvals (event : Json) {eventId : Json} (hmem : event ∈ approvals)
    (hid : event.getItem "event_id" = .ok eventId) :
    decodeEvent approvalExternals event.render.toUTF8 = .ok (event, eventId) :=
  decodeEvent_rendered (by decide) hmem hid

/-- A call on one of the messages. -/
def approvalCall (event : Json) : CallEnv × Message :=
  (.healthy, ⟨0, event.render.toUTF8⟩)

lemma flawless_healthy : CallEnv.healthy.Flawless :=
  ⟨CallEnv.undisturbed_healthy, rfl⟩

/-- The tables after some of the messages. -/
lemma handleAll_approvals (events : List (Json × Json))
    (h : ∀ e ∈ events, e.1 ∈ approvals ∧ e.1.getItem "event_id" = .ok e.2) :
    (handleAll approvalExternals (events.map fun e => approvalCall e.1) .start).db =
      Database.after events := by
  have hdb := @handleAll_db approvalExternals
    (events.map fun e => ((approvalCall e.1).1, (approvalCall e.1).2, e)) ?_ .start
  · rw [List.map_map, List.foldl_map] at hdb
    exact hdb
  · intro call hcall
    obtain ⟨e, he, rfl⟩ := List.mem_map.mp hcall
    exact decodeEvent_approvals e.1 (h e he).1 (h e he).2

lemma approvesOnce_pending (db : Database) :
    ApprovesOnce approvalExternals db (approvalCall pendingOrder).2 := by
  intro event eventId data name newStatus status hdec hchange
  have heq := (decodeEvent_approvals pendingOrder (by simp [approvals]) rfl).symm.trans hdec
  cases heq
  exact absurd (Json.str.inj (Except.ok.inj hchange.type_eq)) (by decide)

/-- The first approval meets the order pending. -/
lemma approvesOnce_first {db : Database} (h : db = Database.after [(pendingOrder, .str "e1")]) :
    ApprovesOnce approvalExternals db (approvalCall (approvalOf "e2")).2 := by
  intro event eventId data name newStatus status hdec hchange _ _ _
  have heq := (decodeEvent_approvals (approvalOf "e2") (by simp [approvals]) rfl).symm.trans hdec
  cases heq
  cases hchange.data_eq
  cases hchange.name_eq
  cases hchange.newStatus_eq
  refine ⟨rfl, fun o ho => ?_⟩
  have hnamed : (db.ordersNamed .plain (.str "o1")).length = 1 ∧
      ∀ o ∈ db.ordersNamed .plain (.str "o1"), o.status.text ≠ "APPROVED" := by
    rw [h]
    decide
  obtain ⟨o', hone⟩ := List.length_eq_one_iff.mp hnamed.1
  have ho : (db.ordersNamed .plain (.str "o1")).head? = some o := ho
  rw [hone] at ho
  cases ho
  exact ⟨hone, hnamed.2 o (List.mem_of_mem_head? (by rw [hone]; rfl))⟩

/-- The order and its first approval. -/
def firstCalls : List (CallEnv × Message) :=
  [approvalCall pendingOrder, approvalCall (approvalOf "e2")]

lemma flawless_firstCalls : ∀ call ∈ firstCalls, call.1.Flawless := by
  simp [firstCalls, approvalCall, flawless_healthy]

lemma pending_db : (handleAll approvalExternals [approvalCall pendingOrder] .start).db =
    Database.after [(pendingOrder, .str "e1")] :=
  handleAll_approvals [(pendingOrder, .str "e1")] (by simp [approvals]; rfl)

lemma firstCalls_db : (handleAll approvalExternals firstCalls .start).db =
    Database.after [(pendingOrder, .str "e1"), (approvalOf "e2", .str "e2")] :=
  handleAll_approvals [(pendingOrder, .str "e1"), (approvalOf "e2", .str "e2")]
    (by simp [approvals]; exact ⟨rfl, rfl⟩)

lemma approvesOnce_firstCalls : ∀ before call after, firstCalls = before ++ call :: after →
    ApprovesOnce approvalExternals (handleAll approvalExternals before .start).db call.2 := by
  intro before call after heq
  match before, heq with
  | [], heq =>
    obtain ⟨rfl, -⟩ := List.cons.inj heq
    exact approvesOnce_pending _
  | [c], heq =>
    obtain ⟨rfl, hrest⟩ := List.cons.inj heq
    obtain ⟨rfl, -⟩ := List.cons.inj hrest
    exact approvesOnce_first pending_db
  | _ :: _ :: before, heq => simp [firstCalls] at heq

lemma firstCalls_approved :
    (handleAll approvalExternals firstCalls .start).db.approved 1 = true := by
  rw [firstCalls_db]
  decide

lemma flips_firstCalls : flips approvalExternals 1 .start firstCalls = 1 := by
  have hsplit : firstCalls = [approvalCall pendingOrder] ++ [approvalCall (approvalOf "e2")] := rfl
  have hpending :
      (handleAll approvalExternals [approvalCall pendingOrder] .start).db.approved 1 = false := by
    rw [pending_db]
    decide
  have hfirst : flips approvalExternals 1 .start [approvalCall pendingOrder] = 0 := by
    have h := flips_concat approvalExternals 1 .start [] (approvalCall pendingOrder)
    rw [List.nil_append, hpending] at h
    rw [h, if_neg fun hflip => Bool.false_ne_true hflip.2]
    rfl
  rw [hsplit, flips_concat, ← hsplit, hfirst, hpending, firstCalls_approved]
  rfl

lemma dumps_approvals (snapshot : Snapshot) :
    ∃ value, approvalExternals.dumps snapshot = .ok value :=
  ⟨_, rfl⟩

/-- One approval, one publication. -/
theorem one_notification_first :
    flips approvalExternals 1 .start firstCalls = 1 ∧
      ((handleAll approvalExternals firstCalls .start).sent.countP fun m =>
        m.accepted && m.key = toString 1) = 1 :=
  ⟨flips_firstCalls, ((one_notification_per_approval approvalExternals dumps_approvals firstCalls
    flawless_firstCalls approvesOnce_firstCalls).1 1).trans flips_firstCalls⟩

/-- The approval is reported once more. -/
def repeatedCalls : List (CallEnv × Message) :=
  firstCalls ++ [approvalCall (approvalOf "e3")]

lemma repeatedCalls_db : (handleAll approvalExternals repeatedCalls .start).db =
    Database.after [(pendingOrder, .str "e1"), (approvalOf "e2", .str "e2"),
      (approvalOf "e3", .str "e3")] :=
  handleAll_approvals [(pendingOrder, .str "e1"), (approvalOf "e2", .str "e2"),
    (approvalOf "e3", .str "e3")] (by simp [approvals]; exact ⟨rfl, rfl, rfl⟩)

/-- The order is approved already. -/
lemma flips_repeatedCalls : flips approvalExternals 1 .start repeatedCalls = 1 := by
  rw [repeatedCalls, flips_concat, flips_firstCalls, firstCalls_approved]
  simp

/-- A flawless call on the second report, where it commits, publishes the order once more. -/
lemma sent_of_repeated {call : CallEnv × Message} (hflawless : call.1.Flawless)
    (hread : decodeEvent approvalExternals call.2.value = .ok (approvalOf "e3", .str "e3"))
    (hdb : w.db = Database.after [(pendingOrder, .str "e1"), (approvalOf "e2", .str "e2")])
    (hdb' : (handleMessage approvalExternals call.1 call.2 w).2.db =
      Database.after [(pendingOrder, .str "e1"), (approvalOf "e2", .str "e2"),
        (approvalOf "e3", .str "e3")]) :
    ((handleMessage approvalExternals call.1 call.2 w).2.sent.countP fun m =>
      m.accepted && m.key = toString 1) =
      (w.sent.countP fun m => m.accepted && m.key = toString 1) + 1 := by
  rcases hflawless.handleMessage_cases dumps_approvals call.2 w with ⟨hsame, -⟩ |
    ⟨event, eventId, outbox, hdec, hrun, new, hsent, hnew⟩
  · rw [hsame, hdb] at hdb'
    exact absurd (congrArg (·.processedEvents.length) hdb') (by decide)
  · rw [hread] at hdec
    cases hdec
    obtain ⟨o, ho, hid⟩ : ∃ o ∈ (w.db.ordersNamed .plain (.str "o1")).head?, o.orderId = 1 := by
      rw [hdb]
      decide
    obtain ⟨ob, rfl, hob⟩ := published_of_approval ⟨rfl, rfl, rfl, rfl⟩ ho hrun
    obtain ⟨m, rfl⟩ : ∃ m, new = [m] := List.length_eq_one_iff.mp (by
      simpa using congrArg List.length hnew)
    simp only [List.map_cons, List.map_nil, Option.toList_some, List.cons.injEq, Prod.mk.injEq,
      and_true] at hnew
    rw [hsent, List.countP_append, List.countP_singleton, hnew.1, hnew.2, hob, hid]
    rfl

lemma sent_repeatedCalls :
    ((handleAll approvalExternals repeatedCalls .start).sent.countP fun m =>
      m.accepted && m.key = toString 1) =
      ((handleAll approvalExternals firstCalls .start).sent.countP fun m =>
        m.accepted && m.key = toString 1) + 1 := by
  have hdb := repeatedCalls_db
  rw [repeatedCalls, handleAll_append, handleAll_cons, handleAll_nil] at hdb ⊢
  exact sent_of_repeated flawless_healthy
    (decodeEvent_approvals (approvalOf "e3") (by simp [approvals]) rfl) firstCalls_db hdb

lemma flawless_repeatedCalls : ∀ call ∈ repeatedCalls, call.1.Flawless := by
  simp [repeatedCalls, firstCalls, approvalCall, flawless_healthy]

lemma repeatedCalls_pairwise : repeatedCalls.Pairwise fun a b => ∀ event eventId event' eventId',
    decodeEvent approvalExternals a.2.value = .ok (event, eventId) →
    decodeEvent approvalExternals b.2.value = .ok (event', eventId') → eventId ≠ eventId' := by
  have hdec₁ := decodeEvent_approvals pendingOrder (by simp [approvals]) rfl
  have hdec₂ := decodeEvent_approvals (approvalOf "e2") (by simp [approvals]) rfl
  have hdec₃ := decodeEvent_approvals (approvalOf "e3") (by simp [approvals]) rfl
  simp only [repeatedCalls, firstCalls, approvalCall, List.cons_append, List.nil_append,
    List.pairwise_cons, List.mem_cons, List.not_mem_nil, or_false, forall_eq_or_imp, forall_eq,
    hdec₁, hdec₂, hdec₃, Except.ok.injEq, Prod.mk.injEq, and_imp, IsEmpty.forall_iff,
    implies_true, List.Pairwise.nil, and_true]
  refine ⟨⟨?_, ?_⟩, ?_⟩
  all_goals
    rintro _ _ _ _ - rfl - rfl
    simp

/-- The approval that is reported once more, under an id of its own, is published once more. -/
theorem notification_repeated :
    ¬ ∀ (ext : Externals), (∀ snapshot, ∃ value, ext.dumps snapshot = .ok value) →
      ∀ calls : List (CallEnv × Message), (∀ call ∈ calls, call.1.Flawless) →
      (calls.Pairwise fun a b => ∀ event eventId event' eventId',
        decodeEvent ext a.2.value = .ok (event, eventId) →
        decodeEvent ext b.2.value = .ok (event', eventId') → eventId ≠ eventId') →
      ∀ orderId, ((handleAll ext calls .start).sent.countP fun m =>
        m.accepted && m.key = toString orderId) = flips ext orderId .start calls := by
  intro h
  have hcount := flips_count dumps_approvals 1 (Consistent.empty _) flawless_firstCalls
    approvesOnce_firstCalls
  have hall := h approvalExternals dumps_approvals repeatedCalls flawless_repeatedCalls
    repeatedCalls_pairwise 1
  rw [sent_repeatedCalls, hcount, flips_firstCalls, flips_repeatedCalls] at hall
  exact absurd hall (by decide)

end EventPipeline

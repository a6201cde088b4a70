import EventPipeline.Fates

/-!
# What is taken for a replay

`claim_event` takes every integrity error of its INSERT for a replay. The ledger has a primary key
and two NOT NULL columns, so an event without an id or a type is reported as a duplicate although
nobody has processed it, and one whose type does not fit its column is refused although its id is in
the ledger. The key is that of the stored text, so an event is a duplicate of one with another id
that is stored as the same text. Where both columns take their values, and what is stored of the id is
in the ledger exactly if the id is, a message is a duplicate exactly when its id was committed before
(`duplicate_iff`).
-/

namespace EventPipeline

open Transaction

variable {ext : Externals} {sql : SqlServer} {db : Database} {event eventId eventType data : Json}
  {msg : Message} {env : CallEnv} {w : World}

/-- A VARCHAR(n) column holds the value as a text. -/
def Stored (sql : SqlServer) (n : ℕ) (p : Json) : Prop :=
  ∃ v : Varchar n, sql.TextOf p v

/-- A row with the id of the event is in the ledger. -/
def Known (sql : SqlServer) (eventId : Json) (db : Database) : Prop :=
  ∃ e ∈ db.processedEvents, sql.compare "event_id" eventId e.eventId.text = .ok true

/-- The primary key of the ledger is taken by a row with what the column stores of the id. -/
def Taken (sql : SqlServer) (eventId : Json) (db : Database) : Prop :=
  ∃ id : Varchar 100, sql.TextOf eventId id ∧
    ∃ e ∈ db.processedEvents, sql.same id.text e.eventId.text = true

/-- `handle_message` reports the message as a duplicate and changes nothing. -/
def ReportedDuplicate (ext : Externals) (env : CallEnv) (msg : Message) (w : World) : Prop :=
  (∃ eventType, (handleMessage ext env msg w).2.counts = w.counts ++ [⟨eventType, .duplicate⟩]) ∧
    (handleMessage ext env msg w).2.db = w.db

/-! ### The claim -/

/-- A value is NULL, is stored, or is refused before any constraint is looked at. -/
lemma varchar_cases (sql : SqlServer) (n : ℕ) (column : String) (p : Json) :
    p = .null ∨ (p.bindable = true ∧ ∃ v, sql.TextOf p v ∧ sql.varchar n column p = .ok (some v)) ∨
      (p ≠ .null ∧ ¬ Stored sql n p ∧
        (p.bindable = false ∨ ∃ f, sql.varchar n column p = .error f)) := by
  cases hscalar : p.scalar with
  | none =>
    have hnot : ¬ Stored sql n p := by
      rintro ⟨v, s, hs, -⟩
      rw [hscalar] at hs
      cases hs
    cases p with
    | null => exact .inl rfl
    | bool b => cases hscalar
    | num n => cases hscalar
    | str s => cases hscalar
    | arr items => exact .inr (.inr ⟨by simp, hnot, .inl rfl⟩)
    | obj fields => exact .inr (.inr ⟨by simp, hnot, .inl rfl⟩)
  | some s =>
    have hbind : p.bindable = true := by
      cases p <;> first | rfl | cases hscalar
    have hnull : p ≠ .null := by
      rintro rfl
      cases hscalar
    cases hv : sql.varchar n column p with
    | error f =>
      refine .inr (.inr ⟨hnull, ?_, .inr ⟨f, rfl⟩⟩)
      rintro ⟨v, hv'⟩
      rw [sql.varchar_eq_ok.mpr (.inr ⟨v, rfl, hv'⟩)] at hv
      cases hv
    | ok v =>
      obtain ⟨hnone, -⟩ | ⟨v, rfl, htext⟩ := sql.varchar_eq_ok.mp hv
      · rw [hscalar] at hnone
        cases hnone
      · exact .inr (.inl ⟨hbind, v, htext, rfl⟩)

/-- Both columns take their values, and one of the constraints is violated. -/
lemma replayed_iff : db.shop.replayed sql eventId eventType = true ↔
    (eventId = .null ∨ Stored sql 100 eventId) ∧ (eventType = .null ∨ Stored sql 50 eventType) ∧
      (eventId = .null ∨ eventType = .null ∨ Taken sql eventId db) := by
  have hnull : ∀ {n : ℕ} {column : String}, sql.varchar n column .null = .ok none := rfl
  have hbindable : Json.bindable .null = true := rfl
  have htaken : ∀ id : Varchar 100, sql.TextOf eventId id →
      ((db.shop.ledger.any fun e => sql.same id.text e.eventId.text) = true ↔
        Taken sql eventId db) := by
    intro id hid
    simp only [Database.shop, List.any_map, List.any_eq_true, Function.comp_apply]
    constructor
    · rintro ⟨e, he, hsame⟩
      exact ⟨id, hid, e, he, hsame⟩
    · rintro ⟨id', hid', e, he, hsame⟩
      rw [← sql.textOf_unique hid hid'] at hsame
      exact ⟨e, he, hsame⟩
  have hnotNull : ∀ {n : ℕ} {p : Json} {v : Varchar n}, sql.TextOf p v → p ≠ .null := by
    rintro n p v ⟨s, hs, -⟩ rfl
    cases hs
  simp only [Shop.replayed, List.all_cons, List.all_nil, Bool.and_true, Bool.and_eq_true]
  obtain rfl | ⟨hbind, id, hid, hcolumn⟩ | ⟨hne, hnot, hrefused⟩ :=
    varchar_cases sql 100 "event_id" eventId
  · obtain rfl | ⟨hbind', type, htype, hcolumn'⟩ | ⟨hne', hnot', hrefused'⟩ :=
      varchar_cases sql 50 "event_type" eventType
    · simp [hbindable, hnull]
    · simp [hbindable, hnull, hbind', hcolumn', show Stored sql 50 eventType from ⟨type, htype⟩]
    · rcases hrefused' with hrefused' | ⟨f, hrefused'⟩ <;> simp [hrefused', hne', hnot']
  · obtain rfl | ⟨hbind', type, htype, hcolumn'⟩ | ⟨hne', hnot', hrefused'⟩ :=
      varchar_cases sql 50 "event_type" eventType
    · simp [hbindable, hnull, hbind, hcolumn, show Stored sql 100 eventId from ⟨id, hid⟩]
    · simp only [hbind, hbind', hcolumn, hcolumn', htaken id hid, hnotNull hid, hnotNull htype,
        show Stored sql 100 eventId from ⟨id, hid⟩, show Stored sql 50 eventType from ⟨type, htype⟩,
        and_self, true_and, false_or]
    · rcases hrefused' with hrefused' | ⟨f, hrefused'⟩ <;> simp [hrefused', hne', hnot']
  · rcases hrefused with hrefused | ⟨f, hrefused⟩ <;> simp [hrefused, hne, hnot]

/-! ### One call -/

/-- Of the clauses of `handle_message`, only the one of `DuplicateEvent` counts a duplicate. -/
lemma conclude_duplicate (ext : Externals) (env : CallEnv) (eventId : Json)
    (htype : event.getItem "event_type" = .ok eventType) (result : Except Exn (Option Outbox))
    (w : World) :
    (∃ type, (conclude ext env event eventId result w).2.counts =
      w.counts ++ [⟨type, .duplicate⟩]) ↔ ∃ id, result = .error (.duplicateEvent id) := by
  have hone : ∀ {type : Json} {outcome : Outcome}, outcome ≠ .duplicate →
      ¬ ∃ type', w.counts ++ [⟨type, outcome⟩] = w.counts ++ [⟨type', .duplicate⟩] := by
    rintro type outcome hne ⟨type', heq⟩
    cases List.append_cancel_left heq
    exact hne rfl
  cases result with
  | error x =>
    cases x with
    | duplicateEvent id =>
      exact iff_of_true ⟨eventType, by simp [conclude, World.countEvent, htype, World.count]⟩
        ⟨id, rfl⟩
    | sql e =>
      refine iff_of_false ?_ (by simp)
      simp only [conclude, World.countEvent, htype]
      split_ifs
      · exact hone (by decide)
      · exact hone (by decide)
    | python e => exact iff_of_false (hone (by decide)) (by simp)
  | ok outbox =>
    refine iff_of_false ?_ (by simp)
    -- the first count is that of the success, whatever the publication adds
    have hsuccess : ∃ more, (conclude ext env event eventId (.ok outbox) w).2.counts =
        w.counts ++ ⟨eventType, .success⟩ :: more := by
      simp only [conclude, World.countEvent, htype]
      split
      · split_ifs
        · rename_i o _
          rcases World.publish_cases ext env eventId (w.count eventType .success) o.order with
            ⟨_, -, h⟩ | ⟨_, -, -, h⟩ | ⟨_, _, -, -, h⟩
          · exact ⟨[_], (congrArg (·.counts) h).trans (List.append_assoc _ _ _)⟩
          · exact ⟨[], congrArg (·.counts) h⟩
          · exact ⟨[_], (congrArg (·.counts) h).trans (List.append_assoc _ _ _)⟩
        · exact ⟨[], rfl⟩
      · exact ⟨[], rfl⟩
    obtain ⟨more, hmore⟩ := hsuccess
    rintro ⟨type, heq⟩
    rw [hmore] at heq
    cases List.append_cancel_left heq

/-- Where nothing goes wrong, the constraints of the ledger decide what is a duplicate. -/
lemma reportedDuplicate_iff (hu : env.Undisturbed)
    (hdec : decodeEvent ext msg.value = .ok (event, eventId))
    (htype : event.getItem "event_type" = .ok eventType)
    (hdata : event.getItem "data" = .ok data) :
    ReportedDuplicate ext env msg w ↔ w.db.shop.replayed ext.sql eventId eventType = true := by
  obtain ⟨j, hj⟩ := hu.attempts_eq ext.sql event eventId w.db
  obtain ⟨t, ht⟩ := (hu j).executed 0
  have hhandle : handleMessage ext env msg w =
      conclude ext env event eventId (runInTxn ext.sql (env.attempts j) event eventId w.db).1
        { w with db := (runInTxn ext.sql (env.attempts j) event eventId w.db).2 } := by
    simp only [handleMessage, hdec, hj]
  have hcounts := conclude_duplicate ext env eventId htype
    (runInTxn ext.sql (env.attempts j) event eventId w.db).1
    { w with db := (runInTxn ext.sql (env.attempts j) event eventId w.db).2 }
  rw [← hhandle] at hcounts
  have hdb := handleMessage_db hdec env w
  rw [hj] at hdb
  unfold ReportedDuplicate
  rw [hcounts, hdb]
  simp only [runInTxn, (hu j).begin_eq, (hu j).commit_eq]
  cases hrun : (eventTxn event eventId).run ext.sql.engine (env.attempts j).statement 0 w.db with
  | error x =>
    have hreplay := replay_of_run (decodeEvent_eventId hdec) htype hdata ht hrun
    simp only [Except.error.injEq, and_true]
    exact hreplay
  | ok result =>
    have hclaimed := claimed_of_run (decodeEvent_eventId hdec) htype hdata ht hrun
    simp [hclaimed]

/-- The columns of the ledger take what the event carries, and its primary key tells the id of the
event: a null id or type is no violation of the key, a value that is refused hides one, and what is
stored of the id is in the ledger exactly if the id is. -/
structure TellsReplays (sql : SqlServer) (eventId eventType : Json) (db : Database) : Prop where
  idGiven : eventId = .null → eventType ≠ .null ∧ ¬ Stored sql 50 eventType
  typeGiven : eventType = .null → Stored sql 100 eventId → Known sql eventId db
  known : Known sql eventId db →
    Stored sql 100 eventId ∧ (eventType = .null ∨ Stored sql 50 eventType ∧ Taken sql eventId db)
  taken : Stored sql 50 eventType → Taken sql eventId db → Known sql eventId db

/-- Where nothing goes wrong, a message is reported as a duplicate exactly when its id was in the
ledger before, if and only if the ledger tells replays by what it stores. -/
theorem duplicate_iff (ext : Externals) (env : CallEnv) (msg : Message) (w : World)
    (hu : env.Undisturbed) (hdec : decodeEvent ext msg.value = .ok (event, eventId))
    (htype : event.getItem "event_type" = .ok eventType)
    (hdata : event.getItem "data" = .ok data) :
    (ReportedDuplicate ext env msg w ↔ Known ext.sql eventId w.db) ↔
      TellsReplays ext.sql eventId eventType w.db := by
  have hstored : Taken ext.sql eventId w.db → Stored ext.sql 100 eventId :=
    fun ⟨id, hid, _⟩ => ⟨id, hid⟩
  have hnull : ∀ {n : ℕ}, ¬ Stored ext.sql n .null := by
    rintro n ⟨v, s, hs, -⟩
    cases hs
  rw [reportedDuplicate_iff hu hdec htype hdata, replayed_iff]
  by_cases hid : eventId = .null
  · -- a null id is neither known nor stored
    subst hid
    have hknown : ¬ Known ext.sql .null w.db := by
      rintro ⟨e, -, he⟩
      cases he
    have htaken : ¬ Taken ext.sql .null w.db := fun h => hnull (hstored h)
    simp only [hknown, true_or, true_and, and_true, iff_false, not_or]
    exact ⟨fun h => ⟨fun _ => h, fun _ h' => (hnull h').elim, fun h' => (hknown h').elim,
      fun _ h' => (htaken h').elim⟩, fun h => h.idGiven rfl⟩
  · simp only [hid, false_or]
    by_cases hnone : eventType = .null
    · subst hnone
      simp only [true_or, and_true]
      exact ⟨fun h => ⟨fun h' => (hid h').elim, fun _ => h.mp, fun h' => ⟨h.mpr h', .inl rfl⟩,
        fun h' => (hnull h').elim⟩, fun h => ⟨h.typeGiven rfl, fun h' => (h.known h').1⟩⟩
    · simp only [hnone, false_or]
      constructor
      · intro h
        exact ⟨fun h' => (hid h').elim, fun h' => (hnone h').elim,
          fun h' => ⟨(h.mpr h').1, .inr (h.mpr h').2⟩,
          fun htype htaken => h.mp ⟨hstored htaken, htype, htaken⟩⟩
      · intro h
        refine ⟨fun h' => h.taken h'.2.1 h'.2.2, fun h' => ?_⟩
        obtain ⟨hid', htype' | htype'⟩ := h.known h'
        · exact (hnone htype').elim
        · exact ⟨hid', htype'⟩

/-- The message of the sample order, when it comes again, is a duplicate of itself. -/
theorem duplicate_iff_sample :
    ∃ w : World, w = (handleMessage sampleExternals .healthy sampleMessage .start).2 ∧
      Known .plain (.str "e1") w.db ∧ ReportedDuplicate sampleExternals .healthy sampleMessage w := by
  obtain ⟨w, hw⟩ : ∃ w, w = (handleMessage sampleExternals .healthy sampleMessage .start).2 :=
    ⟨_, rfl⟩
  have hdb : w.db = (runAttempts .plain CallEnv.healthy.attempts sampleOrder (.str "e1")
      .empty).2 := by
    rw [hw]
    exact handleMessage_db decodeEvent_sample .healthy .start
  obtain ⟨e, he, hid⟩ : ∃ e ∈ w.db.processedEvents, e.eventId.text = "e1" := by
    rw [hdb]
    decide
  have hknown : Known .plain (.str "e1") w.db :=
    ⟨e, he, by rw [hid, SqlServer.compare_str, SqlServer.same_refl]⟩
  have hkeeps : SqlServer.plain.Keeps 100 "e1" :=
    SqlServer.keeps_of_ascii (by decide) (by decide)
  have htext : SqlServer.plain.TextOf (.str "e1") (⟨"e1", hkeeps.2⟩ : Varchar 100) :=
    SqlServer.textOf_str _ |>.mpr hkeeps.stored
  have htaken : Taken .plain (.str "e1") w.db :=
    ⟨_, htext, e, he, by rw [hid, SqlServer.same_refl]⟩
  have htype : Stored .plain 50 (.str "ORDER_CREATED") :=
    ⟨_, SqlServer.textOf_str _ |>.mpr (SqlServer.stored_of_ascii (by decide) (by decide))⟩
  refine ⟨w, hw, hknown, (duplicate_iff sampleExternals .healthy sampleMessage w
    CallEnv.undisturbed_healthy decodeEvent_sample rfl rfl).mpr ?_ |>.mpr hknown⟩
  exact ⟨nofun, nofun, fun _ => ⟨⟨_, htext⟩, .inr ⟨htype, htaken⟩⟩, fun _ _ => hknown⟩

def anonymousText : String :=
  "\x7b\"event_id\":null,\"event_type\":\"ORDER_CREATED\",\"data\":\x7b\x7d\x7d"

/-- An event whose id is null. -/
def anonymousEvent : Json :=
  .obj [("event_id", .null), ("event_type", .str "ORDER_CREATED"), ("data", .obj [])]

/-- Before any event was processed, an event without an id is reported as a duplicate. -/
theorem duplicate_of_nobody :
    ReportedDuplicate (.reading [(anonymousText, anonymousEvent)]) .healthy
        ⟨0, anonymousText.toUTF8⟩ .start ∧ ¬ Known .plain .null World.start.db := by
  have hdec : decodeEvent (.reading [(anonymousText, anonymousEvent)]) anonymousText.toUTF8 =
      .ok (anonymousEvent, .null) := decodeEvent_reading lookup_head rfl
  have htype : Stored .plain 50 (.str "ORDER_CREATED") :=
    ⟨_, SqlServer.textOf_str _ |>.mpr (SqlServer.stored_of_ascii (by decide) (by decide))⟩
  refine ⟨(reportedDuplicate_iff CallEnv.undisturbed_healthy hdec rfl rfl).mpr
    (replayed_iff.mpr ⟨.inl rfl, .inr htype, .inl rfl⟩), ?_⟩
  rintro ⟨e, he, -⟩
  cases he

end EventPipeline

import EventPipeline.Flips
import EventPipeline.Naming

/-!
# Independent orders

The picture of the database is its tables up to surrogate keys and clock readings, and what a
message does to it, how the message ends and what it publishes depend on the picture alone. With
rows hidden that the server tells from every id of the event, the message does the same to the
others (`Picture.deliver_hide`, `Picture.notice_hide`), and it leaves the rows its event is not
about as they are (`Picture.deliver_unseen`). Events that are `Apart` and `Comparable` are told from
each other in this sense.
-/

namespace EventPipeline

open Transaction

variable {ext : Externals} {sql : SqlServer} {db db' : Database} {event eventId : Json}
  {msg : Message} {env : CallEnv} {w : World} {outbox : Option Outbox} {s s' : Shop}
  {F : Footprint}

/-! ### One message -/

/-- The tables up to surrogate keys and clock readings. -/
structure Picture where
  shop : Shop
  versions : List (Varchar 64 × Option ℕ)

def Database.picture (db : Database) : Picture :=
  ⟨db.shop, db.versions⟩

/-- What a message does to the picture. -/
def Picture.deliver (ext : Externals) (msg : Message) (p : Picture) : Picture :=
  match decodeEvent ext msg.value with
  | .error _ => p
  | .ok (event, eventId) =>
    match Shop.event ext.sql event eventId p.shop with
    | none => p
    | some s => ⟨s, p.versions ++ Shop.newVersions p.shop s⟩

/-- What is noticed of a message outside the tables: how its event ends, and what it publishes. -/
def Picture.notice (ext : Externals) (msg : Message) (p : Picture) : Fate × Option SnapshotInfo :=
  match decodeEvent ext msg.value with
  | .error _ => (.rejected, none)
  | .ok (event, eventId) => (p.shop.fate ext.sql event eventId,
      (Shop.event ext.sql event eventId p.shop).bind (Shop.announced ext.sql event p.shop))

/-- The snapshot `handle_message` publishes, if it does. -/
def published (ext : Externals) (env : CallEnv) (msg : Message) (db : Database) :
    Option Snapshot :=
  match decodeEvent ext msg.value with
  | .error _ => none
  | .ok (event, eventId) =>
    match (runAttempts ext.sql env.attempts event eventId db).1 with
    | .ok (some ob) => if ob.eventType = "ORDER_APPROVED" then some ob.order else none
    | _ => none

namespace CallEnv.Undisturbed

lemma picture_eq (hu : env.Undisturbed) (hc : Consistent ext.sql w.db) (hplain : msg.Plain ext) :
    (handleMessage ext env msg w).2.db.picture = w.db.picture.deliver ext msg := by
  unfold Picture.deliver
  cases hdec : decodeEvent ext msg.value with
  | error e => simp [handleMessage, hdec, World.malformed, World.log, World.count]
  | ok decoded =>
    obtain ⟨event, eventId⟩ := decoded
    have hp : PlainEvent event := hplain event eventId hdec
    obtain ⟨j, hj⟩ := hu.attempts_eq ext.sql event eventId w.db
    rw [handleMessage_db hdec, hj]
    cases hs : Shop.event ext.sql event eventId w.db.shop with
    | none =>
      obtain ⟨x, hx⟩ := (hu j).refused hc hp hs
      simp only [Database.picture, hs, hx]
    | some s =>
      obtain ⟨outbox, db', hattempt, rfl⟩ := (hu j).accepted hc hp hs
      simp only [Database.picture, hs, hattempt, versions_of_runs hc (runInTxn_ok hattempt)]

lemma notice_eq (hu : env.Undisturbed) (hc : Consistent ext.sql db) (hplain : msg.Plain ext) :
    (fate ext env msg db, (published ext env msg db).map Snapshot.info) =
      db.picture.notice ext msg := by
  rw [hu.fate_eq hc hplain]
  unfold Picture.notice published
  cases hdec : decodeEvent ext msg.value with
  | error e => rfl
  | ok decoded =>
    obtain ⟨event, eventId⟩ := decoded
    have hp : PlainEvent event := hplain event eventId hdec
    obtain ⟨j, hj⟩ := hu.attempts_eq ext.sql event eventId db
    refine Prod.ext rfl ?_
    simp only [hj, Database.picture]
    cases hs : Shop.event ext.sql event eventId db.shop with
    | none =>
      obtain ⟨x, hx⟩ := (hu j).refused hc hp hs
      simp [hx]
    | some s =>
      obtain ⟨outbox, db', hattempt, rfl⟩ := (hu j).accepted hc hp hs
      have hrun := runInTxn_ok hattempt
      simp only [hattempt, Option.bind_some, ← announced_of_runs (hc.step hrun) hrun]
      cases outbox with
      | none => rfl
      | some ob => simp [(published_of_runs hrun).1]

end CallEnv.Undisturbed

/-! ### Hidden rows -/

/-- The orders an event names belong to no client of a set. -/
def Shop.ClientsClear (sql : SqlServer) (F : Footprint) (event : Json) (s : Shop) : Prop :=
  ∀ v, idOf event .order = some v → ∀ o ∈ s.orders, sql.Names v o.ext.text →
    ∀ c, o.client = some c → F .client c.text = false

namespace Shop

lemma created_hide (s s' : Shop) : created (s.hide F) (s'.hide F) =
    (created s s').filter fun o => !F .order o.ext.text := by
  simp only [created, hide, List.filter_filter]
  refine List.filter_congr fun o _ => ?_
  cases ho : F .order o.ext.text with
  | true => simp
  | false =>
    rw [any_filter_of fun o' _ ho' => ?_]
    · simp
    · have hne : o'.ext ≠ o.ext := by
        rintro heq
        simp [heq, ho] at ho'
      simpa using hne

lemma version_hide {o : OrderInfo} (h : ∀ c, o.client = some c → F .client c.text = false) :
    (s.hide F).version o = s.version o := by
  simp only [version, addressOf_hide h]

lemma newVersions_hide (h : ∀ o ∈ created s s', ∀ c, o.client = some c → F .client c.text = false) :
    newVersions (s.hide F) (s'.hide F) =
      (newVersions s s').filter fun r => !F .order r.1.text := by
  simp only [newVersions, created_hide, List.filter_map, Function.comp_def]
  refine List.map_congr_left fun o ho => ?_
  rw [version_hide (h o (List.mem_filter.mp ho).1)]

lemma replayed_hide {eventId eventType : Json} (h : sql.Clear eventId (F .event)) :
    (s.hide F).replayed sql eventId eventType = s.replayed sql eventId eventType := by
  unfold replayed
  cases hid : sql.varchar 100 "event_id" eventId with
  | error e => rfl
  | ok id =>
    cases id with
    | none => cases sql.varchar 50 "event_type" eventType <;> rfl
    | some id =>
      have htext : sql.TextOf eventId id := by
        rcases (sql.varchar_eq_ok).mp hid with ⟨-, hnone⟩ | ⟨w, hw, htext⟩
        · cases hnone
        · exact Option.some.inj hw ▸ htext
      have hany : (s.hide F).ledger.any (fun e => sql.same id.text e.eventId.text) =
          s.ledger.any fun e => sql.same id.text e.eventId.text :=
        any_filter_of fun e _ he => h.same htext he
      cases sql.varchar 50 "event_type" eventType with
      | error e => rfl
      | ok type =>
        cases type with
        | none => rfl
        | some type => simp only [hany]

lemma orderNamed_hide {v : Json} (h : sql.Clear v (F .order)) :
    ((s.hide F).orders.any fun o => holds (orderNamed sql v o)) =
      s.orders.any fun o => holds (orderNamed sql v o) := by
  refine any_filter_of fun o _ ho => ?_
  have hfalse : orderNamed sql v o = .ok false := h.compare ho
  rw [hfalse]
  rfl

/-- How an event ends does not depend on the hidden rows. -/
lemma fate_hide (hid : event.getItem "event_id" = .ok eventId)
    (h : ∀ kind v, idOf event kind = some v → sql.Clear v (F kind)) :
    (s.hide F).fate sql event eventId = s.fate sql event eventId := by
  have hunknown : unknownOrder (fun v => (s.hide F).orders.any fun o => holds (orderNamed sql v o))
      event = unknownOrder (fun v => s.orders.any fun o => holds (orderNamed sql v o)) event := by
    unfold unknownOrder
    cases hv : idOf event .order with
    | none => rfl
    | some v => simp only [Option.any_some, orderNamed_hide (h .order v hv)]
  unfold fate
  rw [event_hide hid h, hunknown]
  cases Shop.event sql event eventId s with
  | some s' => rfl
  | none =>
    have hclear : sql.Clear eventId (F .event) :=
      h .event eventId (by simp [idOf, hid, Except.toOption])
    simp only [Option.map_none, replayed_hide hclear]

/-- A snapshot of an order that is not hidden, nor its client. -/
lemma snapshot_hide {key : Varchar 64} (hkey : F .order key.text = false)
    (hclient : ∀ o ∈ s.orders, o.ext = key → ∀ c, o.client = some c → F .client c.text = false) :
    (s.hide F).snapshot key = s.snapshot key := by
  have horder : (s.hide F).orders.find? (·.ext = key) = s.orders.find? (·.ext = key) := by
    simp only [hide, List.find?_filter]
    refine congrArg (List.find? · s.orders) (funext fun o => ?_)
    by_cases ho : o.ext = key
    · simp [ho, hkey]
    · simp [ho]
  have hitems : (s.hide F).items.filter (·.order = some key) =
      s.items.filter (·.order = some key) := by
    simp only [hide, List.filter_filter]
    refine List.filter_congr fun i _ => ?_
    by_cases hi : i.order = some key
    · simp [hi, hkey]
    · simp [hi]
  unfold snapshot
  rw [horder, hitems]
  refine Option.bind_congr fun o ho => ?_
  have hclients : ((s.hide F).clients.find? fun c => o.client = some c.ext) =
      s.clients.find? fun c => o.client = some c.ext := by
    simp only [hide, List.find?_filter]
    refine congrArg (List.find? · s.clients) (funext fun c => ?_)
    by_cases hc : o.client = some c.ext
    · have hext : o.ext = key := by simpa using List.find?_some ho
      simp [hc, hclient o (List.mem_of_find?_eq_some ho) hext c.ext hc]
    · simp [hc]
  rw [hclients]

/-- What an event publishes does not depend on the hidden rows. -/
lemma announced_hide (hs : Shop.event sql event eventId s = some s')
    (h : ∀ kind v, idOf event kind = some v → sql.Clear v (F kind))
    (hclients : isApproval event = true → s.ClientsClear sql F event) :
    announced sql event (s.hide F) (s'.hide F) = announced sql event s s' := by
  unfold announced
  split_ifs with happroval
  · refine Option.bind_congr fun v hv => ?_
    have hclear := h .order v hv
    have hnamed : (s.hide F).orders.find? (fun o => holds (orderNamed sql v o)) =
        s.orders.find? fun o => holds (orderNamed sql v o) := by
      simp only [hide, List.find?_filter]
      refine congrArg (List.find? · s.orders) (funext fun o => ?_)
      by_cases ho : holds (orderNamed sql v o) = true
      · simp [ho, hclear.of_names (sql.names_of_compare (holds_iff.mp ho))]
      · simp [ho]
    rw [hnamed]
    refine Option.bind_congr fun o ho => ?_
    have hmatch : holds (orderNamed sql v o) = true := by simpa using List.find?_some ho
    have hnames : sql.Names v o.ext.text := sql.names_of_compare (holds_iff.mp hmatch)
    refine snapshot_hide (hclear.of_names hnames) fun o' ho' hext c hc => ?_
    obtain ⟨f, new, horders, hf, hnew⟩ := orders_of_event hs
    rw [horders] at ho'
    rcases List.mem_append.mp ho' with ho' | ho'
    · obtain ⟨o'', ho'', rfl⟩ := List.mem_map.mp ho'
      refine hclients happroval v hv o'' ho'' ?_ c ((hf o'').2 ▸ hc)
      rw [← (hf o'').1, hext]
      exact hnames
    · obtain ⟨w, c', hw, hc', hnames'⟩ := (hnew o' ho').client
      obtain rfl : c' = c := Option.some.inj (hc'.symm.trans hc)
      exact (h .client w hw).of_names hnames'
  · rfl

end Shop

namespace Picture

def hide (F : Footprint) (p : Picture) : Picture :=
  ⟨p.shop.hide F, p.versions.filter fun r => !F .order r.1.text⟩

variable {p : Picture}

/-- The hidden rows do not matter to a message whose event the server tells from them. -/
lemma deliver_hide (h : ∀ event eventId, decodeEvent ext msg.value = .ok (event, eventId) →
    ∀ kind v, idOf event kind = some v → ext.sql.Clear v (F kind)) :
    (p.hide F).deliver ext msg = (p.deliver ext msg).hide F := by
  unfold deliver
  cases hdec : decodeEvent ext msg.value with
  | error e => rfl
  | ok decoded =>
    obtain ⟨event, eventId⟩ := decoded
    have hclear := h event eventId hdec
    simp only [hide, Shop.event_hide (decodeEvent_eventId hdec) hclear]
    cases hs : Shop.event ext.sql event eventId p.shop with
    | none => rfl
    | some s =>
      obtain ⟨f, new, horders, hf, hnew⟩ := Shop.orders_of_event hs
      simp only [Option.map_some, List.filter_append]
      rw [Shop.newVersions_hide fun o ho c hc => ?_]
      obtain ⟨ho, hfresh⟩ := List.mem_filter.mp ho
      rw [horders] at ho
      rcases List.mem_append.mp ho with ho | ho
      · obtain ⟨o', ho', rfl⟩ := List.mem_map.mp ho
        simp only [Bool.not_eq_true', List.any_eq_false] at hfresh
        exact absurd (decide_eq_true (hf o').1.symm) (hfresh o' ho')
      · obtain ⟨w, c', hw, hc', hnames⟩ := (hnew o ho).client
        obtain rfl : c' = c := Option.some.inj (hc'.symm.trans hc)
        exact (hclear .client w hw).of_names hnames

/-- A message leaves the rows its event does not name as they are. -/
lemma deliver_unseen (h : ∀ event eventId, decodeEvent ext msg.value = .ok (event, eventId) →
    ∀ kind v, idOf event kind = some v → ext.sql.Within v (F kind)) :
    (p.deliver ext msg).hide F = p.hide F := by
  unfold deliver
  cases hdec : decodeEvent ext msg.value with
  | error e => rfl
  | ok decoded =>
    obtain ⟨event, eventId⟩ := decoded
    have hwithin := h event eventId hdec
    simp only
    cases hs : Shop.event ext.sql event eventId p.shop with
    | none => rfl
    | some s =>
      obtain ⟨f, new, horders, hf, hnew⟩ := Shop.orders_of_event hs
      have hnone : (Shop.newVersions p.shop s).filter (fun r => !F .order r.1.text) = [] := by
        refine List.filter_eq_nil_iff.mpr fun r hr => ?_
        obtain ⟨o, ho, rfl⟩ := List.mem_map.mp hr
        obtain ⟨ho, hfresh⟩ := List.mem_filter.mp ho
        rw [horders] at ho
        rcases List.mem_append.mp ho with ho | ho
        · obtain ⟨o', ho', rfl⟩ := List.mem_map.mp ho
          simp only [Bool.not_eq_true', List.any_eq_false] at hfresh
          exact absurd (decide_eq_true (hf o').1.symm) (hfresh o' ho')
        · obtain ⟨v, hv, hnames⟩ := (hnew o ho).order
          simp [hwithin .order v hv _ hnames]
      simp only [hide, Shop.event_unseen (decodeEvent_eventId hdec) hwithin hs, List.filter_append,
        hnone, List.append_nil]

/-- Nor do they matter to what is noticed of it. -/
lemma notice_hide (h : ∀ event eventId, decodeEvent ext msg.value = .ok (event, eventId) →
      ∀ kind v, idOf event kind = some v → ext.sql.Clear v (F kind))
    (hclients : ∀ event eventId, decodeEvent ext msg.value = .ok (event, eventId) →
      isApproval event = true → p.shop.ClientsClear ext.sql F event) :
    (p.hide F).notice ext msg = p.notice ext msg := by
  unfold notice
  cases hdec : decodeEvent ext msg.value with
  | error e => rfl
  | ok decoded =>
    obtain ⟨event, eventId⟩ := decoded
    have hclear := h event eventId hdec
    have hid := decodeEvent_eventId hdec
    refine Prod.ext (Shop.fate_hide hid hclear) ?_
    simp only [hide, Shop.event_hide hid hclear]
    cases hs : Shop.event ext.sql event eventId p.shop with
    | none => rfl
    | some s => exact Shop.announced_hide hs hclear (hclients event eventId hdec)

end Picture

/-! ### Events of different streams -/

/-- The event creates an order. -/
def isCreation (event : Json) : Bool :=
  (event.getItem "event_type").toOption.any (·.isText "ORDER_CREATED")

lemma isCreation_eq_false {event : Json} (h : isApproval event = true) :
    isCreation event = false := by
  unfold isApproval at h
  unfold isCreation
  cases htype : event.getItem "event_type" with
  | error e => rfl
  | ok eventType =>
    simp only [htype, Except.toOption, Option.any_some, Bool.and_eq_true, Json.isText_iff] at h
    simp [Except.toOption, h.1, Json.isText]

/-- `x` is one of the texts, by `R`, of an external id of an event: the event has the id itself, or it
is the stored client of an order that the event names and does not create. -/
def About (R : Json → String → Prop) (s : Shop) (event : Json) (kind : Kind) (x : String) : Prop :=
  (∃ v, idOf event kind = some v ∧ R v x) ∨
    kind = .client ∧ isCreation event = false ∧ ∃ v o c, idOf event .order = some v ∧
      o ∈ s.orders ∧ R v o.ext.text ∧ o.client = some c ∧ c.text = x

/-- Two events have different ids, and are about different orders, clients, payments and
invoices. -/
structure Different (sql : SqlServer) (s : Shop) (event event' : Json) : Prop where
  values : ∀ kind v, idOf event kind = some v → idOf event' kind = some v → v = .null
  rows : ∀ kind x, About sql.Matches s event kind x → ¬ About sql.Matches s event' kind x

/-- The ids of two events are different as the columns store them, too. -/
def Apart (sql : SqlServer) (s : Shop) (event event' : Json) : Prop :=
  ∀ kind x, About sql.Names s event kind x → ¬ About sql.Names s event' kind x

/-- The server can compare the ids an event names with those of another. -/
def Comparable (sql : SqlServer) (s : Shop) (event event' : Json) : Prop :=
  ∀ kind v column x, idOf event kind = some v → About sql.Names s event' kind x →
    ∃ b, sql.compare column v x = .ok b

/-- The ids of an event are texts that are found where they are stored. -/
def TextIdsFound (sql : SqlServer) (event : Json) : Prop :=
  ∀ kind v, idOf event kind = some v → v = .null ∨ ∃ t, v = .str t ∧ ∀ n, sql.Finds n t

lemma names_str {t x : String} (h : ∀ n, sql.Finds n t) :
    sql.Names (.str t) x ↔ sql.Matches (.str t) x := by
  refine or_iff_left_of_imp ?_
  rintro ⟨n, v, hv, hsame⟩
  refine ⟨"", ?_⟩
  rw [sql.compare_str, ← sql.same_congr (h n v (sql.textOf_str.mp hv)), hsame]

lemma names_null {x : String} : ¬ sql.Names .null x := by
  rintro (⟨column, hx⟩ | ⟨n, v, ⟨t, ht, -⟩, -⟩)
  · cases hx
  · cases ht

namespace TextIdsFound

variable {event' : Json}

lemma names_iff (h : TextIdsFound sql event) {kind : Kind} {v : Json}
    (hv : idOf event kind = some v) (x : String) : sql.Names v x ↔ sql.Matches v x := by
  rcases h kind v hv with rfl | ⟨t, rfl, hfinds⟩
  · exact iff_of_false names_null fun hx => names_null (.inl hx)
  · exact names_str hfinds

lemma about_iff (h : TextIdsFound sql event) (kind : Kind) (x : String) :
    About sql.Names s event kind x ↔ About sql.Matches s event kind x := by
  refine or_congr ?_ (and_congr_right fun _ => and_congr_right fun _ => ?_)
  · exact exists_congr fun v => and_congr_right fun hv => h.names_iff hv x
  · exact exists_congr fun v => exists_congr fun o => exists_congr fun c =>
      and_congr_right fun hv => and_congr_right fun _ => and_congr_left fun _ => h.names_iff hv _

/-- Such ids are different as they are stored if they are different at all. -/
lemma apart (h : TextIdsFound sql event) (h' : TextIdsFound sql event')
    (hdifferent : Different sql s event event') : Apart sql s event event' := by
  intro kind x hx hx'
  exact hdifferent.rows kind x ((h.about_iff kind x).mp hx) ((h'.about_iff kind x).mp hx')

/-- Texts can be compared. -/
lemma comparable (h : TextIdsFound sql event) (event' : Json) : Comparable sql s event event' := by
  intro kind v column x hv _
  rcases h kind v hv with rfl | ⟨t, rfl, -⟩ <;> exact ⟨_, rfl⟩

end TextIdsFound

/-- The ids of an event are told from the ids of an event apart from it. -/
lemma Apart.tells {event' : Json} (h : Apart sql s event event')
    (hcomparable : Comparable sql s event event') {kind : Kind} {v : Json} {x : String}
    (hv : idOf event kind = some v) (hx : About sql.Names s event' kind x) : sql.Tells v x := by
  have hnot : ¬ sql.Names v x := fun hnames => h kind x (.inl ⟨v, hv, hnames⟩) hx
  refine ⟨fun column => ?_, fun n t ht => ?_⟩
  · obtain ⟨b, hb⟩ := hcomparable kind v column x hv hx
    cases b with
    | true => exact absurd (sql.names_of_compare hb) hnot
    | false => exact hb
  · exact Bool.eq_false_iff.mpr fun hsame => hnot (.inr ⟨n, t, ht, hsame⟩)

end EventPipeline

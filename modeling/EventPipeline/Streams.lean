import EventPipeline.Commute

/-!
# Interleaved streams

Messages belong to streams, and the events of different streams are apart: no id is named by both,
nor stored for both as one text. Where the server can compare their ids, each stream sees only what
it does itself, so every interleaving of the streams ends the same way for every message, publishes
the same snapshots, and leaves the same tables up to surrogate keys and clock readings
(`streams_commute`). An id that is a number is compared with texts that read as numbers only: a
number under `external_client_id` is refused as soon as another client is stored under a text
(`clients_collide`).
-/

namespace EventPipeline

open Transaction

variable {ext : Externals} {ι : Type} {s : Shop} {msgs : List (ι × Message)}

/-- A relation between the events of messages of different streams. -/
def Across (ext : Externals) (R : Json → Json → Prop) (msgs : List (ι × Message)) : Prop :=
  ∀ m ∈ msgs, ∀ m' ∈ msgs, m.1 ≠ m'.1 → ∀ event eventId event' eventId',
    decodeEvent ext m.2.value = .ok (event, eventId) →
    decodeEvent ext m'.2.value = .ok (event', eventId') → R event event'

/-! ### What a stream sees -/

/-- Some message of another stream is about an id. With no stream given, any message is. -/
def AboutOther (ext : Externals) (s : Shop) (msgs : List (ι × Message)) (i : Option ι)
    (kind : Kind) (x : String) : Prop :=
  ∃ m ∈ msgs, some m.1 ≠ i ∧ ∃ event eventId,
    decodeEvent ext m.2.value = .ok (event, eventId) ∧ About ext.sql.Names s event kind x

open Classical in
/-- The ids of the other streams. -/
noncomputable def others (ext : Externals) (s : Shop) (msgs : List (ι × Message)) (i : Option ι) :
    Footprint :=
  fun kind x => decide (AboutOther ext s msgs i kind x)

@[simp] lemma others_eq_true {i : Option ι} {kind : Kind} {x : String} :
    others ext s msgs i kind x = true ↔ AboutOther ext s msgs i kind x := by
  simp [others]

lemma others_eq_false {i : Option ι} {kind : Kind} {x : String} :
    others ext s msgs i kind x = false ↔ ¬ AboutOther ext s msgs i kind x := by
  simp [others]

/-- A stream sees the ids its own messages are about. -/
lemma others_own (happart : Across ext (Apart ext.sql s) msgs) {m : ι × Message} (hm : m ∈ msgs)
    {event eventId : Json} (hdec : decodeEvent ext m.2.value = .ok (event, eventId)) {kind : Kind}
    {x : String} (hx : About ext.sql.Names s event kind x) :
    others ext s msgs (some m.1) kind x = false := by
  rw [others_eq_false]
  rintro ⟨m', hm', hne, event', eventId', hdec', hx'⟩
  have hne : m.1 ≠ m'.1 := fun heq => hne (congrArg some heq.symm)
  exact happart m hm m' hm' hne event eventId event' eventId' hdec hdec' kind x hx hx'

/-- Every id is seen by some stream, or by an onlooker. -/
lemma exists_others (happart : Across ext (Apart ext.sql s) msgs) (kind : Kind) (x : String) :
    ∃ i, others ext s msgs i kind x = false := by
  by_cases habout : AboutOther ext s msgs none kind x
  · obtain ⟨m, hm, -, event, eventId, hdec, hx⟩ := habout
    exact ⟨some m.1, others_own happart hm hdec hx⟩
  · exact ⟨none, others_eq_false.mpr habout⟩

lemma clear_others (happart : Across ext (Apart ext.sql s) msgs)
    (hcomparable : Across ext (Comparable ext.sql s) msgs) {m : ι × Message} (hm : m ∈ msgs)
    {event eventId : Json} (hdec : decodeEvent ext m.2.value = .ok (event, eventId)) {kind : Kind}
    {v : Json} (hv : idOf event kind = some v) :
    ext.sql.Clear v (others ext s msgs (some m.1) kind) := by
  intro x hx
  obtain ⟨m', hm', hne, event', eventId', hdec', hx'⟩ := others_eq_true.mp hx
  have hne : m.1 ≠ m'.1 := fun heq => hne (congrArg some heq.symm)
  exact (happart m hm m' hm' hne event eventId event' eventId' hdec hdec').tells
    (hcomparable m hm m' hm' hne event eventId event' eventId' hdec hdec') hv hx'

lemma within_others {m : ι × Message} (hm : m ∈ msgs) {i : Option ι} (hi : some m.1 ≠ i)
    {event eventId : Json} (hdec : decodeEvent ext m.2.value = .ok (event, eventId)) {kind : Kind}
    {v : Json} (hv : idOf event kind = some v) :
    ext.sql.Within v (others ext s msgs i kind) := by
  intro x hx
  exact others_eq_true.mpr ⟨m, hm, hi, event, eventId, hdec, .inl ⟨v, hv, hx⟩⟩

/-- The orders that the messages of a stream look up belong to its own clients. -/
def OwnClients (ext : Externals) (s : Shop) (msgs : List (ι × Message)) (p : Picture) : Prop :=
  ∀ m ∈ msgs, ∀ event eventId, decodeEvent ext m.2.value = .ok (event, eventId) →
    isCreation event = false → p.shop.ClientsClear ext.sql (others ext s msgs (some m.1)) event

lemma ownClients_start (happart : Across ext (Apart ext.sql s) msgs)
    (versions : List (Varchar 64 × Option ℕ)) : OwnClients ext s msgs ⟨s, versions⟩ := by
  intro m hm event eventId hdec hcreation v hv o ho hnames c hc
  exact others_own happart hm hdec (.inr ⟨rfl, hcreation, v, o, c, hv, ho, hnames, hc, rfl⟩)

/-- An order a message creates is one its own stream is about, and so is its client. -/
lemma OwnClients.deliver (happart : Across ext (Apart ext.sql s) msgs) {m : ι × Message}
    (hm : m ∈ msgs) {p : Picture} (hp : OwnClients ext s msgs p) :
    OwnClients ext s msgs (p.deliver ext m.2) := by
  unfold Picture.deliver
  cases hdec : decodeEvent ext m.2.value with
  | error e => exact hp
  | ok decoded =>
    obtain ⟨event, eventId⟩ := decoded
    simp only
    cases hs : Shop.event ext.sql event eventId p.shop with
    | none => exact hp
    | some s' =>
      intro m' hm' event' eventId' hdec' hcreation v hv o ho hnames c hc
      obtain ⟨f, new, horders, hf, hnew⟩ := Shop.orders_of_event hs
      rw [horders] at ho
      rcases List.mem_append.mp ho with ho | ho
      · obtain ⟨o', ho', rfl⟩ := List.mem_map.mp ho
        exact hp m' hm' event' eventId' hdec' hcreation v hv o' ho' ((hf o').1 ▸ hnames) c
          ((hf o').2 ▸ hc)
      · obtain ⟨w, hw, horder⟩ := (hnew o ho).order
        obtain ⟨u, c', hu, hc', hclient⟩ := (hnew o ho).client
        obtain rfl : c' = c := Option.some.inj (hc'.symm.trans hc)
        -- both messages are about the order
        have hsame : m.1 = m'.1 := by
          by_contra hne
          exact happart m hm m' hm' hne event eventId event' eventId' hdec hdec' .order _
            (.inl ⟨w, hw, horder⟩) (.inl ⟨v, hv, hnames⟩)
        rw [← hsame]
        exact others_own happart hm hdec (.inl ⟨u, hu, hclient⟩)

/-- Streams that are apart do not meet. -/
lemma streams_local (happart : Across ext (Apart ext.sql s) msgs)
    (hcomparable : Across ext (Comparable ext.sql s) msgs) :
    Local (fun m : ι × Message => some m.1) (· ∈ msgs) (OwnClients ext s msgs)
      (fun m p => p.deliver ext m.2) (fun m p => p.notice ext m.2)
      (fun i p => p.hide (others ext s msgs i)) where
  keeps _ _ hm hp := hp.deliver happart hm
  own _ _ hm _ := (Picture.deliver_hide fun _ _ hdec _ _ hv =>
    clear_others happart hcomparable hm hdec hv).symm
  other _ _ _ hm _ hi := Picture.deliver_unseen fun _ _ hdec _ _ hv => within_others hm hi hdec hv
  out_eq m _ hm hp := (Picture.notice_hide
    (fun _ _ hdec _ _ hv => clear_others happart hcomparable hm hdec hv)
    fun event eventId hdec happroval =>
      hp m hm event eventId hdec (isCreation_eq_false happroval)).symm

/-! ### The same tables -/

/-- The tables up to surrogate keys, clock readings and the order of the rows, where it says
nothing: the versions of the addresses of a client keep theirs. -/
structure Picture.Same (p p' : Picture) : Prop where
  clients : p.shop.clients.Perm p'.shop.clients
  address : ∀ client, p.shop.address.filter (·.client = client) =
    p'.shop.address.filter (·.client = client)
  orders : p.shop.orders.Perm p'.shop.orders
  versions : p.versions.Perm p'.versions
  items : p.shop.items.Perm p'.shop.items
  history : p.shop.history.Perm p'.shop.history
  payments : p.shop.payments.Perm p'.shop.payments
  invoices : p.shop.invoices.Perm p'.shop.invoices
  ledger : p.shop.ledger.Perm p'.shop.ledger

/-- Pictures that are alike for every stream. -/
lemma Picture.same_of_views (happart : Across ext (Apart ext.sql s) msgs) {p p' : Picture}
    (h : ∀ i, p.hide (others ext s msgs i) = p'.hide (others ext s msgs i)) : p.Same p' := by
  have hshown : ∀ kind x, ∃ i, (!others ext s msgs i kind x) = true := fun kind x => by
    obtain ⟨i, hi⟩ := exists_others happart kind x
    exact ⟨i, by rw [hi]; rfl⟩
  have hlinked : ∀ kind (key : Option (Varchar 64)),
      ∃ i, (!key.any (others ext s msgs i kind ·.text)) = true := fun kind key => by
    cases key with
    | none => exact ⟨none, rfl⟩
    | some key => exact hshown kind key.text
  have hshop : ∀ i, p.shop.hide (others ext s msgs i) = p'.shop.hide (others ext s msgs i) :=
    fun i => congrArg Picture.shop (h i)
  refine ⟨perm_of_filter (fun c => hshown .client c.ext.text) fun i => congrArg Shop.clients (hshop i),
    fun client => ?_,
    perm_of_filter (fun o => hshown .order o.ext.text) fun i => congrArg Shop.orders (hshop i),
    perm_of_filter (fun r => hshown .order r.1.text) fun i => congrArg Picture.versions (h i),
    perm_of_filter (fun r => hlinked .order r.order) fun i => congrArg Shop.items (hshop i),
    perm_of_filter (fun r => hlinked .order r.order) fun i => congrArg Shop.history (hshop i),
    perm_of_filter (fun q => hshown .payment q.ext.text) fun i => congrArg Shop.payments (hshop i),
    perm_of_filter (fun q => hshown .invoice q.ext.text) fun i => congrArg Shop.invoices (hshop i),
    perm_of_filter (fun e => hshown .event e.eventId.text) fun i => congrArg Shop.ledger (hshop i)⟩
  obtain ⟨i, hi⟩ := hlinked .client client
  have hclear : ∀ c, client = some c → others ext s msgs i .client c.text = false := by
    rintro c rfl
    simpa using hi
  rw [← Shop.addressOf_hide hclear, hshop i, Shop.addressOf_hide hclear]

/-! ### Calls -/

/-- The messages of one stream, in the order in which they are handled. -/
def streamOf [DecidableEq ι] (i : ι) (calls : List (ι × CallEnv × Message)) : List Message :=
  (calls.filter (·.1 = i)).map (·.2.2)

/-- How the message of every call ends, and the snapshot that is published for it. -/
def course (ext : Externals) (calls : List (ι × CallEnv × Message)) (w : World) :
    List ((ι × CallEnv × Message) × Fate × Option Snapshot) :=
  outputs (fun call w => (handleMessage ext call.2.1 call.2.2 w).2)
    (fun call w => (fate ext call.2.1 call.2.2 w.db, published ext call.2.1 call.2.2 w.db)) calls w

/-- What is sent for some snapshots. -/
def Sends (ext : Externals) (sent : List Send) (snapshots : List Snapshot) : Prop :=
  List.Forall₂ (fun m s => m.key = toString s.order.orderId ∧ ext.dumps s = .ok m.value ∧
    m.accepted = true) sent snapshots

/-- The course of one stream, snapshots up to surrogate keys and clock readings. -/
def courseOf [DecidableEq ι] (ext : Externals) (i : ι) (calls : List (ι × CallEnv × Message))
    (w : World) : List (Message × Fate × Option SnapshotInfo) :=
  ((course ext calls w).filter (·.1.1 = i)).map fun r =>
    (r.1.2.2, r.2.1, r.2.2.map Snapshot.info)

/-- A flawless call sends what it publishes. -/
lemma CallEnv.Flawless.sends {env : CallEnv} (h : env.Flawless)
    (hdumps : ∀ snapshot, ∃ value, ext.dumps snapshot = .ok value) (msg : Message) (w : World) :
    ∃ new, (handleMessage ext env msg w).2.sent = w.sent ++ new ∧
      Sends ext new (published ext env msg w.db).toList := by
  unfold EventPipeline.handleMessage published
  cases hdec : decodeEvent ext msg.value with
  | error e => exact ⟨[], (List.append_nil _).symm, .nil⟩
  | ok decoded =>
    obtain ⟨event, eventId⟩ := decoded
    simp only
    rcases h.undisturbed.attempts_cases ext.sql event eventId w.db with ⟨x, hx⟩ |
      ⟨outbox, db', hok, hrun⟩
    · rw [hx]
      exact ⟨[], by rw [(conclude_error ext env event eventId x _).1, List.append_nil], .nil⟩
    · rw [hok]
      obtain ⟨_, eventType, data, row, db₁, now, hcom, -⟩ := committed_of_runs hrun
      simp only [conclude, World.countEvent, hcom.eventType_eq]
      cases outbox with
      | none => exact ⟨[], (List.append_nil _).symm, .nil⟩
      | some ob =>
        obtain ⟨value, hvalue⟩ := hdumps ob.order
        simp only
        split_ifs
        · simp only [World.publish, hvalue, h.send_eq]
          exact ⟨_, rfl, .cons ⟨rfl, hvalue, rfl⟩ .nil⟩
        · exact ⟨[], (List.append_nil _).symm, .nil⟩

/-- What is sent during some calls is what they publish. -/
lemma handleAll_sends (hdumps : ∀ snapshot, ∃ value, ext.dumps snapshot = .ok value)
    {calls : List (ι × CallEnv × Message)} (hcalls : ∀ call ∈ calls, call.2.1.Flawless)
    (w : World) :
    ∃ new, (handleAll ext (calls.map Prod.snd) w).sent = w.sent ++ new ∧
      Sends ext new ((course ext calls w).filterMap (·.2.2)) := by
  induction calls generalizing w with
  | nil => exact ⟨[], (List.append_nil _).symm, .nil⟩
  | cons call calls ih =>
    obtain ⟨hcall, hcalls⟩ := List.forall_mem_cons.mp hcalls
    obtain ⟨new, hnew, hsends⟩ := hcall.sends hdumps call.2.2 w
    obtain ⟨rest, hrest, hsends'⟩ := ih hcalls (handleMessage ext call.2.1 call.2.2 w).2
    refine ⟨new ++ rest, ?_, ?_⟩
    · rw [List.map_cons, handleAll_cons, hrest, hnew, List.append_assoc]
    · have hcourse : (course ext (call :: calls) w).filterMap (·.2.2) =
          (published ext call.2.1 call.2.2 w.db).toList ++
            (course ext calls (handleMessage ext call.2.1 call.2.2 w).2).filterMap (·.2.2) := by
        simp only [course, outputs, List.filterMap_cons]
        cases published ext call.2.1 call.2.2 w.db <;> rfl
      rw [hcourse]
      exact List.rel_append hsends hsends'

/-- A run of calls nothing goes wrong in, as its picture sees it. -/
lemma picture_run {calls : List (ι × CallEnv × Message)}
    (hcalls : ∀ call ∈ calls, call.2.1.Flawless ∧ call.2.2.Plain ext) {w : World}
    (hc : Consistent ext.sql w.db) :
    (handleAll ext (calls.map Prod.snd) w).db.picture =
        (calls.map (Prod.map id Prod.snd)).foldl (fun p m => p.deliver ext m.2) w.db.picture ∧
      (course ext calls w).map (Prod.map (Prod.map id Prod.snd)
          (Prod.map id (Option.map Snapshot.info))) =
        outputs (fun m p => p.deliver ext m.2) (fun m p => p.notice ext m.2)
          (calls.map (Prod.map id Prod.snd)) w.db.picture := by
  have hrun : handleAll ext (calls.map Prod.snd) w =
      calls.foldl (fun w call => (handleMessage ext call.2.1 call.2.2 w).2) w := by
    rw [handleAll, List.foldl_map]
  rw [hrun]
  exact @outputs_abstract (ι × CallEnv × Message) World (Fate × Option Snapshot) (ι × Message)
    Picture (Fate × Option SnapshotInfo) _ _ (fun m p => p.deliver ext m.2)
    (fun m p => p.notice ext m.2) (fun call => call.2.1.Flawless ∧ call.2.2.Plain ext)
    (fun w => Consistent ext.sql w.db) (Prod.map id Prod.snd) (fun w => w.db.picture) _
    (fun call w _ hw => (Later.handleMessage hw call.2.1 call.2.2).1)
    (fun call w hcall hw => hcall.1.undisturbed.picture_eq hw hcall.2)
    (fun call w hcall hw => hcall.1.undisturbed.notice_eq hw hcall.2) calls w hcalls hc

/-- The messages of some calls, each beside its stream. -/
def messagesOf (calls : List (ι × CallEnv × Message)) : List (ι × Message) :=
  calls.map (Prod.map id Prod.snd)

lemma mem_messagesOf [DecidableEq ι] {calls : List (ι × CallEnv × Message)} {m : ι × Message} :
    m ∈ messagesOf calls ↔ m.2 ∈ streamOf m.1 calls := by
  simp only [messagesOf, streamOf, List.mem_map, List.mem_filter, decide_eq_true_eq]
  constructor
  · rintro ⟨call, hcall, rfl⟩
    exact ⟨call, ⟨hcall, rfl⟩, rfl⟩
  · rintro ⟨call, ⟨hcall, hstream⟩, hmessage⟩
    exact ⟨call, hcall, Prod.ext hstream hmessage⟩

lemma messagesOf_filter [DecidableEq ι] (calls : List (ι × CallEnv × Message)) (i : ι) :
    (messagesOf calls).filter (fun m => some m.1 = some i) = (streamOf i calls).map (Prod.mk i) := by
  simp only [messagesOf, streamOf, List.filter_map, Function.comp_def, Prod.map_fst, id_eq,
    Option.some.injEq, List.map_map]
  refine List.map_congr_left fun call hcall => ?_
  exact Prod.ext (of_decide_eq_true (List.mem_filter.mp hcall).2) rfl

lemma courseOf_eq [DecidableEq ι] (i : ι) (calls : List (ι × CallEnv × Message)) (w : World) :
    courseOf ext i calls w = (((course ext calls w).map (Prod.map (Prod.map id Prod.snd)
      (Prod.map id (Option.map Snapshot.info)))).filter (some ·.1.1 = some i)).map
        fun r => (r.1.2, r.2) := by
  simp only [courseOf, List.filter_map, List.map_map, Function.comp_def, Prod.map_fst, id_eq,
    Option.some.injEq, Prod.map_snd]
  rfl

lemma infos_eq (calls : List (ι × CallEnv × Message)) (w : World) :
    ((course ext calls w).filterMap (·.2.2)).map Snapshot.info =
      ((course ext calls w).map (Prod.map (Prod.map id Prod.snd)
        (Prod.map id (Option.map Snapshot.info)))).filterMap (·.2.2) := by
  rw [List.map_filterMap, List.filterMap_map]
  rfl

/-- Two sequences of calls come to the same, up to surrogate keys and clock readings: the same
tables, the same end of every message, and the same snapshots sent. -/
structure Alike [DecidableEq ι] (ext : Externals) (w : World)
    (calls calls' : List (ι × CallEnv × Message)) : Prop where
  tables : (handleAll ext (calls.map Prod.snd) w).db.picture.Same
    (handleAll ext (calls'.map Prod.snd) w).db.picture
  course : ∀ i, courseOf ext i calls w = courseOf ext i calls' w
  sent : ∃ sent sent' snapshots snapshots',
    (handleAll ext (calls.map Prod.snd) w).sent = w.sent ++ sent ∧ Sends ext sent snapshots ∧
    (handleAll ext (calls'.map Prod.snd) w).sent = w.sent ++ sent' ∧ Sends ext sent' snapshots' ∧
    (snapshots.map Snapshot.info).Perm (snapshots'.map Snapshot.info)

/-- The result of streams of messages that are apart is the same for every interleaving. -/
theorem streams_commute [DecidableEq ι] (ext : Externals)
    (hdumps : ∀ snapshot, ∃ value, ext.dumps snapshot = .ok value) {f : Fleet}
    (h : Fleet.Reachable ext (fun _ _ => True) f) {calls calls' : List (ι × CallEnv × Message)}
    (hcalls : ∀ call ∈ calls ++ calls', call.2.1.Flawless ∧ call.2.2.Plain ext)
    (hstreams : ∀ i, streamOf i calls = streamOf i calls')
    (happart : Across ext (Apart ext.sql f.world.db.shop) (messagesOf calls))
    (hcomparable : Across ext (Comparable ext.sql f.world.db.shop) (messagesOf calls)) :
    Alike ext f.world calls calls' := by
  obtain ⟨hflawless, hflawless'⟩ := List.forall_mem_append.mp hcalls
  obtain ⟨hpicture, hcourse⟩ := picture_run hflawless h.consistent
  obtain ⟨hpicture', hcourse'⟩ := picture_run hflawless' h.consistent
  have hlocal := streams_local happart hcomparable
  have hstart := ownClients_start happart f.world.db.versions
  have hmem' : ∀ m ∈ messagesOf calls', m ∈ messagesOf calls := fun m hm =>
    mem_messagesOf.mpr (hstreams m.1 ▸ mem_messagesOf.mp hm)
  have hsame : ∀ i : Option ι, (messagesOf calls).filter (some ·.1 = i) =
      (messagesOf calls').filter (some ·.1 = i) := fun i => by
    cases i with
    | none => simp
    | some i => rw [messagesOf_filter, messagesOf_filter, hstreams]
  refine ⟨?_, fun i => ?_, ?_⟩
  · rw [hpicture, hpicture']
    exact Picture.same_of_views happart (hlocal.view_run_eq (fun _ hm => hm) hmem' hstart hsame)
  · rw [courseOf_eq, courseOf_eq, hcourse, hcourse']
    exact congrArg _ (hlocal.outputs_eq (fun _ hm => hm) hmem' hstart hsame (some i))
  · obtain ⟨sent, hsent, hsends⟩ := handleAll_sends hdumps (fun call hcall =>
      (hflawless call hcall).1) f.world
    obtain ⟨sent', hsent', hsends'⟩ := handleAll_sends hdumps (fun call hcall =>
      (hflawless' call hcall).1) f.world
    refine ⟨sent, sent', _, _, hsent, hsends, hsent', hsends', ?_⟩
    rw [infos_eq, infos_eq, hcourse, hcourse']
    exact (perm_of_filter (fun r => ⟨some r.1.1, decide_eq_true rfl⟩)
      (hlocal.outputs_eq (fun _ hm => hm) hmem' hstart hsame)).filterMap _

/-! ### Two orders -/

/-- An order of a client whose id may be any value. -/
def orderOfClient (eventId order : String) (client : Json) : Json :=
  .obj [("event_id", .str eventId), ("event_type", .str "ORDER_CREATED"),
    ("data", .obj [("external_order_id", .str order), ("total_amount", .int 10),
      ("client", .obj [("external_client_id", client), ("name", .str "Ana"),
        ("email", .str "a@b"), ("document", .str "1")]),
      ("address", .obj [("external_address_id", .str "a1"), ("street", .str "Rua A"),
        ("number", .str "1"), ("neighborhood", .str "Centro"), ("city", .str "Recife"),
        ("state", .str "PE"), ("postal_code", .str "50000"), ("country", .str "BR")])])]

lemma about_creation {R : Json → String → Prop} {event : Json} (h : isCreation event = true)
    {kind : Kind} {x : String} : About R s event kind x ↔ ∃ v, idOf event kind = some v ∧ R v x := by
  simp [About, h]

lemma Different.symm {sql : SqlServer} {event event' : Json} (h : Different sql s event event') :
    Different sql s event' event :=
  ⟨fun kind v hv hv' => h.values kind v hv' hv, fun kind x hx hx' => h.rows kind x hx' hx⟩

lemma matches_plain {t x : String} (h : SqlServer.plain.Matches (.str t) x) : t = x := by
  obtain ⟨column, hx⟩ := h
  exact of_decide_eq_true (Except.ok.inj hx)

/-- Orders under different ids, of clients no text can stand for at once. -/
lemma different_orders {client client' : Json} (hne : client ≠ client')
    (h : ∀ x, SqlServer.plain.Matches client x → ¬ SqlServer.plain.Matches client' x) :
    Different .plain s (orderOfClient "e1" "o1" client) (orderOfClient "e2" "o2" client') := by
  have hcreation : ∀ eventId order client, isCreation (orderOfClient eventId order client) = true :=
    fun _ _ _ => rfl
  constructor
  · intro kind v hv hv'
    cases kind with
    | client => exact absurd (Option.some.inj (hv.trans hv'.symm)) hne
    | event => exact absurd (Option.some.inj (hv.trans hv'.symm)) (by simp)
    | order => exact absurd (Option.some.inj (hv.trans hv'.symm)) (by simp)
    | payment => cases hv
    | invoice => cases hv
  · intro kind x hx hx'
    obtain ⟨v, hv, hmatch⟩ := (about_creation (hcreation _ _ _)).mp hx
    obtain ⟨v', hv', hmatch'⟩ := (about_creation (hcreation _ _ _)).mp hx'
    cases kind with
    | client =>
      cases hv
      cases hv'
      exact h x hmatch hmatch'
    | event =>
      cases hv
      cases hv'
      exact absurd ((matches_plain hmatch).trans (matches_plain hmatch').symm) (by decide)
    | order =>
      cases hv
      cases hv'
      exact absurd ((matches_plain hmatch).trans (matches_plain hmatch').symm) (by decide)
    | payment => cases hv
    | invoice => cases hv

/-- `orjson` on the two orders, the first of a client with any id. -/
def clientExternals (client : Json) : Externals :=
  { Externals.rendered [orderOfClient "e1" "o1" client, orderOfClient "e2" "o2" (.str "c2")] with
    dumps := fun s => .ok s.json.toUTF8 }

/-- A call in which nothing goes wrong, of a stream. -/
def streamCall (stream : ℕ) (event : Json) : ℕ × CallEnv × Message :=
  (stream, .healthy, ⟨0, event.render.toUTF8⟩)

lemma streamCall_value (stream : ℕ) (event : Json) :
    (streamCall stream event).2.2.value = event.render.toUTF8 :=
  rfl

lemma streamCall_db {stream : ℕ} {event eventId : Json} {w : World}
    (h : decodeEvent ext event.render.toUTF8 = .ok (event, eventId)) :
    (handleMessage ext (streamCall stream event).2.1 (streamCall stream event).2.2 w).2.db =
      (runAttempts ext.sql CallEnv.healthy.attempts event eventId w.db).2 :=
  handleMessage_db h .healthy w

lemma streamCall_fate {stream : ℕ} {event eventId : Json} {db : Database}
    (h : decodeEvent ext event.render.toUTF8 = .ok (event, eventId)) :
    fate ext (streamCall stream event).2.1 (streamCall stream event).2.2 db =
      fateOf ext.sql db event (runAttempts ext.sql CallEnv.healthy.attempts event eventId db).1 := by
  unfold fate
  rw [streamCall_value, h]
  rfl

/-- The two orders, each of a stream of its own. -/
def clientCalls (client : Json) : List (ℕ × CallEnv × Message) :=
  [streamCall 1 (orderOfClient "e1" "o1" client), streamCall 2 (orderOfClient "e2" "o2" (.str "c2"))]

lemma decodeEvent_client {client : Json}
    (hne : (orderOfClient "e1" "o1" client).render ≠ (orderOfClient "e2" "o2" (.str "c2")).render) :
    (decodeEvent (clientExternals client) (orderOfClient "e1" "o1" client).render.toUTF8 =
      .ok (orderOfClient "e1" "o1" client, .str "e1")) ∧
    decodeEvent (clientExternals client) (orderOfClient "e2" "o2" (.str "c2")).render.toUTF8 =
      .ok (orderOfClient "e2" "o2" (.str "c2"), .str "e2") := by
  have hloads : ∀ value, decodeEvent (clientExternals client) value = decodeEvent
      (.rendered [orderOfClient "e1" "o1" client, orderOfClient "e2" "o2" (.str "c2")]) value :=
    fun _ => rfl
  have hnodup : ([orderOfClient "e1" "o1" client, orderOfClient "e2" "o2" (.str "c2")].map
      Json.render).Nodup := by
    simpa using hne
  rw [hloads, hloads]
  exact ⟨decodeEvent_rendered hnodup (by simp) rfl, decodeEvent_rendered hnodup (by simp) rfl⟩

lemma plainEvent_client {eventId order : String} {client : Json} :
    PlainEvent (orderOfClient eventId order client) := by
  intro _ data items hdata hitems mappings hmappings item hitem
  cases hdata
  cases hitems
  cases hmappings
  cases hitem

lemma clientCalls_flawless {client : Json}
    (hne : (orderOfClient "e1" "o1" client).render ≠ (orderOfClient "e2" "o2" (.str "c2")).render) :
    ∀ call ∈ clientCalls client ++ (clientCalls client).reverse,
      call.2.1.Flawless ∧ call.2.2.Plain (clientExternals client) := by
  obtain ⟨h₁, h₂⟩ := decodeEvent_client hne
  intro call hcall
  have hcall : call = streamCall 1 (orderOfClient "e1" "o1" client) ∨
      call = streamCall 2 (orderOfClient "e2" "o2" (.str "c2")) := by
    simpa [clientCalls, or_comm, or_assoc, or_left_comm] using hcall
  rcases hcall with rfl | rfl
  · refine ⟨flawless_healthy, fun event eventId hdec => ?_⟩
    have heq := h₁.symm.trans hdec
    cases heq
    exact plainEvent_client
  · refine ⟨flawless_healthy, fun event eventId hdec => ?_⟩
    have heq := h₂.symm.trans hdec
    cases heq
    exact plainEvent_client

lemma clientCalls_across {client : Json} {R : Json → Json → Prop}
    (hne : (orderOfClient "e1" "o1" client).render ≠ (orderOfClient "e2" "o2" (.str "c2")).render)
    (h : R (orderOfClient "e1" "o1" client) (orderOfClient "e2" "o2" (.str "c2")))
    (h' : R (orderOfClient "e2" "o2" (.str "c2")) (orderOfClient "e1" "o1" client)) :
    Across (clientExternals client) R (messagesOf (clientCalls client)) := by
  obtain ⟨h₁, h₂⟩ := decodeEvent_client hne
  intro m hm m' hm' hstreams event eventId event' eventId' hdec hdec'
  simp only [messagesOf, clientCalls, streamCall, List.map_cons, List.map_nil, List.mem_cons,
    List.not_mem_nil, or_false, Prod.map_apply, id_eq] at hm hm'
  rcases hm with rfl | rfl <;> rcases hm' with rfl | rfl
  · exact absurd rfl hstreams
  · obtain ⟨rfl, -⟩ := Prod.mk.inj (Except.ok.inj (h₁.symm.trans hdec))
    obtain ⟨rfl, -⟩ := Prod.mk.inj (Except.ok.inj (h₂.symm.trans hdec'))
    exact h
  · obtain ⟨rfl, -⟩ := Prod.mk.inj (Except.ok.inj (h₂.symm.trans hdec))
    obtain ⟨rfl, -⟩ := Prod.mk.inj (Except.ok.inj (h₁.symm.trans hdec'))
    exact h'
  · exact absurd rfl hstreams

lemma clientCalls_streams (client : Json) (i : ℕ) :
    streamOf i (clientCalls client) = streamOf i (clientCalls client).reverse := by
  by_cases h₁ : 1 = i
  · subst h₁
    rfl
  · by_cases h₂ : 2 = i
    · subst h₂
      rfl
    · simp [streamOf, clientCalls, streamCall, h₁, h₂]

/-- The message of a stream ends as it would after that of another stream. -/
lemma Alike.fate_eq [DecidableEq ι] {w : World} {calls calls' : List (ι × CallEnv × Message)}
    (h : Alike ext w calls calls') {c₁ c₂ : ι × CallEnv × Message} (hcalls : calls = [c₁, c₂])
    (hcalls' : calls' = [c₂, c₁]) (hne : c₁.1 ≠ c₂.1) :
    fate ext c₁.2.1 c₁.2.2 w.db =
      fate ext c₁.2.1 c₁.2.2 (handleMessage ext c₂.2.1 c₂.2.2 w).2.db := by
  subst hcalls hcalls'
  have hcourse := h.course c₁.1
  simp only [courseOf, EventPipeline.course, outputs, List.filter_cons, decide_true, if_true,
    decide_eq_false hne.symm, Bool.false_eq_true, if_false, List.filter_nil, List.map_cons] at hcourse
  exact congrArg (fun r => r.2.1) (List.cons.inj hcourse).1

/-- Two clients under texts: the orders commute. -/
theorem streams_commute_texts :
    Alike (clientExternals (.str "c1")) .start (clientCalls (.str "c1"))
      (clientCalls (.str "c1")).reverse := by
  have hne : (orderOfClient "e1" "o1" (.str "c1")).render ≠
      (orderOfClient "e2" "o2" (.str "c2")).render := by decide
  have hdifferent : Different .plain World.start.db.shop (orderOfClient "e1" "o1" (.str "c1"))
      (orderOfClient "e2" "o2" (.str "c2")) := by
    refine different_orders (by simp) fun x hx hx' => ?_
    exact absurd ((matches_plain hx).trans (matches_plain hx').symm) (by decide)
  have htexts : ∀ n, ∀ t ∈ ["e1", "o1", "c1", "e2", "o2", "c2"], SqlServer.plain.Finds n t := by
    intro n t ht
    simp only [List.mem_cons, List.not_mem_nil, or_false] at ht
    rcases ht with rfl | rfl | rfl | rfl | rfl | rfl <;>
      exact SqlServer.finds_of_ascii (by decide) (by decide) n
  have hfound : ∀ eventId order client, (∀ n, ∀ t ∈ [eventId, order, client],
      SqlServer.plain.Finds n t) →
        TextIdsFound .plain (orderOfClient eventId order (.str client)) := by
    intro eventId order client h kind v hv
    cases kind <;> cases hv <;> exact .inr ⟨_, rfl, fun n => h n _ (by simp)⟩
  have h₁ := hfound "e1" "o1" "c1" fun n t ht => htexts n t (by simp at ht ⊢; tauto)
  have h₂ := hfound "e2" "o2" "c2" fun n t ht => htexts n t (by simp at ht ⊢; tauto)
  exact streams_commute (clientExternals (.str "c1")) (fun _ => ⟨_, rfl⟩) .start
    (clientCalls_flawless hne) (clientCalls_streams _)
    (clientCalls_across hne (h₁.apart h₂ hdifferent) (h₂.apart h₁ hdifferent.symm))
    (clientCalls_across hne (h₁.comparable _) (h₂.comparable _))

lemma client_accepted :
    fateOf .plain .empty (orderOfClient "e1" "o1" (.int 7)) (runAttempts .plain
      CallEnv.healthy.attempts (orderOfClient "e1" "o1" (.int 7)) (.str "e1") .empty).1 =
        .success := by
  decide

lemma client_refused :
    fateOf .plain (runAttempts .plain CallEnv.healthy.attempts
        (orderOfClient "e2" "o2" (.str "c2")) (.str "e2") .empty).2
      (orderOfClient "e1" "o1" (.int 7)) (runAttempts .plain CallEnv.healthy.attempts
        (orderOfClient "e1" "o1" (.int 7)) (.str "e1")
        (runAttempts .plain CallEnv.healthy.attempts (orderOfClient "e2" "o2" (.str "c2"))
          (.str "e2") .empty).2).1 = .rejected := by
  decide

/-- A client under a number: its order is accepted before the other client is stored, and refused
afterwards. -/
theorem clients_collide :
    ¬ ∀ (ext : Externals), (∀ snapshot, ∃ value, ext.dumps snapshot = .ok value) →
      ∀ f : Fleet, Fleet.Reachable ext (fun _ _ => True) f →
      ∀ calls calls' : List (ℕ × CallEnv × Message),
      (∀ call ∈ calls ++ calls', call.2.1.Flawless ∧ call.2.2.Plain ext) →
      (∀ i, streamOf i calls = streamOf i calls') →
      Across ext (Different ext.sql f.world.db.shop) (messagesOf calls) →
      Alike ext f.world calls calls' := by
  intro h
  have hne : (orderOfClient "e1" "o1" (.int 7)).render ≠
      (orderOfClient "e2" "o2" (.str "c2")).render := by decide
  have hdifferent : Different .plain World.start.db.shop (orderOfClient "e1" "o1" (.int 7))
      (orderOfClient "e2" "o2" (.str "c2")) := by
    refine different_orders Json.noConfusion fun x hx hx' => ?_
    obtain rfl : "c2" = x := matches_plain hx'
    obtain ⟨column, hx⟩ := hx
    cases hx
  have halike := h (clientExternals (.int 7)) (fun _ => ⟨_, rfl⟩) ⟨.start, []⟩ .start
    (clientCalls (.int 7)) _ (clientCalls_flawless hne) (clientCalls_streams _)
    (clientCalls_across hne hdifferent hdifferent.symm)
  obtain ⟨h₁, h₂⟩ := decodeEvent_client hne
  have hfate := halike.fate_eq (show clientCalls (.int 7) = [streamCall 1 _, streamCall 2 _] from rfl)
    rfl (show 1 ≠ 2 by decide)
  rw [streamCall_db h₂, streamCall_fate h₁, streamCall_fate h₁] at hfate
  exact absurd (client_accepted.symm.trans (hfate.trans client_refused)) (by decide)

end EventPipeline

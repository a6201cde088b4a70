import Mathlib.Data.Fintype.Card
import EventPipeline.Generator

/-!
# The load simulator

`simulate.py` sends the events of a number of orders, each order's own events in causal order and
some `ORDER_CREATED` events once more at the end. Orders whose numbers are equal modulo 5000 are of
the same client and go to the same external address.
-/

namespace EventPipeline

/-! ### Texts -/

/-- The text consists of letters of some kind, digits and hyphens. -/
def Spelled (letter : Char → Bool) (t : String) : Prop :=
  ∀ c ∈ t.toList, letter c = true ∨ c.isDigit = true ∨ c = '-'

lemma spelled_of_all {letter : Char → Bool} {t : String}
    (h : t.toList.all (fun c => letter c || c.isDigit || c = '-') = true) : Spelled letter t := by
  intro c hc
  simpa [or_assoc] using List.all_eq_true.mp h c hc

lemma Spelled.append {letter : Char → Bool} {t t' : String} (h : Spelled letter t)
    (h' : Spelled letter t') : Spelled letter (t ++ t') := by
  intro c hc
  rw [String.toList_append] at hc
  exact (List.mem_append.mp hc).elim (h c) (h' c)

lemma spelled_zeroPad (letter : Char → Bool) (width n : ℕ) : Spelled letter (zeroPad width n) :=
  fun _ hc => .inr (.inl (isDigit_zeroPad hc))

/-! ### Event ids -/

/-- `uuid.UUID`, as its 128 bits. -/
abbrev Uuid := Fin (2 ^ 128)

namespace Uuid

/-- `'%032x' % self.int` -/
def hex (u : Uuid) : List Char :=
  (List.range 32).map fun i => Nat.digitChar (u.val / 16 ^ (31 - i) % 16)

/-- `str(self)` -/
def text (u : Uuid) : String :=
  .ofList (u.hex.take 8 ++ '-' :: (u.hex.drop 8).take 4 ++ '-' :: (u.hex.drop 12).take 4 ++
    '-' :: (u.hex.drop 16).take 4 ++ '-' :: u.hex.drop 20)

lemma length_text (u : Uuid) : u.text.length = 36 := by
  have hlength : u.hex.length = 32 := by rw [hex, List.length_map, List.length_range]
  simp only [text, String.length_ofList, List.length_append, List.length_cons, List.length_take,
    List.length_drop, hlength]
  rfl

/-- Hexadecimal digits are written in lower case. -/
lemma spelled_text (u : Uuid) : Spelled Char.isLower u.text := by
  have hdigit : ∀ n < 16, (Nat.digitChar n).isLower = true ∨ (Nat.digitChar n).isDigit = true := by
    decide
  have hhex : ∀ c ∈ u.hex, c.isLower = true ∨ c.isDigit = true ∨ c = '-' := by
    intro c hc
    obtain ⟨i, -, rfl⟩ := List.mem_map.mp hc
    exact (hdigit _ (Nat.mod_lt _ (by decide))).imp_right .inl
  intro c hc
  simp only [text, String.toList_ofList, List.mem_append, List.mem_cons] at hc
  rcases hc with (((hc | rfl | hc) | rfl | hc) | rfl | hc) | rfl | hc
  · exact hhex c (List.mem_of_mem_take hc)
  · exact .inr (.inr rfl)
  · exact hhex c (List.mem_of_mem_drop (List.mem_of_mem_take hc))
  · exact .inr (.inr rfl)
  · exact hhex c (List.mem_of_mem_drop (List.mem_of_mem_take hc))
  · exact .inr (.inr rfl)
  · exact hhex c (List.mem_of_mem_drop (List.mem_of_mem_take hc))
  · exact .inr (.inr rfl)
  · exact hhex c (List.mem_of_mem_drop hc)

/-- A number is determined by its hexadecimal digits. -/
lemma hex_injective : Function.Injective hex := by
  intro u v h
  have hchar : ∀ m < 16, ∀ n < 16, Nat.digitChar m = Nat.digitChar n → m = n := by decide
  have hdigit : ∀ k < 32, u.val / 16 ^ k % 16 = v.val / 16 ^ k % 16 := by
    intro k hk
    have hk' := congrArg (·[31 - k]?) h
    have hlt : 31 - k < 32 := by omega
    have hsub : 31 - (31 - k) = k := by omega
    simp only [hex, List.getElem?_map, List.getElem?_range hlt, Option.map_some, hsub,
      Option.some.injEq] at hk'
    exact hchar _ (Nat.mod_lt _ (by decide)) _ (Nat.mod_lt _ (by decide)) hk'
  have hmod : ∀ k ≤ 32, u.val % 16 ^ k = v.val % 16 ^ k := by
    intro k
    induction k with
    | zero => simp [Nat.mod_one]
    | succ k ih =>
      intro hk
      rw [Nat.mod_pow_succ, Nat.mod_pow_succ, ih (by omega), hdigit k (by omega)]
  have hall := hmod 32 le_rfl
  have hbits : 16 ^ 32 = 2 ^ 128 := by decide
  rw [hbits, Nat.mod_eq_of_lt u.isLt, Nat.mod_eq_of_lt v.isLt] at hall
  exact Fin.ext hall

/-- The digits are what is left without the hyphens. -/
lemma filter_text (u : Uuid) : u.text.toList.filter (· ≠ '-') = u.hex := by
  have hdigit : ∀ n < 16, Nat.digitChar n ≠ '-' := by decide
  have hhex : ∀ c ∈ u.hex, c ≠ '-' := by
    intro c hc
    obtain ⟨i, -, rfl⟩ := List.mem_map.mp hc
    exact hdigit _ (Nat.mod_lt _ (by decide))
  have hpart : ∀ part : List Char, (∀ c ∈ part, c ∈ u.hex) → part.filter (· ≠ '-') = part := by
    intro part hsub
    exact List.filter_eq_self.mpr fun c hc => decide_eq_true (hhex c (hsub c hc))
  have hmid : ∀ i, ((u.hex.drop i).take 4).filter (· ≠ '-') = (u.hex.drop i).take 4 := fun i =>
    hpart _ fun c hc => List.mem_of_mem_drop (List.mem_of_mem_take hc)
  have hlast : (u.hex.drop 20).filter (· ≠ '-') = u.hex.drop 20 :=
    hpart _ fun c hc => List.mem_of_mem_drop hc
  have hfirst : (u.hex.take 8).filter (· ≠ '-') = u.hex.take 8 :=
    hpart _ fun c hc => List.mem_of_mem_take hc
  have hjoin : ∀ i, (u.hex.drop i).take 4 ++ u.hex.drop (i + 4) = u.hex.drop i := by
    intro i
    rw [← List.drop_drop, List.take_append_drop]
  have hhyphen : ∀ part : List Char, ('-' :: part).filter (· ≠ '-') = part.filter (· ≠ '-') :=
    fun part => List.filter_cons_of_neg (by decide)
  simp only [text, String.toList_ofList, List.filter_append, hhyphen, List.append_assoc]
  rw [hfirst, hmid, hmid, hmid, hlast, hjoin 16, hjoin 12, hjoin 8, List.take_append_drop]

lemma text_injective : Function.Injective text := by
  intro u v h
  have hfilter := congrArg (fun t => t.toList.filter (· ≠ '-')) h
  simp only [filter_text] at hfilter
  exact hex_injective hfilter

end Uuid

/-! ### Events -/

/-- `make_order_created`, with the uuid it draws and the readings of the clock. -/
def makeOrderCreated (orderSeq : ℕ) (eventId : Uuid) (occurredAt orderDate : String) :
    Json × String :=
  let externalOrderId := "ORD-" ++ zeroPad 8 orderSeq
  let externalClientId := "CLI-" ++ zeroPad 6 (orderSeq % 5000)
  (.obj [
    ("event_id", .str eventId.text),
    ("event_type", .str "ORDER_CREATED"),
    ("occurred_at", .str occurredAt),
    ("data", .obj [
      ("external_order_id", .str externalOrderId),
      ("client", .obj [
        ("external_client_id", .str externalClientId),
        ("name", .str ("Client " ++ toString (orderSeq % 5000))),
        ("email", .str ("client" ++ toString (orderSeq % 5000) ++ "@example.com")),
        ("document", .str (zeroPad 11 (orderSeq % 99999999)))]),
      ("address", .obj [
        ("external_address_id", .str ("ADDR-" ++ zeroPad 6 (orderSeq % 5000))),
        ("street", .str "Rua Synthetic"),
        ("number", .str (toString (100 + orderSeq % 900))),
        ("complement", .null),
        ("neighborhood", .str "Centro"),
        ("city", .str "Sao Paulo"),
        ("state", .str "SP"),
        ("postal_code", .str "01000-000"),
        ("country", .str "BR")]),
      ("items", .arr [.obj [
        ("sku", .str ("SKU-" ++ toString (orderSeq % 100))),
        ("description", .str "Widget"),
        ("quantity", .int 2),
        ("unit_price", .num ⟨499, 1⟩)]]),
      ("total_amount", .num ⟨998, 1⟩),
      ("currency", .str "BRL"),
      ("order_date", .str orderDate)])],
    externalOrderId)

/-- `make_status_changed` -/
def makeStatusChanged (externalOrderId newStatus : String) (eventId : Uuid)
    (occurredAt : String) : Json :=
  .obj [
    ("event_id", .str eventId.text),
    ("event_type", .str "ORDER_STATUS_CHANGED"),
    ("occurred_at", .str occurredAt),
    ("data", .obj [
      ("external_order_id", .str externalOrderId),
      ("new_status", .str newStatus)])]

/-- `make_payment_confirmed` -/
def makePaymentConfirmed (orderSeq : ℕ) (externalOrderId : String) (eventId : Uuid)
    (occurredAt paidAt : String) : Json :=
  .obj [
    ("event_id", .str eventId.text),
    ("event_type", .str "PAYMENT_CONFIRMED"),
    ("occurred_at", .str occurredAt),
    ("data", .obj [
      ("external_payment_id", .str ("PAY-" ++ zeroPad 8 orderSeq)),
      ("external_order_id", .str externalOrderId),
      ("method", .str "PIX"),
      ("status", .str "CONFIRMED"),
      ("amount", .num ⟨998, 1⟩),
      ("paid_at", .str paidAt)])]

/-! ### Workloads -/

/-- The events `run_order` makes for an order. -/
inductive OrderStep
  | created
  | approved
  | paid
  deriving DecidableEq, Repr

/-- What a run of the simulator draws: the number of orders, the orders whose creation is sent once
more, the uuids, and the times as `strftime` writes them. -/
structure Workload where
  orders : ℕ
  replayed : ℕ → Bool
  eventId : ℕ → OrderStep → Uuid
  occurredAt : ℕ → OrderStep → String
  /-- `order_date`, or `paid_at`. -/
  date : ℕ → OrderStep → String

namespace Workload

variable (wl : Workload)

/-- An event of an order. -/
def event (seq : ℕ) : OrderStep → Json
  | .created => (makeOrderCreated seq (wl.eventId seq .created) (wl.occurredAt seq .created)
      (wl.date seq .created)).1
  | .approved => makeStatusChanged ("ORD-" ++ zeroPad 8 seq) "APPROVED" (wl.eventId seq .approved)
      (wl.occurredAt seq .approved)
  | .paid => makePaymentConfirmed seq ("ORD-" ++ zeroPad 8 seq) (wl.eventId seq .paid)
      (wl.occurredAt seq .paid) (wl.date seq .paid)

/-- `run_order` -/
def runOrder (seq : ℕ) : List OrderStep :=
  [.created, .approved, .paid] ++ if wl.replayed seq then [.created] else []

/-- The events of all orders, those of every order in its own sequence. -/
def Interleaves (ops : List (ℕ × OrderStep)) : Prop :=
  ∀ seq, (ops.filter (·.1 = seq)).map Prod.snd = if seq < wl.orders then wl.runOrder seq else []

/-- The event ids are distinct. -/
def DistinctIds : Prop :=
  ∀ seq step seq' step', seq < wl.orders → seq' < wl.orders →
    (wl.eventId seq step).text = (wl.eventId seq' step').text → seq = seq' ∧ step = step'

variable {wl}

/-- There are fewer orders than uuids. -/
lemma DistinctIds.orders_le (h : wl.DistinctIds) : wl.orders ≤ 2 ^ 128 := by
  have hinj : Function.Injective fun i : Fin wl.orders => wl.eventId i .created := by
    intro i j hij
    exact Fin.ext (h i .created j .created i.isLt j.isLt (congrArg Uuid.text hij)).1
  simpa using Fintype.card_le_of_injective _ hinj

end Workload

end EventPipeline

import EventPipeline.Fleet

/-!
# Whether `handle_message` returns

The clauses of `handle_message` catch whatever the attempts raise, but three of them read
`event["event_type"]` again. It has been read before only if an attempt got as far as
`process_event`, so an event without it raises out of its handler exactly when the database
could not be reached (`handleMessage_returns_iff`).
-/

namespace EventPipeline

open Transaction Prog

/-- The event has no `event_type`, or is no object. -/
def Untyped (event : Json) : Prop :=
  ∀ eventType, event.getItem "event_type" ≠ .ok eventType

/-- The last of the attempts fails in `engine.begin()`, and so does every one before it. -/
def OpeningFails (attempts : ℕ → Attempt) : Prop :=
  ∃ i ≤ 2, (∀ j < i, ∃ e, (attempts j).begin = some e ∧ e.cls = .operational) ∧
    ∃ e, (attempts i).begin = some e ∧ (e.cls = .operational → i = 2)

lemma untyped_iff {event : Json} :
    Untyped event ↔ ∃ e, event.getItem "event_type" = .error e := by
  unfold Untyped
  cases event.getItem "event_type" <;> simp

lemma countEvent_returns {w : World} {event : Json} {outcome : Outcome} :
    (w.countEvent event outcome).1 = .ok () ↔ ¬ Untyped event := by
  rw [untyped_iff]
  unfold World.countEvent
  cases event.getItem "event_type" <;> simp

/-- Only the clause for exceptions of Python's own does without the type of the event. -/
lemma conclude_returns (ext : Externals) (env : CallEnv) (event eventId : Json)
    (result : Except Exn (Option Outbox)) (w : World) :
    (conclude ext env event eventId result w).1 = .ok () ↔
      ¬ Untyped event ∨ ∃ e, result = .error (.python e) := by
  unfold conclude
  split
  · simp [countEvent_returns]
  · split_ifs <;> simp [countEvent_returns]
  · simp
  · split
    · rename_i e w' heq
      have hcount : ¬ ((w.countEvent event .success).1 = .ok ()) := by simp [heq]
      rw [countEvent_returns, not_not] at hcount
      simp [hcount]
    · rename_i w' heq
      have hcount : (w.countEvent event .success).1 = .ok () := by rw [heq]
      rw [countEvent_returns] at hcount
      refine iff_of_true ?_ (.inl hcount)
      split
      · split_ifs <;> rfl
      · rfl

/-- An attempt at an event without a type ends before its first statement. -/
lemma runInTxn_untyped {event eventId : Json} (h : Untyped event)
    (hid : event.getItem "event_id" = .ok eventId) :
    ∃ x, ∀ (sql : SqlServer) (env : Attempt) (db : Database),
      runInTxn sql env event eventId db = (.error (match env.begin with
        | some e => .sql e
        | none => .python x), db) := by
  obtain ⟨x, hx⟩ := untyped_iff.mp h
  have hfail : eventTxn event eventId = .fail (.python x) := by
    simp [eventTxn, processEvent, item, eval, hid, hx]
  refine ⟨x, fun sql env db => ?_⟩
  unfold runInTxn
  cases env.begin with
  | some e => rfl
  | none => simp [hfail]

/-- Attempts that fail to open with operational errors are all made. -/
lemma reaches_of_opening {sql : SqlServer} {attempts : ℕ → Attempt} {event eventId : Json}
    {db : Database} {i : ℕ}
    (h : ∀ j < i, ∃ e, (attempts j).begin = some e ∧ e.cls = .operational) {k : ℕ}
    (hk : k ≤ i) :
    Reaches Exn.isOperational (fun j => runInTxn sql (attempts j) event eventId) (i - k) db i
      db := by
  induction k with
  | zero => exact .here i db
  | succ k ih =>
    obtain ⟨e, hbegin, hcls⟩ := h (i - (k + 1)) (by omega)
    have hstep : runInTxn sql (attempts (i - (k + 1))) event eventId db =
        (.error (.sql e), db) := by
      simp only [runInTxn, hbegin]
    refine .next hstep (by simp [Exn.isOperational, hcls]) ?_
    rw [show i - (k + 1) + 1 = i - k by omega]
    exact ih (by omega)

lemma runAttempts_untyped {sql : SqlServer} {attempts : ℕ → Attempt} {event eventId : Json}
    {db : Database} (h : Untyped event) (hid : event.getItem "event_id" = .ok eventId) :
    (∃ e, (runAttempts sql attempts event eventId db).1 = .error (.python e)) ↔
      ¬ OpeningFails attempts := by
  obtain ⟨x, hx⟩ := runInTxn_untyped h hid
  constructor
  · rintro ⟨e, he⟩ ⟨i, hi, hbefore, e', hbegin, hlast⟩
    have hreach : Reaches Exn.isOperational (fun j => runInTxn sql (attempts j) event eventId)
        (i - i) db i db := reaches_of_opening hbefore (Nat.le_refl i)
    rw [Nat.sub_self] at hreach
    have hend : runInTxn sql (attempts i) event eventId db = (.error (.sql e'), db) := by
      rw [hx, hbegin]
    have hretry : retry Exn.isOperational (fun i => runInTxn sql (attempts i) event eventId)
        (2 - i) i db = (.error (.sql e'), db) := by
      by_cases hop : e'.cls = .operational
      · obtain rfl := hlast hop
        exact hend
      · rw [retry_eq_attempt _ (2 - i), hend]
        intro y hy
        rw [hend] at hy
        cases hy
        simpa [Exn.isOperational] using hop
    rw [runAttempts, hreach.retry_eq (by omega), Nat.zero_add, hretry] at he
    cases he
  · intro hopen
    obtain ⟨i, db', hi, hreach, heq, hlast⟩ := retry_reaches Exn.isOperational
      (fun i => runInTxn sql (attempts i) event eventId) 2 0 db
    rw [runAttempts, heq, hx]
    rw [hx] at hlast
    cases hbegin : (attempts i).begin with
    | none => exact ⟨x, rfl⟩
    | some e =>
      rw [hbegin] at hlast
      refine absurd ⟨i, by omega, fun j hj => ?_, e, hbegin, fun hop => ?_⟩ hopen
      · obtain ⟨dbⱼ, y, -, hy, hop⟩ := hreach.earlier (Nat.zero_le j) hj
        rw [hx] at hy
        cases hbeginⱼ : (attempts j).begin with
        | none =>
          rw [hbeginⱼ] at hy
          cases hy
          cases hop
        | some e' =>
          rw [hbeginⱼ] at hy
          cases hy
          exact ⟨e', rfl, by simpa [Exn.isOperational] using hop⟩
      · exact hlast _ rfl (by simp [Exn.isOperational, hop])

/-- `handle_message` returns, whatever the message and whatever the environment does, except
for an event without a type whose attempts end without a connection. -/
theorem handleMessage_returns_iff (ext : Externals) (env : CallEnv) (msg : Message) (w : World) :
    (handleMessage ext env msg w).1 = .ok () ↔
      ¬ ∃ event eventId, decodeEvent ext msg.value = .ok (event, eventId) ∧ Untyped event ∧
        OpeningFails env.attempts := by
  unfold handleMessage
  split
  · rename_i e heq
    simp [heq]
  · rename_i event eventId heq
    rw [conclude_returns, heq]
    simp only [Except.ok.injEq, Prod.mk.injEq]
    by_cases huntyped : Untyped event
    · rw [runAttempts_untyped huntyped (decodeEvent_eventId heq)]
      simp [huntyped]
    · simp [huntyped]

def untypedText : String :=
  "\x7b\"event_id\":\"e1\"\x7d"

def untypedEvent : Json :=
  .obj [("event_id", .str "e1")]

/-- A call during which no connection can be opened. -/
def CallEnv.refused : CallEnv :=
  { CallEnv.healthy with
    attempts _ := { Attempt.healthy with begin := some ⟨.operational, "Login timeout expired"⟩ } }

/-- The handler of the exhausted attempts raises a `KeyError` of its own. -/
theorem handleMessage_raises :
    (handleMessage (.reading [(untypedText, untypedEvent)]) .refused ⟨0, untypedText.toUTF8⟩
      .start).1 = .error ⟨"'event_type'"⟩ := by
  have hdec : decodeEvent (.reading [(untypedText, untypedEvent)]) untypedText.toUTF8 =
      .ok (untypedEvent, .str "e1") := decodeEvent_reading lookup_head rfl
  simp only [handleMessage, hdec]
  rfl

end EventPipeline

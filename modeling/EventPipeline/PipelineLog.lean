import EventPipeline.Library.Retention
import EventPipeline.Consumer

/-!
# The retention of `pipeline_log`

The table of the operational log under `log_pipeline_event`, which adds a row, and the runs of
`enforce_retention`, which delete the rows of more than seven days and 200 of the oldest others if
there are more than 100,000. A committed run leaves the table within its cap exactly when it found
at most 100,200 rows of seven days (`retention_bounded_iff`).
-/

namespace EventPipeline

open Transaction

def retentionDays : ℕ := 7

def maxRows : ℕ := 100000

def trimBatchSize : ℕ := 200

/-- A day on the clock of the server, which counts units of 100 ns. -/
def day : ℕ := 864000000000

/-- How a run ends: it returns, a statement or the commit raises, or the commit raises although it
took effect. -/
inductive RunEnd
  | returned
  | aborted (e : PyError)
  | unanswered (e : PyError)

def RunEnd.commits : RunEnd → Bool
  | .aborted _ => false
  | _ => true

/-- What the server does during one run. -/
structure RetentionEnv where
  /-- The clock as the first `DELETE` reads it. -/
  now : ℕ
  /-- `ORDER BY created_at ASC` -/
  arrangement : Arrangement PipelineLog.createdAt
  ending : RunEnd

/-- `created_at < DATEADD(day, -7, SYSUTCDATETIME())` -/
def PipelineLog.expired (now : ℕ) (row : PipelineLog) : Bool :=
  row.createdAt + retentionDays * day < now

/-- What the first `DELETE` leaves. -/
def unexpired (now : ℕ) (rows : List PipelineLog) : List PipelineLog :=
  rows.filter fun row => !row.expired now

/-- What the second `DELETE` leaves, which is executed if `SELECT COUNT(*)` returns too many. -/
def trimmed (arrangement : Arrangement PipelineLog.createdAt) (rows : List PipelineLog) :
    List PipelineLog :=
  if maxRows < rows.length then arrangement.trim PipelineLog.logId trimBatchSize rows else rows

/-- The statements of a run. -/
def retentionTxn (env : RetentionEnv) (rows : List PipelineLog) : List PipelineLog :=
  trimmed env.arrangement (unexpired env.now rows)

/-- `enforce_retention` -/
def enforceRetention (env : RetentionEnv) (rows : List PipelineLog) :
    Except PyError Unit × List PipelineLog :=
  match env.ending with
  | .returned => (.ok (), retentionTxn env rows)
  | .aborted e => (.error e, rows)
  | .unanswered e => (.error e, retentionTxn env rows)

/-! ### The table over time -/

/-- One use of the table. -/
inductive Activity
  | logged (conn : LogConnection) (service level message : String) (eventId : Json)
  | enforced (env : RetentionEnv)

/-- The rows of the table, and all that were ever inserted. -/
structure LogTable where
  rows : List PipelineLog
  inserted : List PipelineLog

namespace LogTable

def empty : LogTable := ⟨[], []⟩

def act (sql : SqlServer) (t : LogTable) : Activity → LogTable
  | .logged conn service level message eventId =>
    ⟨logPipelineEvent sql conn service level message eventId t.rows,
      logPipelineEvent sql conn service level message eventId t.inserted⟩
  | .enforced env => { t with rows := (enforceRetention env t.rows).2 }

/-- The table behind a sequence of uses. -/
def behind (sql : SqlServer) (activities : List Activity) : LogTable :=
  activities.foldl (act sql) empty

/-- The clock of the server does not run back, and its IDENTITY counts up. -/
def Admits (t : LogTable) : Activity → Prop
  | .logged conn _ _ _ _ => ∀ row ∈ t.inserted, row.createdAt ≤ conn.now ∧ row.logId < conn.logId
  | .enforced _ => True

/-- What every use keeps: rows only leave the table, and no two have one key. -/
structure Inv (t : LogTable) : Prop where
  sublist : List.Sublist t.rows t.inserted
  keys : t.inserted.Pairwise fun row row' => row.logId < row'.logId

end LogTable

/-- A sequence of uses that the server admits one after the other. -/
def Admissible (sql : SqlServer) (activities : List Activity) : Prop :=
  ∀ before activity, before ++ [activity] <+: activities →
    (LogTable.behind sql before).Admits activity

variable {sql : SqlServer} {conn : LogConnection} {env : RetentionEnv} {t : LogTable}
  {activity : Activity} {activities before : List Activity} {rows : List PipelineLog}

/-! ### One use -/

/-- The insertion either adds the same row to every table, or fails. -/
lemma logPipelineEvent_cases (sql : SqlServer) (conn : LogConnection)
    (service level message : String) (eventId : Json) :
    (∀ log, logPipelineEvent sql conn service level message eventId log = log) ∨
      ∃ row, row.createdAt = conn.now ∧ row.logId = conn.logId ∧
        ∀ log, logPipelineEvent sql conn service level message eventId log = log ++ [row] := by
  unfold logPipelineEvent
  by_cases hreachable : conn.reachable
  · simp only [hreachable, if_true]
    cases hrow : pipelineLogRow sql conn service level message eventId with
    | error f => exact .inl fun log => rfl
    | ok row =>
      refine .inr ⟨row, ?_, ?_, fun log => rfl⟩
      all_goals
        simp only [pipelineLogRow] at hrow
        split_ifs at hrow
        simp only [bind_eq_ok] at hrow
        obtain ⟨_, -, _, -, _, -, _, -, hrow⟩ := hrow
        rw [← Except.ok.inj hrow]
  · exact .inl fun log => if_neg hreachable

lemma unexpired_sublist (now : ℕ) (rows : List PipelineLog) :
    List.Sublist (unexpired now rows) rows :=
  List.filter_sublist

lemma retentionTxn_sublist (env : RetentionEnv) (rows : List PipelineLog) :
    List.Sublist (retentionTxn env rows) (unexpired env.now rows) := by
  unfold retentionTxn trimmed
  split_ifs
  · exact env.arrangement.trim_sublist _ _ _
  · exact .refl _

lemma enforceRetention_sublist (env : RetentionEnv) (rows : List PipelineLog) :
    List.Sublist (enforceRetention env rows).2 rows := by
  unfold enforceRetention
  cases env.ending with
  | returned => exact (retentionTxn_sublist env rows).trans (unexpired_sublist _ _)
  | aborted e => exact .refl _
  | unanswered e => exact (retentionTxn_sublist env rows).trans (unexpired_sublist _ _)

namespace LogTable

lemma Inv.act (h : t.Inv) (sql : SqlServer) (hadmits : t.Admits activity) :
    (t.act sql activity).Inv := by
  cases activity with
  | logged conn service level message eventId =>
    rcases logPipelineEvent_cases sql conn service level message eventId with
      hfailed | ⟨row, -, hid, hrow⟩
    · simpa only [LogTable.act, hfailed] using h
    · simp only [LogTable.act, hrow]
      refine ⟨h.sublist.append (.refl _), List.pairwise_append.mpr
        ⟨h.keys, List.pairwise_singleton _ _, fun earlier hmem latest hlatest => ?_⟩⟩
      rw [List.mem_singleton.mp hlatest, hid]
      exact (hadmits earlier hmem).2
  | enforced env => exact ⟨(enforceRetention_sublist env t.rows).trans h.sublist, h.keys⟩

lemma Inv.nodup (h : t.Inv) : (t.rows.map PipelineLog.logId).Nodup :=
  List.pairwise_map.mpr ((h.keys.sublist h.sublist).imp Nat.ne_of_lt)

@[simp] lemma behind_append (sql : SqlServer) (before : List Activity) (activity : Activity) :
    behind sql (before ++ [activity]) = (behind sql before).act sql activity := by
  simp [behind]

end LogTable

lemma length_inserted_le (sql : SqlServer) (activities : List Activity) :
    (LogTable.behind sql activities).inserted.length ≤ activities.length := by
  induction activities using List.reverseRecOn with
  | nil => exact Nat.le_refl _
  | append_singleton before activity ih =>
    rw [LogTable.behind_append, List.length_append]
    refine Nat.le_trans ?_ (Nat.add_le_add_right ih 1)
    cases activity with
    | logged conn service level message eventId =>
      rcases logPipelineEvent_cases sql conn service level message eventId with
        hfailed | ⟨row, -, -, hrow⟩
      · simp [LogTable.act, hfailed]
      · simp [LogTable.act, hrow]
    | enforced env => exact Nat.le_succ _

lemma Admissible.append (h : Admissible sql activities)
    (hadmits : (LogTable.behind sql activities).Admits activity) :
    Admissible sql (activities ++ [activity]) := by
  intro before activity' hbefore
  rcases List.prefix_concat_iff.mp hbefore with heq | hbefore
  · obtain ⟨rfl, rfl⟩ := List.append_inj' heq rfl |>.imp_right List.singleton_inj.mp
    exact hadmits
  · exact h before activity' hbefore

lemma Admissible.inv (h : Admissible sql activities) (hbefore : before <+: activities) :
    (LogTable.behind sql before).Inv := by
  induction before using List.reverseRecOn with
  | nil => exact ⟨.refl _, .nil⟩
  | append_singleton before activity ih =>
    rw [LogTable.behind_append]
    exact (ih ((List.prefix_append _ _).trans hbefore)).act sql (h before activity hbefore)

/-! ### The cap -/

/-- What a run is to leave. -/
def Bounded (now : ℕ) (rows : List PipelineLog) : Prop :=
  rows.length ≤ maxRows ∧ ∀ row ∈ rows, row.expired now = false

/-- The age is always kept; the number is, unless one batch is not enough. -/
lemma bounded_retentionTxn (env : RetentionEnv) (hkeys : (rows.map PipelineLog.logId).Nodup) :
    Bounded env.now (retentionTxn env rows) ↔
      (unexpired env.now rows).length ≤ maxRows + trimBatchSize := by
  have hage : ∀ row ∈ retentionTxn env rows, row.expired env.now = false := fun row hmem => by
    simpa using (List.mem_filter.mp ((retentionTxn_sublist env rows).subset hmem)).2
  have hkept : ((unexpired env.now rows).map PipelineLog.logId).Nodup :=
    hkeys.sublist ((unexpired_sublist _ _).map _)
  have hnumber : (retentionTxn env rows).length =
      if maxRows < (unexpired env.now rows).length then
        (unexpired env.now rows).length - trimBatchSize
      else (unexpired env.now rows).length := by
    unfold retentionTxn trimmed
    split_ifs
    · exact env.arrangement.length_trim hkept trimBatchSize
    · rfl
  rw [Bounded, and_iff_left hage, hnumber]
  split_ifs <;> omega

lemma enforceRetention_commits (h : env.ending.commits = true) (rows : List PipelineLog) :
    (enforceRetention env rows).2 = retentionTxn env rows := by
  unfold enforceRetention
  cases hending : env.ending with
  | returned => rfl
  | aborted e =>
    rw [hending] at h
    cases h
  | unanswered e => rfl

/-! ### Bursts of errors -/

/-- The row of the `i`-th error. -/
def errorRow (i : ℕ) : PipelineLog where
  logId := i
  createdAt := i
  service := ⟨"ingestion-consumer", by decide⟩
  level := ⟨"ERROR", by decide⟩
  message := ⟨"DB error: ", by decide⟩
  eventId := none

/-- What the log stores of an error. -/
lemma log_error (sql : SqlServer) (now logId : ℕ) (log : List PipelineLog) :
    logPipelineEvent sql ⟨true, now, logId⟩ "ingestion-consumer" "ERROR" "DB error: " .null log =
      log ++ [{ errorRow logId with createdAt := now }] := by
  have htake : ("DB error: ".take 500).toString = "DB error: " := by decide
  exact logPipelineEvent_eq rfl (SqlServer.keeps_of_ascii (by decide) (by decide))
    (SqlServer.keeps_of_ascii (by decide) (by decide)) rfl
    (htake ▸ SqlServer.stored_of_ascii (by decide) (by decide)) rfl log

/-- Errors logged one after the other. -/
def burst (n : ℕ) : List Activity :=
  (List.range n).map fun i => .logged ⟨true, i, i⟩ "ingestion-consumer" "ERROR" "DB error: " .null

/-- A run right after the errors. -/
def hourlyRun (now : ℕ) : RetentionEnv where
  now := now
  arrangement := .stable PipelineLog.createdAt
  ending := .returned

lemma burst_succ (n : ℕ) : burst (n + 1) =
    burst n ++ [.logged ⟨true, n, n⟩ "ingestion-consumer" "ERROR" "DB error: " .null] := by
  simp [burst, List.range_succ]

lemma behind_burst (sql : SqlServer) (n : ℕ) :
    LogTable.behind sql (burst n) =
      ⟨(List.range n).map errorRow, (List.range n).map errorRow⟩ := by
  induction n with
  | zero => rfl
  | succ n ih =>
    rw [burst_succ, LogTable.behind_append, ih, LogTable.act, log_error, List.range_succ,
      List.map_append]
    rfl

lemma admissible_burst (sql : SqlServer) (n : ℕ) : Admissible sql (burst n) := by
  induction n with
  | zero =>
    intro before activity hbefore
    cases List.append_eq_nil_iff.mp (List.prefix_nil.mp hbefore) |>.2
  | succ n ih =>
    rw [burst_succ]
    refine ih.append ?_
    rw [behind_burst]
    intro row hmem
    obtain ⟨i, hi, rfl⟩ := List.mem_map.mp hmem
    have hlt := List.mem_range.mp hi
    exact ⟨hlt.le, hlt⟩

lemma unexpired_burst {now : ℕ} (n : ℕ) (h : now ≤ retentionDays * day) :
    unexpired now ((List.range n).map errorRow) = (List.range n).map errorRow := by
  refine List.filter_eq_self.mpr fun row hmem => ?_
  obtain ⟨i, -, rfl⟩ := List.mem_map.mp hmem
  simp only [PipelineLog.expired, Bool.not_eq_true', decide_eq_false_iff_not]
  omega

/-- A run right after a burst of errors leaves too many if they are one batch above the cap. -/
lemma bounded_burst {n : ℕ} (h : n ≤ retentionDays * day) :
    Bounded n (LogTable.behind sql (burst n ++ [.enforced (hourlyRun n)])).rows ↔
      n ≤ maxRows + trimBatchSize := by
  have hkeys : (((List.range n).map errorRow).map PipelineLog.logId).Nodup := by
    rw [List.map_map]
    exact (List.map_id (List.range n)).symm ▸ List.nodup_range
  have hbounded := bounded_retentionTxn (hourlyRun n) hkeys
  rw [show (hourlyRun n).now = n from rfl, unexpired_burst n h, List.length_map,
    List.length_range] at hbounded
  rw [LogTable.behind_append, behind_burst]
  exact hbounded

/-! ### Every run -/

/-- In every history of the log, whatever is logged between the runs, the committed runs leave the
table within its bounds if and only if each of them finds at most one batch more than the cap. -/
theorem retention_bounded_iff (h : Admissible sql activities) :
    (∀ before env, before ++ [.enforced env] <+: activities → env.ending.commits = true →
        Bounded env.now (LogTable.behind sql (before ++ [.enforced env])).rows) ↔
      ∀ before env, before ++ [.enforced env] <+: activities → env.ending.commits = true →
        (unexpired env.now (LogTable.behind sql before).rows).length ≤
          maxRows + trimBatchSize := by
  have hrun : ∀ before env, before ++ [.enforced env] <+: activities →
      env.ending.commits = true →
      (Bounded env.now (LogTable.behind sql (before ++ [.enforced env])).rows ↔
        (unexpired env.now (LogTable.behind sql before).rows).length ≤
          maxRows + trimBatchSize) := by
    intro before env hbefore hcommits
    have hinv := h.inv ((List.prefix_append _ _).trans hbefore)
    rw [LogTable.behind_append, LogTable.act, enforceRetention_commits hcommits]
    exact bounded_retentionTxn env hinv.nodup
  exact ⟨fun hall before env hbefore hcommits =>
      (hrun before env hbefore hcommits).mp (hall before env hbefore hcommits),
    fun hall before env hbefore hcommits =>
      (hrun before env hbefore hcommits).mpr (hall before env hbefore hcommits)⟩

/-- A run after three errors. -/
theorem retention_bounded_three :
    Bounded 3 (LogTable.behind .plain (burst 3 ++ [.enforced (hourlyRun 3)])).rows := by
  have hadmissible : Admissible .plain (burst 3 ++ [.enforced (hourlyRun 3)]) :=
    (admissible_burst .plain 3).append trivial
  refine (retention_bounded_iff hadmissible).mpr (fun before env hbefore _ => ?_) (burst 3)
    (hourlyRun 3) (List.prefix_refl _) rfl
  have hlength := hbefore.length_le
  have hrows := ((unexpired_sublist env.now _).trans
    (hadmissible.inv ((List.prefix_append _ _).trans hbefore)).sublist).length_le
  have hinserted := length_inserted_le .plain before
  simp only [List.length_append, burst, List.length_map, List.length_range, List.length_cons,
    List.length_nil, maxRows, trimBatchSize] at *
  omega

/-- After a burst of 100,201 errors, a run that nothing disturbs leaves 100,001 rows. -/
theorem burst_exceeds_cap :
    Admissible .plain (burst 100201 ++ [.enforced (hourlyRun 100201)]) ∧
      (hourlyRun 100201).ending.commits = true ∧
      ¬ Bounded 100201 (LogTable.behind .plain
        (burst 100201 ++ [.enforced (hourlyRun 100201)])).rows := by
  refine ⟨(admissible_burst .plain 100201).append trivial, rfl, fun hbounded => ?_⟩
  have hle := (bounded_burst (by decide)).mp hbounded
  revert hle
  decide

end EventPipeline

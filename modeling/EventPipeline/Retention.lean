import EventPipeline.PipelineLog

/-!
# Retention while rows are logged

The statements of `enforce_retention` one by one, while the consumer logs rows on connections of its
own. Whatever `TOP` picks among rows of one time, and wherever a run is rolled back, the table only
ever loses its oldest rows (`retention_forgets_oldest`).
-/

namespace EventPipeline

open Transaction

/-- How far a run is: the first `DELETE` is executed, the rows that are left are counted, or the
second `DELETE` is executed or skipped. -/
inductive RunStage
  | expired
  | counted (left : List PipelineLog)
  | trimmed (left : List PipelineLog)

/-- A run whose transaction is open: the clock as its first `DELETE` read it, the table as that
found it, and the table as the transaction sees it. -/
structure OpenRun where
  now : ℕ
  found : List PipelineLog
  stage : RunStage
  view : List PipelineLog

namespace OpenRun

/-- The first `DELETE`. -/
def start (now : ℕ) (rows : List PipelineLog) : OpenRun :=
  ⟨now, rows, .expired, unexpired now rows⟩

/-- `SELECT COUNT(*) FROM pipeline_log` -/
def count (run : OpenRun) : OpenRun :=
  { run with stage := .counted run.view }

/-- `if count > MAX_ROWS`, the second `DELETE`. -/
def trim (arrangement : Arrangement PipelineLog.createdAt) (left : List PipelineLog)
    (run : OpenRun) : OpenRun where
  now := run.now
  found := run.found
  stage := .trimmed left
  view :=
    if maxRows < left.length then arrangement.trim PipelineLog.logId trimBatchSize run.view
    else run.view

/-- The rows that the table loses when the run is committed. -/
def deleted (run : OpenRun) (rows : List PipelineLog) : List PipelineLog :=
  rows.filter fun row => row ∉ run.view

end OpenRun

/-- The table as it is committed, all rows that were ever inserted, and the run that is open:
`max_active_runs` is 1. -/
structure LogState where
  rows : List PipelineLog
  inserted : List PipelineLog
  run : Option OpenRun

namespace LogState

def empty : LogState := ⟨[], [], none⟩

/-- The insertion of `log_pipeline_event` commits at once, and an open run sees it. -/
def log (sql : SqlServer) (conn : LogConnection) (service level message : String) (eventId : Json)
    (s : LogState) : LogState where
  rows := logPipelineEvent sql conn service level message eventId s.rows
  inserted := logPipelineEvent sql conn service level message eventId s.inserted
  run := s.run.map fun run =>
    { run with view := logPipelineEvent sql conn service level message eventId run.view }

/-- One statement of a run, or a row that is logged. The clock that stamps the rows does not run
back, and no key is used twice; nothing is asked of the clock of the runs. -/
inductive Step (sql : SqlServer) : LogState → LogState → Prop
  | logged {s : LogState} (conn : LogConnection) (service level message : String) (eventId : Json)
      (hclock : ∀ row ∈ s.inserted, row.createdAt ≤ conn.now)
      (hkey : ∀ row ∈ s.inserted, row.logId ≠ conn.logId) :
      Step sql s (s.log sql conn service level message eventId)
  | started {s : LogState} (now : ℕ) (hrun : s.run = none) :
      Step sql s { s with run := some (.start now s.rows) }
  | counted {s : LogState} {run : OpenRun} (hrun : s.run = some run)
      (hstage : run.stage = .expired) : Step sql s { s with run := some run.count }
  | trimmed {s : LogState} {run : OpenRun} {left : List PipelineLog}
      (arrangement : Arrangement PipelineLog.createdAt) (hrun : s.run = some run)
      (hstage : run.stage = .counted left) :
      Step sql s { s with run := some (run.trim arrangement left) }
  | committed {s : LogState} {run : OpenRun} {left : List PipelineLog} (hrun : s.run = some run)
      (hstage : run.stage = .trimmed left) : Step sql s ⟨run.view, s.inserted, none⟩
  | rolledBack {s : LogState} {run : OpenRun} (hrun : s.run = some run) :
      Step sql s { s with run := none }

def Reachable (sql : SqlServer) (s : LogState) : Prop :=
  Relation.ReflTransGen (Step sql) empty s

/-- The table as it is committed, and as an open run sees it. -/
def tables (s : LogState) : List (List PipelineLog) :=
  s.rows :: (s.run.map (·.view)).toList

end LogState

/-- Only the oldest rows are gone. -/
structure ForgetsOldest (sql : SqlServer) (s : LogState) : Prop where
  /-- No row that is gone is more recent than one that is there. -/
  gone_le : ∀ table ∈ s.tables, ∀ gone ∈ s.inserted, gone ∉ table → ∀ row ∈ table,
    gone.createdAt ≤ row.createdAt
  suffix : ∀ table ∈ s.tables, SuffixUpToTies PipelineLog.createdAt table s.inserted
  /-- A run counts what its first `DELETE` left, and the rows that were logged since. -/
  counted : ∀ run left, s.run = some run → run.stage = .trimmed left →
    ∃ since, left = unexpired run.now run.found ++ since ∧ run.found ++ since <+: s.rows
  /-- A run deletes the rows of more than seven days, and one batch if there are too many others. -/
  deleted : ∀ run left, s.run = some run → run.stage = .trimmed left →
    ∃ further, (run.deleted s.rows).Perm (run.found.filter (·.expired run.now) ++ further) ∧
      further.length = if maxRows < left.length then trimBatchSize else 0
  /-- A row is lost when a run is committed, and not before seven days unless it is trimmed. -/
  lost : ∀ s', LogState.Step sql s s' → ∀ row ∈ s.rows, row ∉ s'.rows →
    ∃ run left, s.run = some run ∧ run.stage = .trimmed left ∧ s'.rows = run.view ∧
      (row.expired run.now = false → maxRows < left.length)

variable {sql : SqlServer} {s s' : LogState} {run : OpenRun} {rows left : List PipelineLog}

/-! ### An open run -/

/-- What has become of the table that the run found, statement by statement. -/
inductive OpenRun.Follows (rows : List PipelineLog) : OpenRun → Prop
  | expired {now : ℕ} {found since : List PipelineLog} (hrows : rows = found ++ since) :
      Follows rows ⟨now, found, .expired, unexpired now found ++ since⟩
  | counted {now : ℕ} {found before after : List PipelineLog}
      (hrows : rows = found ++ before ++ after) :
      Follows rows ⟨now, found, .counted (unexpired now found ++ before),
        unexpired now found ++ before ++ after⟩
  | trimmed {now : ℕ} {found before between after view : List PipelineLog}
      (hrows : rows = found ++ before ++ between ++ after)
      (hview : view.Sublist (unexpired now found ++ before ++ between))
      (hlength : (unexpired now found ++ before ++ between).length - view.length =
        if maxRows < (unexpired now found ++ before).length then trimBatchSize else 0) :
      Follows rows ⟨now, found, .trimmed (unexpired now found ++ before), view ++ after⟩

namespace OpenRun.Follows

lemma concat (h : run.Follows rows) (row : PipelineLog) :
    Follows (rows ++ [row]) { run with view := run.view ++ [row] } := by
  cases h with
  | @expired now found since hrows =>
    rw [List.append_assoc]
    exact .expired (by rw [hrows, List.append_assoc])
  | @counted now found before after hrows =>
    rw [List.append_assoc _ after]
    exact .counted (by rw [hrows, List.append_assoc _ after])
  | @trimmed now found before between after view hrows hview hlength =>
    rw [List.append_assoc]
    exact .trimmed (by rw [hrows, List.append_assoc _ after]) hview hlength

lemma start (now : ℕ) (rows : List PipelineLog) : (OpenRun.start now rows).Follows rows := by
  have h := @Follows.expired rows now rows [] (List.append_nil _).symm
  rwa [List.append_nil] at h

lemma count (h : run.Follows rows) (hstage : run.stage = .expired) : run.count.Follows rows := by
  cases h with
  | @expired now found since hrows =>
    have h := @Follows.counted rows now found since [] (by rw [hrows, List.append_nil])
    rwa [List.append_nil] at h
  | counted => cases hstage
  | trimmed => cases hstage

/-- The view of a run holds rows of the table. -/
lemma view_sublist (h : run.Follows rows) : run.view.Sublist rows := by
  cases h with
  | expired hrows => exact hrows ▸ (unexpired_sublist _ _).append (.refl _)
  | counted hrows =>
    exact hrows ▸ ((unexpired_sublist _ _).append (.refl _)).append (.refl _)
  | trimmed hrows hview =>
    exact hrows ▸ (hview.trans (((unexpired_sublist _ _).append (.refl _)).append
      (.refl _))).append (.refl _)

lemma trim (h : run.Follows rows) (hkeys : (rows.map PipelineLog.logId).Nodup)
    (arrangement : Arrangement PipelineLog.createdAt) (hstage : run.stage = .counted left) :
    (run.trim arrangement left).Follows rows := by
  have hview := (hkeys.sublist (h.view_sublist.map _))
  cases h with
  | expired => cases hstage
  | @counted now found before after hrows =>
    cases hstage
    have hlength := arrangement.length_trim hview trimBatchSize
    have hsub := arrangement.trim_sublist PipelineLog.logId trimBatchSize
      (unexpired now found ++ before ++ after)
    have h := @Follows.trimmed rows now found before after []
      (OpenRun.trim arrangement (unexpired now found ++ before) ⟨now, found,
        .counted (unexpired now found ++ before), unexpired now found ++ before ++ after⟩).view
      (by rw [hrows, List.append_nil])
    rw [List.append_nil] at h
    refine h ?_ ?_
    · simp only [OpenRun.trim]
      split_ifs
      · exact hsub
      · exact .refl _
    · simp only [OpenRun.trim] at hlength ⊢
      split_ifs with hmany
      · -- there are as many rows as are trimmed, those that were counted
        have hle : (unexpired now found ++ before).length ≤
            (unexpired now found ++ before ++ after).length :=
          (List.sublist_append_left _ after).length_le
        have hbatch : trimBatchSize ≤ maxRows := by decide
        rw [hlength]
        omega
      · exact Nat.sub_self _
  | trimmed => cases hstage

/-- The rows of the table that a run deletes. -/
lemma deleted_perm (h : run.Follows rows) (hkeys : (rows.map PipelineLog.logId).Nodup)
    (hstage : run.stage = .trimmed left) :
    (∃ since, left = unexpired run.now run.found ++ since ∧ run.found ++ since <+: rows) ∧
      ∃ further, (run.deleted rows).Perm (run.found.filter (·.expired run.now) ++ further) ∧
        further.length = if maxRows < left.length then trimBatchSize else 0 := by
  cases h with
  | expired => cases hstage
  | counted => cases hstage
  | @trimmed now found before between after view hrows hview hlength =>
    cases hstage
    refine ⟨⟨before, rfl, ⟨between ++ after, by rw [hrows, List.append_assoc _ between]⟩⟩, ?_⟩
    obtain ⟨kept, hkept⟩ : ∃ kept, kept = unexpired now found ++ before ++ between ++ after :=
      ⟨_, rfl⟩
    have hsub : (view ++ after).Sublist kept := hkept ▸ hview.append (.refl _)
    have hsplit : rows.Perm (found.filter (·.expired now) ++ kept) := by
      have h := List.filter_append_perm (fun row : PipelineLog => row.expired now) found
      rw [hrows, hkept]
      simp only [← List.append_assoc]
      exact ((h.symm.append_right _).append_right _).append_right _
    have hnodup := hsplit.nodup_iff.mp (.of_map _ hkeys)
    refine ⟨kept.filter fun row => row ∉ view ++ after, ?_, ?_⟩
    · refine (hsplit.filter _).trans (.of_eq ?_)
      rw [List.filter_append]
      congr 1
      refine List.filter_eq_self.mpr fun row hrow => decide_eq_true fun hmem => ?_
      exact List.disjoint_of_nodup_append hnodup hrow (hsub.subset hmem)
    · rw [length_filter_notMem hsub hnodup.of_append_right, hkept, ← hlength]
      simp only [List.length_append]
      omega

end OpenRun.Follows

/-! ### Every run -/

namespace LogState

/-- What every step keeps. -/
structure Inv (s : LogState) : Prop where
  recent : ∀ table ∈ s.tables, Recent PipelineLog.createdAt s.inserted table
  sorted : s.inserted.Pairwise fun a b => a.createdAt ≤ b.createdAt
  keys : (s.inserted.map PipelineLog.logId).Nodup
  follows : ∀ run, s.run = some run → run.Follows s.rows

lemma mem_tables {table : List PipelineLog} :
    table ∈ s.tables ↔ table = s.rows ∨ ∃ run, s.run = some run ∧ table = run.view := by
  cases hrun : s.run <;> simp [tables, hrun]

namespace Inv

lemma rows_recent (h : s.Inv) : Recent PipelineLog.createdAt s.inserted s.rows :=
  h.recent s.rows (mem_tables.mpr (.inl rfl))

lemma view_recent (h : s.Inv) (hrun : s.run = some run) :
    Recent PipelineLog.createdAt s.inserted run.view :=
  h.recent run.view (mem_tables.mpr (.inr ⟨run, hrun, rfl⟩))

lemma rows_keys (h : s.Inv) : (s.rows.map PipelineLog.logId).Nodup :=
  h.keys.sublist (h.rows_recent.sublist.map _)

lemma empty : LogState.empty.Inv where
  recent table htable := by
    rw [List.mem_singleton.mp htable]
    exact .nil
  sorted := .nil
  keys := List.nodup_nil
  follows _ hrun := by cases hrun

/-- A run that is open has moved on. -/
lemma moved (h : s.Inv) (hfollows : run.Follows s.rows)
    (hrecent : Recent PipelineLog.createdAt s.inserted run.view) :
    Inv { s with run := some run } where
  recent table htable := by
    rcases mem_tables.mp htable with rfl | ⟨_, heq, rfl⟩
    · exact h.rows_recent
    · cases heq
      exact hrecent
  sorted := h.sorted
  keys := h.keys
  follows _ heq := by
    cases heq
    exact hfollows

/-- A run that was open has ended. -/
lemma ended (h : s.Inv) (hrecent : Recent PipelineLog.createdAt s.inserted rows) :
    Inv ⟨rows, s.inserted, none⟩ where
  recent table htable := by
    rw [List.mem_singleton.mp htable]
    exact hrecent
  sorted := h.sorted
  keys := h.keys
  follows _ hrun := by cases hrun

lemma logged (h : s.Inv) (conn : LogConnection) (service level message : String) (eventId : Json)
    (hclock : ∀ row ∈ s.inserted, row.createdAt ≤ conn.now)
    (hkey : ∀ row ∈ s.inserted, row.logId ≠ conn.logId) :
    (s.log sql conn service level message eventId).Inv := by
  rcases logPipelineEvent_cases sql conn service level message eventId with
    hfailed | ⟨row, hcreated, hid, hrow⟩
  · have hsame : s.log sql conn service level message eventId = s := by
      simp only [log, hfailed]
      cases s with
      | mk rows inserted run => cases run <;> rfl
    rwa [hsame]
  · have hlast : ∀ earlier ∈ s.inserted, earlier.createdAt ≤ row.createdAt := hcreated ▸ hclock
    refine ⟨fun table htable => ?_, ?_, ?_, fun run hrun => ?_⟩
    · rcases mem_tables.mp htable with rfl | ⟨run, hrun, rfl⟩
      · simp only [log, hrow]
        exact h.rows_recent.concat hlast
      · obtain ⟨run, hopen, rfl⟩ := Option.map_eq_some_iff.mp hrun
        simp only [log, hrow]
        exact (h.view_recent hopen).concat hlast
    · simp only [log, hrow]
      refine List.pairwise_append.mpr ⟨h.sorted, List.pairwise_singleton _ _,
        fun earlier hearlier latest hlatest => ?_⟩
      exact List.mem_singleton.mp hlatest ▸ hlast earlier hearlier
    · simp only [log, hrow, List.map_append, List.map_cons, List.map_nil]
      refine List.nodup_append.mpr ⟨h.keys, List.nodup_singleton _, fun key hmem key' hkey' => ?_⟩
      obtain ⟨earlier, hearlier, rfl⟩ := List.mem_map.mp hmem
      rw [List.mem_singleton.mp hkey', hid]
      exact hkey earlier hearlier
    · obtain ⟨run, hopen, rfl⟩ := Option.map_eq_some_iff.mp hrun
      simp only [log, hrow]
      exact (h.follows run hopen).concat row

end Inv

lemma Step.inv (h : s.Inv) (hstep : Step sql s s') : s'.Inv := by
  cases hstep with
  | logged conn service level message eventId hclock hkey =>
    exact h.logged conn service level message eventId hclock hkey
  | started now hrun =>
    refine h.moved (.start now s.rows) (h.rows_recent.filter fun a b ha hb => ?_)
    simp only [PipelineLog.expired, Bool.not_eq_false', Bool.not_eq_true', decide_eq_true_eq,
      decide_eq_false_iff_not] at ha hb
    omega
  | @counted run hrun hstage =>
    have hview := h.view_recent hrun
    exact h.moved ((h.follows run hrun).count hstage) hview
  | @trimmed run left arrangement hrun hstage =>
    have hview := h.view_recent hrun
    refine h.moved ((h.follows run hrun).trim h.rows_keys arrangement hstage) ?_
    simp only [OpenRun.trim]
    split_ifs
    · exact hview.trim arrangement (h.keys.sublist (hview.sublist.map _)) _
    · exact hview
  | @committed run left hrun hstage =>
    exact h.ended (h.view_recent hrun)
  | rolledBack hrun => exact h.ended h.rows_recent

lemma Reachable.inv (h : Reachable sql s) : s.Inv := by
  induction h with
  | refl => exact .empty
  | tail _ hstep ih => exact hstep.inv ih

/-- Only a run that is committed takes rows from the table. -/
lemma Step.lost (hstep : Step sql s s') {row : PipelineLog} (hrow : row ∈ s.rows)
    (hnot : row ∉ s'.rows) :
    ∃ run left, s.run = some run ∧ run.stage = .trimmed left ∧ s'.rows = run.view := by
  cases hstep with
  | logged conn service level message eventId hclock hkey =>
    rcases logPipelineEvent_cases sql conn service level message eventId with
      hfailed | ⟨latest, -, -, hlatest⟩
    · exact absurd (by simpa only [log, hfailed] using hrow) hnot
    · refine absurd ?_ hnot
      simp only [log, hlatest]
      exact List.mem_append_left _ hrow
  | started now hrun => exact absurd hrow hnot
  | counted hrun hstage => exact absurd hrow hnot
  | trimmed arrangement hrun hstage => exact absurd hrow hnot
  | @committed run left hrun hstage => exact ⟨run, left, hrun, hstage, rfl⟩
  | rolledBack hrun => exact absurd hrow hnot

end LogState

/-- A run in which nothing is logged is `enforce_retention`. -/
theorem LogState.reachable_behind {activities : List Activity} (h : Admissible sql activities) :
    Reachable sql ⟨(LogTable.behind sql activities).rows,
      (LogTable.behind sql activities).inserted, none⟩ := by
  suffices hall : ∀ before, before <+: activities → Reachable sql
      ⟨(LogTable.behind sql before).rows, (LogTable.behind sql before).inserted, none⟩ from
    hall activities (List.prefix_refl _)
  intro before hbefore
  induction before using List.reverseRecOn with
  | nil => exact .refl
  | append_singleton before activity ih =>
    have hreach := ih ((List.prefix_append _ _).trans hbefore)
    have hadmits := h before activity hbefore
    rw [LogTable.behind_append]
    generalize LogTable.behind sql before = t at hreach hadmits
    cases activity with
    | logged conn service level message eventId =>
      exact hreach.tail (.logged conn service level message eventId
        (fun row hrow => (hadmits row hrow).1) fun row hrow => ((hadmits row hrow).2).ne)
    | enforced env =>
      have hcommitted : Reachable sql ⟨retentionTxn env t.rows, t.inserted, none⟩ := by
        have htrimmed := ((hreach.tail (.started env.now rfl)).tail (.counted rfl rfl)).tail
          (.trimmed env.arrangement rfl rfl)
        have hview : ((OpenRun.start env.now t.rows).count.trim env.arrangement
          (unexpired env.now t.rows)).view = retentionTxn env t.rows := rfl
        rw [← hview]
        exact htrimmed.tail (.committed rfl rfl)
      simp only [LogTable.act, enforceRetention]
      cases env.ending with
      | returned => exact hcommitted
      | aborted e => exact hreach
      | unanswered e => exact hcommitted

/-- In every state that insertions and runs lead to, whatever they interleave and `TOP` picks, the
table has only ever lost its oldest rows. -/
theorem retention_forgets_oldest (h : LogState.Reachable sql s) : ForgetsOldest sql s := by
  have hinv := h.inv
  have hdeleted : ∀ run left, s.run = some run → run.stage = .trimmed left →
      (∃ since, left = unexpired run.now run.found ++ since ∧ run.found ++ since <+: s.rows) ∧
        ∃ further, (run.deleted s.rows).Perm (run.found.filter (·.expired run.now) ++ further) ∧
          further.length = if maxRows < left.length then trimBatchSize else 0 :=
    fun run left hrun hstage => (hinv.follows run hrun).deleted_perm hinv.rows_keys hstage
  refine ⟨fun table htable => (hinv.recent table htable).gone_le, fun table htable =>
    (hinv.recent table htable).suffixUpToTies hinv.sorted (.of_map _ hinv.keys),
    fun run left hrun hstage => (hdeleted run left hrun hstage).1,
    fun run left hrun hstage => (hdeleted run left hrun hstage).2,
    fun s' hstep row hrow hnot => ?_⟩
  obtain ⟨run, left, hrun, hstage, hrows⟩ := hstep.lost hrow hnot
  refine ⟨run, left, hrun, hstage, hrows, fun hyoung => ?_⟩
  obtain ⟨-, further, hperm, hlength⟩ := hdeleted run left hrun hstage
  have hmem : row ∈ run.deleted s.rows := List.mem_filter.mpr
    ⟨hrow, decide_eq_true (hrows ▸ hnot)⟩
  by_contra hfew
  rw [if_neg hfew] at hlength
  rw [List.eq_nil_of_length_eq_zero hlength, List.append_nil] at hperm
  have hold := (List.mem_filter.mp (hperm.mem_iff.mp hmem)).2
  rw [hyoung] at hold
  cases hold

/-- An error of some time. -/
def errorAt (logId createdAt : ℕ) : PipelineLog :=
  { errorRow logId with createdAt }

lemma LogState.Reachable.concat (h : Reachable sql s) (logId createdAt : ℕ)
    (hclock : ∀ row ∈ s.inserted, row.createdAt ≤ createdAt)
    (hkey : ∀ row ∈ s.inserted, row.logId ≠ logId) :
    Reachable sql ⟨s.rows ++ [errorAt logId createdAt], s.inserted ++ [errorAt logId createdAt],
      s.run.map fun run => { run with view := run.view ++ [errorAt logId createdAt] }⟩ := by
  have hstep := h.tail (.logged ⟨true, createdAt, logId⟩ "ingestion-consumer" "ERROR" "DB error: "
    .null hclock hkey)
  simp only [LogState.log, log_error] at hstep
  exact hstep

/-- A run has deleted an error of eight days, and a new one was logged before it counted. -/
def eightDays : LogState :=
  let old := errorAt 0 0
  let new := errorAt 1 (8 * day)
  ⟨[old, new], [old, new], some ⟨8 * day, [old], .trimmed [new], [new]⟩⟩

lemma reachable_eightDays (sql : SqlServer) : LogState.Reachable sql eightDays := by
  have hold : LogState.Reachable sql ⟨[errorAt 0 0], [errorAt 0 0], none⟩ :=
    LogState.Reachable.concat .refl 0 0 (by simp [LogState.empty]) (by simp [LogState.empty])
  have hstarted := hold.tail (.started (8 * day) rfl)
  have hnew : LogState.Reachable sql ⟨[errorAt 0 0, errorAt 1 (8 * day)],
      [errorAt 0 0, errorAt 1 (8 * day)],
      some ⟨8 * day, [errorAt 0 0], .expired, [errorAt 1 (8 * day)]⟩⟩ :=
    LogState.Reachable.concat hstarted 1 (8 * day) (by simp [errorAt]) (by simp [errorAt, errorRow])
  have htrimmed := (hnew.tail (.counted rfl rfl)).tail
    (.trimmed (.stable PipelineLog.createdAt) rfl rfl)
  exact htrimmed

theorem retention_forgets_eightDays : ForgetsOldest .plain eightDays :=
  retention_forgets_oldest (reachable_eightDays .plain)

end EventPipeline

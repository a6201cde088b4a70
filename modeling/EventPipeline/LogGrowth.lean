import EventPipeline.Library.Backlog
import EventPipeline.Retention

/-!
# The length of `pipeline_log`

How long the table gets while errors are logged at any rate, also while a run is open. It exceeds
the cap by the rows of some last periods between two committed runs, less the batches that were
trimmed in between; as long as no more than one batch is logged from run to run, it exceeds the cap
by the rows of two periods at most (`length_bounded`).
-/

namespace EventPipeline

open Transaction

namespace LogState

variable {sql : SqlServer} {s s' : LogState} {run : OpenRun} {left : List PipelineLog}
  {n : ℕ} {periods : List ℕ}

/-- The open run is committed. -/
def Commits (s s' : LogState) : Prop :=
  ∃ run left, s.run = some run ∧ run.stage = .trimmed left ∧ s' = ⟨run.view, s.inserted, none⟩

/-- What a state may be after, as rows were inserted from one committed run to the next, the rows
since the last one first. -/
inductive Periods (sql : SqlServer) : LogState → List ℕ → Prop
  | start : Periods sql empty [0]
  | within {s s' : LogState} {n : ℕ} {periods : List ℕ} (h : Periods sql s (n :: periods))
      (hs : Step sql s s') (hopen : ¬ s.Commits s') :
      Periods sql s' ((n + (s'.inserted.length - s.inserted.length)) :: periods)
  | committed {s s' : LogState} {periods : List ℕ} (h : Periods sql s periods)
      (hs : s.Commits s') : Periods sql s' (0 :: periods)

lemma Periods.ne_nil (h : Periods sql s periods) : ∃ n rest, periods = n :: rest := by
  cases h <;> exact ⟨_, _, rfl⟩

/-- Every state is after some periods. -/
lemma Reachable.exists_periods (h : Reachable sql s) : ∃ periods, Periods sql s periods := by
  induction h with
  | refl => exact ⟨_, .start⟩
  | @tail s s' _ hstep ih =>
    obtain ⟨periods, hperiods⟩ := ih
    by_cases hcommits : s.Commits s'
    · exact ⟨_, hperiods.committed hcommits⟩
    · obtain ⟨n, rest, rfl⟩ := hperiods.ne_nil
      exact ⟨_, hperiods.within hstep hcommits⟩

lemma Periods.reachable (h : Periods sql s periods) : Reachable sql s := by
  induction h with
  | start => exact .refl
  | within _ hs _ ih => exact ih.tail hs
  | committed _ hs ih =>
    obtain ⟨run, left, hrun, hstage, rfl⟩ := hs
    exact ih.tail (.committed hrun hstage)

/-- What the rows of the table, and of what an open run has found, are since the last committed
run. -/
structure Since (s : LogState) (n : ℕ) (periods : List ℕ) : Prop where
  left : ∃ left, Backlog maxRows trimBatchSize periods left ∧ s.rows.length ≤ left + n
  found : ∀ run, s.run = some run → s.rows.length ≤ run.found.length + n

lemma Since.grow (h : s.Since n periods) {m : ℕ} (hrows : s'.rows.length = s.rows.length + m)
    (hfound : ∀ run', s'.run = some run' → (∃ run, s.run = some run ∧ run'.found = run.found) ∨
      run'.found = s'.rows) : s'.Since (n + m) periods := by
  obtain ⟨⟨left, hleft, hlength⟩, hsince⟩ := h
  refine ⟨⟨left, hleft, by omega⟩, fun run' hrun' => ?_⟩
  rcases hfound run' hrun' with ⟨run, hrun, heq⟩ | heq
  · have hrun := hsince run hrun
    rw [heq]
    omega
  · rw [heq]
    exact Nat.le_add_right _ _

lemma Since.within (h : s.Since n periods) (hs : Step sql s s') (hopen : ¬ s.Commits s') :
    s'.Since (n + (s'.inserted.length - s.inserted.length)) periods := by
  have hsame : ∀ {s' : LogState}, s'.rows = s.rows → s'.inserted = s.inserted →
      (∀ run', s'.run = some run' → (∃ run, s.run = some run ∧ run'.found = run.found) ∨
        run'.found = s'.rows) →
      s'.Since (n + (s'.inserted.length - s.inserted.length)) periods := by
    intro s' hrows hinserted hfound
    rw [hinserted, Nat.sub_self]
    exact h.grow (by rw [hrows, Nat.add_zero]) hfound
  cases hs with
  | logged conn service level message eventId hclock hkey =>
    have hfound : ∀ run', (s.log sql conn service level message eventId).run = some run' →
        ∃ run, s.run = some run ∧ run'.found = run.found := by
      intro run' hrun'
      obtain ⟨run, hrun, rfl⟩ := Option.map_eq_some_iff.mp hrun'
      exact ⟨run, hrun, rfl⟩
    rcases logPipelineEvent_cases sql conn service level message eventId with
      hfailed | ⟨row, -, -, hrow⟩
    · exact hsame (hfailed _) (hfailed _) fun run' hrun' => .inl (hfound run' hrun')
    · refine h.grow ?_ fun run' hrun' => .inl (hfound run' hrun')
      simp only [log, hrow, List.length_append, List.length_singleton, Nat.add_sub_cancel_left]
  | started now hrun =>
    refine hsame rfl rfl fun run' hrun' => .inr ?_
    cases hrun'
    rfl
  | counted hrun hstage =>
    refine hsame rfl rfl fun run' hrun' => .inl ⟨_, hrun, ?_⟩
    cases hrun'
    rfl
  | trimmed arrangement hrun hstage =>
    refine hsame rfl rfl fun run' hrun' => .inl ⟨_, hrun, ?_⟩
    cases hrun'
    rfl
  | committed hrun hstage => exact absurd ⟨_, _, hrun, hstage, rfl⟩ hopen
  | rolledBack hrun =>
    refine hsame rfl rfl fun run' hrun' => ?_
    cases hrun'

/-- A run that is committed has trimmed a batch, or has found the table within its cap. -/
lemma Since.commit (h : s.Since n periods) (hinv : s.Inv) (hs : s.Commits s') :
    s'.Since 0 (n :: periods) := by
  obtain ⟨run, counted, hrun, hstage, rfl⟩ := hs
  obtain ⟨⟨left, hleft, hrows⟩, hfound⟩ := h
  have hsince := hfound run hrun
  have hfollows := hinv.follows run hrun
  refine ⟨⟨run.view.length, ?_, Nat.le_add_right _ _⟩, fun run hrun => by cases hrun⟩
  cases hfollows with
  | expired => cases hstage
  | counted => cases hstage
  | @trimmed now found before between after view hrows' hview hlength =>
    have hyoung := (unexpired_sublist now found).length_le
    have hkept := hview.length_le
    rw [hrows'] at hrows hsince
    simp only [List.length_append] at hrows hsince hkept hlength ⊢
    split_ifs at hlength with hmany
    · refine hleft.served ?_
      have hbatch : trimBatchSize ≤ maxRows := by decide
      omega
    · refine .within ?_
      omega

lemma Periods.since (h : Periods sql s (n :: periods)) : s.Since n periods := by
  generalize hall : n :: periods = all at h
  induction h generalizing n periods with
  | start =>
    cases hall
    exact ⟨⟨0, .start _ _, Nat.le_refl _⟩, fun run hrun => by cases hrun⟩
  | within _ hs hopen ih =>
    cases hall
    exact (ih rfl).within hs hopen
  | committed h hs ih =>
    cases hall
    obtain ⟨n, rest, rfl⟩ := h.ne_nil
    exact (ih rfl).commit h.reachable.inv hs

/-- A table of errors, and what the run that is open has found and counted of it. -/
def erring (n : ℕ) (run : Option (List PipelineLog × RunStage)) : LogState :=
  ⟨(List.range n).map errorRow, (List.range n).map errorRow,
    run.map fun (found, stage) => ⟨0, found, stage, (List.range n).map errorRow⟩⟩

lemma Periods.error {run : Option (List PipelineLog × RunStage)} {m : ℕ}
    (h : Periods sql (erring n run) (m :: periods)) :
    Periods sql (erring (n + 1) run) ((m + 1) :: periods) := by
  have hlog : (erring n run).log sql ⟨true, n, n⟩ "ingestion-consumer" "ERROR" "DB error: " .null =
      erring (n + 1) run := by
    simp only [log, log_error, erring, List.range_succ, List.map_append, Option.map_map]
    rfl
  have hearlier : ∀ row ∈ (erring n run).inserted, row.createdAt ≤ n ∧ row.logId ≠ n := by
    intro row hrow
    obtain ⟨i, hi, rfl⟩ := List.mem_map.mp hrow
    have hlt := List.mem_range.mp hi
    exact ⟨hlt.le, hlt.ne⟩
  have hstep : Step sql (erring n run) (erring (n + 1) run) :=
    hlog ▸ .logged ⟨true, n, n⟩ _ _ _ _ (fun row hrow => (hearlier row hrow).1)
      fun row hrow => (hearlier row hrow).2
  have hopen : ¬ (erring n run).Commits (erring (n + 1) run) := by
    rintro ⟨_, _, -, -, heq⟩
    have hlength := congrArg (·.inserted.length) heq
    simp [erring] at hlength
  have hperiods := h.within hstep hopen
  simpa [erring] using hperiods

lemma Periods.errors {run : Option (List PipelineLog × RunStage)} {m : ℕ}
    (h : Periods sql (erring n run) (m :: periods)) (k : ℕ) :
    Periods sql (erring (n + k) run) ((m + k) :: periods) := by
  induction k with
  | zero => exact h
  | succ k ih => exact ih.error

/-- Errors are logged after a run has counted no more than the cap. -/
lemma Periods.counted (h : Periods sql (erring n none) (0 :: periods)) (hn : n ≤ maxRows) (k : ℕ) :
    Periods sql (erring (n + k) none) (0 :: k :: periods) := by
  obtain ⟨rows, hrows⟩ : ∃ rows, rows = (List.range n).map errorRow := ⟨_, rfl⟩
  have hstarted : Step sql (erring n none) (erring n (some (rows, .expired))) := by
    have hstep := @Step.started sql (erring n none) 0 rfl
    have hstart : OpenRun.start 0 (erring n none).rows =
        ⟨0, rows, .expired, (List.range n).map errorRow⟩ := by
      rw [OpenRun.start, erring, unexpired_burst n (Nat.zero_le _), hrows]
    rwa [hstart] at hstep
  have hcounted : Step sql (erring n (some (rows, .expired)))
      (erring n (some (rows, .counted rows))) := by
    subst hrows
    exact @Step.counted sql (erring n (some (_, .expired))) _ rfl rfl
  have htrimmed : Step sql (erring (n + k) (some (rows, .counted rows)))
      (erring (n + k) (some (rows, .trimmed rows))) := by
    have hstep := @Step.trimmed sql (erring (n + k) (some (rows, .counted rows))) _ rows
      (.stable PipelineLog.createdAt) rfl rfl
    have hfew : ¬ maxRows < rows.length := by
      rw [hrows, List.length_map, List.length_range]
      omega
    simp only [OpenRun.trim, if_neg hfew] at hstep
    exact hstep
  have hopen : ∀ {m m' : ℕ} {run : Option (List PipelineLog × RunStage)} {run'},
      ¬ (erring m run).Commits (erring m' (some run')) := by
    rintro m m' run run' ⟨_, _, -, -, heq⟩
    cases congrArg LogState.run heq
  have hfound := (h.within hstarted hopen).within hcounted hopen
  have hlogged := (hfound.errors k).within htrimmed hopen
  have hcommitted := hlogged.committed ⟨_, rows, rfl, rfl, rfl⟩
  simpa [erring] using hcommitted

end LogState

end EventPipeline

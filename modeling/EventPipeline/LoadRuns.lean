import EventPipeline.BulkLoad
import EventPipeline.Library.Chain

/-!
# Runs of the bulk load

The DAG `bulk_load_dimensions`: four tasks in a chain, each attempted once more when it fails, and
`notify_completion`, which writes a line to the run history and a message whatever became of them.
Runs do not overlap. Read line by line, the history says of every run what the tables had when the
line was written (`history_tells`): after a success exactly the rows that were to be loaded and all
three indexes, after a failure the one task that failed. `bcp` never meets a secondary index.
-/

namespace EventPipeline

open Transaction Delimited

inductive LoadTask
  | ensureTableExists
  | generateAndLoad
  | validateRowCount
  | createPostLoadIndexes
  deriving DecidableEq, Repr

def LoadTask.taskId : LoadTask → String
  | .ensureTableExists => "ensure_table_exists"
  | .generateAndLoad => "generate_and_load"
  | .validateRowCount => "validate_row_count"
  | .createPostLoadIndexes => "create_post_load_indexes"

/-- `t1 >> t2 >> t3 >> t4` -/
def loadTasks : List LoadTask :=
  [.ensureTableExists, .generateAndLoad, .validateRowCount, .createPostLoadIndexes]

/-- The indexes of `POST_LOAD_INDEXES_SQL` and `PRE_LOAD_DROP_INDEXES_SQL`. -/
def secondaryIndexes : List String :=
  ["ix_ohf_order_date", "ix_ohf_region_channel", "ix_ohf_load_batch"]

/-! ### The run history -/

structure Timestamp where
  date : Date
  hour : ℕ
  minute : ℕ
  second : ℕ

/-- `strftime("%Y-%m-%d %H:%M:%S UTC")` -/
def Timestamp.text (t : Timestamp) : String :=
  t.date.isoformat ++ " " ++ zeroPad 2 t.hour ++ ":" ++ zeroPad 2 t.minute ++ ":" ++
    zeroPad 2 t.second ++ " UTC"

/-- What `notify_completion` finds. -/
inductive RunOutcome
  | failed (tasks : List LoadTask)
  | success (rows : Option ℕ)
  deriving DecidableEq

namespace RunOutcome

def status : RunOutcome → String
  | .failed _ => "failed"
  | .success _ => "success"

/-- `str(rows)` -/
def rowsText (rows : Option ℕ) : String :=
  rows.elim "None" toString

def detail : RunOutcome → String
  | .failed tasks => "failed tasks: " ++ ", ".intercalate (tasks.map (·.taskId))
  | .success rows => "rows=" ++ rowsText rows

/-- What is told of a run, given what has become of its other tasks and the number of rows that
`generate_and_load` reported. -/
def of (done : List (LoadTask × TaskState)) (rows : Option ℕ) : RunOutcome :=
  let failedTasks := (done.filter (·.2 = .failed)).map Prod.fst
  if failedTasks ≠ [] then .failed failedTasks else .success rows

/-- The text that is sent to Telegram. -/
def message (runId : String) : RunOutcome → String
  | .failed tasks => "[bulk_load_dimensions] falhou — tasks com erro: " ++
      ", ".intercalate (tasks.map (·.taskId)) ++ " (run " ++ runId ++ ")"
  | .success rows => "[bulk_load_dimensions] carga concluída: " ++ rowsText rows ++
      " linhas carregadas (run " ++ runId ++ ")"

end RunOutcome

structure RunRecord where
  time : Timestamp
  runId : String
  outcome : RunOutcome

namespace RunRecord

/-- The line of `record_run`. -/
def line (r : RunRecord) : String :=
  r.time.text ++ " | run=" ++ r.runId ++ " | status=" ++ r.outcome.status ++ " | " ++
    r.outcome.detail ++ "\n"

/-- The line, taken apart at its bars. -/
def fields (r : RunRecord) : List (List Char) :=
  [r.time.text ++ " ", " run=" ++ r.runId ++ " ", " status=" ++ r.outcome.status ++ " ",
    " " ++ r.outcome.detail].map String.toList

end RunRecord

/-- A bar, or the end of the line. -/
def bars : List Char :=
  ['|', '|', '|', '\n']

def NoBars (text : String) : Prop :=
  ∀ ch ∈ text.toList, ch ∉ bars

instance (text : String) : Decidable (NoBars text) :=
  List.decidableBAll (fun ch => ch ∉ bars) text.toList

lemma RunRecord.toList_line (r : RunRecord) : r.line.toList = write bars r.fields := by
  simp [line, fields, write, bars]

/-! ### The tasks -/

/-- What is left of a run in the history, with what its last task found. -/
structure Entry where
  record : RunRecord
  run : DagRun
  warehouse : Warehouse
  indexes : List String

/-- What the tasks of all runs read and write. -/
structure LoadStore where
  warehouse : Warehouse
  /-- The secondary indexes of `order_history_fact`. -/
  indexes : List String
  /-- The file of `record_run`. -/
  history : String
  /-- The messages that were sent to Telegram. -/
  posts : List String
  /-- The lines of the file; nothing is decided by it. -/
  entries : List Entry
  /-- The secondary indexes that the calls of `bcp` met; nothing is decided by it. -/
  bcpMet : List (List String)

/-- What the environment does during one attempt of a task. -/
structure TaskEnv where
  /-- The exception of `ensure_table_exists`, and whether its COMMIT was performed all the same. -/
  ensuring : Option (PyError × Bool)
  load : LoadEnv
  validating : Option PyError
  /-- The exceptions of the statements of `create_post_load_indexes`. -/
  indexing : ℕ → Option PyError

namespace LoadStore

def createTable (s : LoadStore) : LoadStore :=
  { s with warehouse := { s.warehouse with facts := some (s.warehouse.facts.getD []) } }

def ensureTableExists (failure : Option (PyError × Bool)) (s : LoadStore) :
    Except PyError Unit × LoadStore :=
  match failure with
  | none => (.ok (), s.createTable)
  | some (e, true) => (.error e, s.createTable)
  | some (e, false) => (.error e, s)

/-- `generate_and_load`: the indexes are dropped in the transaction of its TRUNCATE. -/
def generateAndLoad (server : LoadServer) (env : LoadEnv) (run : DagRun) (s : LoadStore) :
    Except PyError Unit × LoadStore :=
  let (result, warehouse) := EventPipeline.generateAndLoad server env run s.warehouse
  if (env.failsAt .resetting).isSome ∨ s.warehouse.facts = none then (result, { s with warehouse })
  else
    let indexes := s.indexes.filter (· ∉ secondaryIndexes)
    let bcpMet := if (env.failsAt .writing).isSome then s.bcpMet else s.bcpMet ++ [indexes]
    (result, { s with warehouse, indexes, bcpMet })

/-- `IF NOT EXISTS (...) CREATE INDEX`, one index after the other. -/
def createIndexes (failsAt : ℕ → Option PyError) :
    ℕ → List String → List String → Except PyError Unit × List String
  | i, [], indexes =>
    -- `UPDATE STATISTICS`
    match failsAt i with
    | some e => (.error e, indexes)
    | none => (.ok (), indexes)
  | i, name :: names, indexes =>
    match failsAt i with
    | some e => (.error e, indexes)
    | none => createIndexes failsAt (i + 1) names
        (if name ∈ indexes then indexes else indexes ++ [name])

def createPostLoadIndexes (failsAt : ℕ → Option PyError) (s : LoadStore) :
    Except PyError Unit × LoadStore :=
  match s.warehouse.facts with
  | none => (.error ⟨"Cannot find the object \"order_history_fact\""⟩, s)
  | some _ =>
    let (result, indexes) := createIndexes failsAt 0 secondaryIndexes s.indexes
    (result, { s with indexes })

/-- One attempt of a task. -/
def perform (server : LoadServer) (env : TaskEnv) (run : DagRun) (s : LoadStore) :
    LoadTask → Except PyError Unit × LoadStore
  | .ensureTableExists => s.ensureTableExists env.ensuring
  | .generateAndLoad => s.generateAndLoad server env.load run
  | .validateRowCount => (validateRowCount server env.validating run s.warehouse, s)
  | .createPostLoadIndexes => s.createPostLoadIndexes env.indexing

/-- What the environment does during one attempt of `notify_completion`. -/
structure NotifyEnv where
  now : Timestamp
  /-- The exception of `record_run`. -/
  recording : Option PyError
  /-- `TELEGRAM_BOT_TOKEN` and `TELEGRAM_CHAT_ID` are set. -/
  configured : Bool
  /-- The request is made; its exceptions are logged. -/
  sent : Bool
  /-- What ends the attempt once it is done. -/
  killed : Option PyError

def recordRun (s : LoadStore) (run : DagRun) (r : RunRecord) : LoadStore :=
  { s with
    history := s.history ++ r.line
    entries := s.entries ++ [⟨r, run, s.warehouse, s.indexes⟩] }

def sendTelegramMessage (s : LoadStore) (env : NotifyEnv) (text : String) : LoadStore :=
  if env.configured && env.sent then { s with posts := s.posts ++ [text] } else s

/-- `notify_completion`, given what has become of the other tasks. -/
def notifyCompletion (env : NotifyEnv) (run : DagRun) (done : List (LoadTask × TaskState))
    (s : LoadStore) : Except PyError Unit × LoadStore :=
  let outcome := RunOutcome.of done (s.warehouse.rowsWritten run.runId)
  match env.recording with
  | some e => (.error e, s)
  | none =>
    let s := (s.recordRun run ⟨env.now, run.runId, outcome⟩).sendTelegramMessage env
      (outcome.message run.runId)
    match env.killed with
    | some e => (.error e, s)
    | none => (.ok (), s)

/-! ### Runs -/

def Attempt (server : LoadServer) (run : DagRun) (task : LoadTask) (s : LoadStore) (ok : Bool)
    (s' : LoadStore) : Prop :=
  ∃ env result, s.perform server env run task = (result, s') ∧ result.isOk = ok

def Notify (run : DagRun) (done : List (LoadTask × TaskState)) (s : LoadStore) (ok : Bool)
    (s' : LoadStore) : Prop :=
  ∃ env result, s.notifyCompletion env run done = (result, s') ∧ result.isOk = ok

/-- A run of the DAG that starts in the state `s`, with one more attempt for each task. -/
abbrev Run (server : LoadServer) (run : DagRun) (s : LoadStore) :
    Chain LoadTask LoadStore → Prop :=
  Chain.Reachable loadTasks 1 (Attempt server run) (Notify run) s

/-- Runs one after the other, each of them as far as it gets; the ids that Airflow allows have no
bars and no ends of lines. -/
inductive Reachable (server : LoadServer) (w : Warehouse) : LoadStore → Prop
  | start : Reachable server w ⟨w, [], "", [], [], []⟩
  | run {s : LoadStore} {c : Chain LoadTask LoadStore} (run : DagRun) (h : Reachable server w s)
      (hid : NoBars run.runId) (hc : Run server run s c) :
      Reachable server w c.state

end LoadStore

/-! ### What the tasks achieve -/

/-- The rows a run is to load. -/
def DagRun.rows (run : DagRun) (server : LoadServer) (draws : ℕ → Draw) : List FactRow :=
  (List.range run.totalRows).map fun seq => generateRow (draws seq) seq (run.loadBatchId server)

/-- What the first `n` tasks of a run have achieved once they have succeeded. -/
structure LoadProgress (server : LoadServer) (run : DagRun) (n : ℕ) (w : Warehouse)
    (indexes : List String) : Prop where
  table : 1 ≤ n → w.facts ≠ none
  loaded : 2 ≤ n → w.rowsWritten run.runId = some run.totalRows ∧
    ∃ draws facts, w.facts = some facts ∧ facts.Subperm (run.rows server draws)
  counted : 3 ≤ n → ∀ facts ∈ w.facts, run.totalRows ≤ facts.length
  indexed : 4 ≤ n → ∀ name ∈ secondaryIndexes, name ∈ indexes

namespace Entry

def message (e : Entry) : String :=
  e.record.outcome.message e.run.runId

/-- A success tells that exactly the rows of the run are in the table, with all indexes; a failure
names the one task that failed, and the tasks before it have achieved what they are for. -/
def Truthful (e : Entry) (server : LoadServer) : Prop :=
  e.record.runId = e.run.runId ∧
    match e.record.outcome with
    | .success rows => rows = some e.run.totalRows ∧
      (∃ draws facts, e.warehouse.facts = some facts ∧ facts.Perm (e.run.rows server draws) ∧
        (facts.map FactRow.externalOrderId).Nodup) ∧
      ∀ name ∈ secondaryIndexes, name ∈ e.indexes
    | .failed tasks => ∃ before t after, loadTasks = before ++ t :: after ∧ tasks = [t] ∧
      LoadProgress server e.run before.length e.warehouse e.indexes

end Entry

variable {server : LoadServer} {run : DagRun} {env : LoadEnv} {w : Warehouse} {s s' : LoadStore}
  {n : ℕ} {indexes : List String}

/-- Exactly the rows of the run. -/
lemma LoadProgress.exact (h : LoadProgress server run 4 w indexes) :
    ∃ draws facts, w.facts = some facts ∧ facts.Perm (run.rows server draws) ∧
      (facts.map FactRow.externalOrderId).Nodup := by
  obtain ⟨-, draws, facts, hfacts, hsubperm⟩ := h.loaded (by decide)
  have hlength := h.counted (by decide) facts hfacts
  have hperm := hsubperm.perm_of_length_le
    (by rwa [DagRun.rows, List.length_map, List.length_range])
  refine ⟨draws, facts, hfacts, hperm, (hperm.map _).nodup_iff.mpr ?_⟩
  rw [DagRun.rows, List.map_map]
  refine List.Nodup.map (fun m n h => ?_) List.nodup_range
  exact zeroPad_inj (String.append_right_inj _ |>.mp h)

/-! ### Attempts -/

/-- The table is never dropped. -/
lemma facts_generateAndLoad (h : w.facts ≠ none) :
    (generateAndLoad server env run w).2.facts ≠ none := by
  obtain ⟨facts, hfacts⟩ := Option.ne_none_iff_exists'.mp h
  have hclear : (w.clear run).facts = some facts := hfacts
  simp only [generateAndLoad, hclear]
  cases env.failsAt .resetting with
  | some e => simp [hclear]
  | none =>
    cases env.failsAt .writing with
    | some e => simp
    | none =>
      cases env.bcp.exitCode with
      | none => simp
      | some code =>
        by_cases hcode : code = 0
        · cases env.failsAt .loading with
          | some e => simp [hcode]
          | none => cases env.failsAt .reporting <;> simp [hcode, Warehouse.pushLoadBatchId,
              Warehouse.pushRowsWritten]
        · simp [hcode]

/-- An attempt that succeeds reports the number of the rows. -/
lemma rowsWritten_generateAndLoad (h : (generateAndLoad server env run w).1 = .ok ()) :
    (generateAndLoad server env run w).2.rowsWritten run.runId = some run.totalRows := by
  rw [generateAndLoad_loaded h]
  exact if_pos rfl

namespace LoadStore

/-- What only `notify_completion` writes. -/
def reports (s : LoadStore) : String × List String × List Entry :=
  (s.history, s.posts, s.entries)

lemma createIndexes_subset {failsAt : ℕ → Option PyError} {i : ℕ} {names : List String}
    (h : ∀ name ∈ names, name ∈ secondaryIndexes)
    (hindexes : ∀ name ∈ indexes, name ∈ secondaryIndexes) :
    ∀ name ∈ (createIndexes failsAt i names indexes).2, name ∈ secondaryIndexes := by
  induction names generalizing i indexes with
  | nil =>
    simp only [createIndexes]
    cases failsAt i <;> exact hindexes
  | cons name names ih =>
    simp only [createIndexes]
    cases failsAt i with
    | some e => exact hindexes
    | none =>
      refine ih (fun _ hmem => h _ (List.mem_cons_of_mem _ hmem)) fun x hx => ?_
      split_ifs at hx with hname
      · exact hindexes x hx
      · rcases List.mem_append.mp hx with hx | hx
        · exact hindexes x hx
        · exact List.mem_singleton.mp hx ▸ h name List.mem_cons_self

/-- Where no statement fails, all indexes are there. -/
lemma createIndexes_ok {failsAt : ℕ → Option PyError} {i : ℕ} {names : List String}
    (h : (createIndexes failsAt i names indexes).1 = .ok ()) :
    ∀ name, name ∈ indexes ∨ name ∈ names → name ∈ (createIndexes failsAt i names indexes).2 := by
  induction names generalizing i indexes with
  | nil =>
    intro name hname
    simp only [createIndexes] at h ⊢
    cases hfails : failsAt i with
    | some e => simp [hfails] at h
    | none => simpa using hname
  | cons first names ih =>
    intro name hname
    simp only [createIndexes] at h ⊢
    cases hfails : failsAt i with
    | some e => simp [hfails] at h
    | none =>
      simp only [hfails] at h ⊢
      refine ih h name ?_
      by_cases hfirst : first ∈ indexes
      · rw [if_pos hfirst]
        rcases hname with hname | hname
        · exact .inl hname
        · rcases List.mem_cons.mp hname with rfl | hname
          · exact .inl hfirst
          · exact .inr hname
      · rw [if_neg hfirst]
        rcases hname with hname | hname
        · exact .inl (List.mem_append_left _ hname)
        · rcases List.mem_cons.mp hname with rfl | hname
          · exact .inl (List.mem_append_right _ List.mem_cons_self)
          · exact .inr hname

/-- `bcp` meets no secondary index. -/
structure Sound (s : LoadStore) : Prop where
  known : ∀ name ∈ s.indexes, name ∈ secondaryIndexes
  unmet : ∀ met ∈ s.bcpMet, met = []

/-- What any attempt at a task leaves as it was. -/
lemma Attempt.kept {task : LoadTask} {ok : Bool} (h : Attempt server run task s ok s') :
    s'.reports = s.reports := by
  obtain ⟨env, result, h, -⟩ := h
  have hs' : s' = (s.perform server env run task).2 := (congrArg Prod.snd h).symm
  subst hs'
  cases task with
  | ensureTableExists =>
    simp only [perform, ensureTableExists]
    rcases env.ensuring with _ | ⟨e, _ | _⟩ <;> rfl
  | generateAndLoad =>
    simp only [perform, LoadStore.generateAndLoad]
    split_ifs <;> rfl
  | validateRowCount => rfl
  | createPostLoadIndexes =>
    simp only [perform, createPostLoadIndexes]
    cases s.warehouse.facts <;> rfl

lemma Attempt.sound {task : LoadTask} {ok : Bool} (hs : s.Sound)
    (h : Attempt server run task s ok s') : s'.Sound := by
  obtain ⟨env, result, h, -⟩ := h
  have hs' : s' = (s.perform server env run task).2 := (congrArg Prod.snd h).symm
  subst hs'
  cases task with
  | ensureTableExists =>
    simp only [perform, ensureTableExists]
    rcases env.ensuring with _ | ⟨e, _ | _⟩
    · exact ⟨hs.known, hs.unmet⟩
    · exact hs
    · exact ⟨hs.known, hs.unmet⟩
  | generateAndLoad =>
    have hdropped : s.indexes.filter (· ∉ secondaryIndexes) = [] := by
      refine List.filter_eq_nil_iff.mpr fun name hmem => ?_
      simpa using hs.known name hmem
    simp only [perform, LoadStore.generateAndLoad, hdropped]
    split_ifs with hreset hwriting
    · exact ⟨hs.known, hs.unmet⟩
    · exact ⟨by simp, hs.unmet⟩
    · refine ⟨by simp, fun met hmet => ?_⟩
      rcases List.mem_append.mp hmet with hmet | hmet
      · exact hs.unmet met hmet
      · exact List.mem_singleton.mp hmet
  | validateRowCount => exact hs
  | createPostLoadIndexes =>
    simp only [perform, createPostLoadIndexes]
    cases s.warehouse.facts with
    | none => exact hs
    | some facts => exact ⟨createIndexes_subset (fun _ h => h) hs.known, hs.unmet⟩

lemma Attempt.ok {task : LoadTask} (h : Attempt server run task s true s') :
    ∃ env, (s.perform server env run task).1 = .ok () ∧ (s.perform server env run task).2 = s' := by
  obtain ⟨env, result, h, hok⟩ := h
  refine ⟨env, ?_, congrArg Prod.snd h⟩
  rw [h]
  cases result with
  | error e => cases hok
  | ok value => rfl

lemma ensureTableExists_ok {env : TaskEnv}
    (h : (s.perform server env run .ensureTableExists).1 = .ok ()) :
    LoadProgress server run 1 (s.perform server env run .ensureTableExists).2.warehouse
      (s.perform server env run .ensureTableExists).2.indexes := by
  refine ⟨fun _ => ?_, fun h => by omega, fun h => by omega, fun h => by omega⟩
  simp only [perform, ensureTableExists] at h ⊢
  rcases hensuring : env.ensuring with _ | ⟨e, _ | _⟩
  · simp [createTable]
  · simp [hensuring] at h
  · simp [hensuring] at h

lemma result_generateAndLoad {env : TaskEnv} :
    (s.perform server env run .generateAndLoad).1 =
      (EventPipeline.generateAndLoad server env.load run s.warehouse).1 := by
  simp only [perform, LoadStore.generateAndLoad]
  split_ifs <;> rfl

lemma warehouse_generateAndLoad {env : TaskEnv} :
    (s.perform server env run .generateAndLoad).2.warehouse =
      (EventPipeline.generateAndLoad server env.load run s.warehouse).2 := by
  simp only [perform, LoadStore.generateAndLoad]
  split_ifs <;> rfl

lemma generateAndLoad_ok (hserver : server.Lawful) {env : TaskEnv}
    (h : (s.perform server env run .generateAndLoad).1 = .ok ()) :
    LoadProgress server run 2 (s.perform server env run .generateAndLoad).2.warehouse
      (s.perform server env run .generateAndLoad).2.indexes := by
  rw [result_generateAndLoad] at h
  rw [warehouse_generateAndLoad]
  obtain ⟨facts, hfacts, hsubperm⟩ := EventPipeline.generateAndLoad_ok hserver h
  refine ⟨fun _ => ?_, fun _ => ?_, fun h => by omega, fun h => by omega⟩
  · rw [hfacts]
    exact Option.some_ne_none _
  · exact ⟨rowsWritten_generateAndLoad h, env.load.draws, facts, hfacts, hsubperm⟩

/-- Either no line is written, or one is, and perhaps a message with it. -/
lemma Notify.cases {done : List (LoadTask × TaskState)} {ok : Bool} (h : Notify run done s ok s') :
    (ok = false ∧ s' = s) ∨
      ∃ env : NotifyEnv, ∃ r, r = ⟨env.now, run.runId, .of done (s.warehouse.rowsWritten run.runId)⟩ ∧
        s' = (s.recordRun run r).sendTelegramMessage env (r.outcome.message run.runId) := by
  obtain ⟨env, result, h, hok⟩ := h
  simp only [notifyCompletion] at h
  cases hrecording : env.recording with
  | some e =>
    rw [hrecording] at h
    cases h
    exact .inl ⟨hok.symm, rfl⟩
  | none =>
    rw [hrecording] at h
    refine .inr ⟨env, _, rfl, ?_⟩
    cases hkilled : env.killed with
    | some e =>
      rw [hkilled] at h
      exact (congrArg Prod.snd h).symm
    | none =>
      rw [hkilled] at h
      exact (congrArg Prod.snd h).symm

section Report

variable (s) (run) (r : RunRecord) (env : NotifyEnv) (text : String)

@[simp] lemma warehouse_report :
    ((s.recordRun run r).sendTelegramMessage env text).warehouse = s.warehouse := by
  unfold sendTelegramMessage
  split_ifs <;> rfl

@[simp] lemma indexes_report :
    ((s.recordRun run r).sendTelegramMessage env text).indexes = s.indexes := by
  unfold sendTelegramMessage
  split_ifs <;> rfl

@[simp] lemma bcpMet_report :
    ((s.recordRun run r).sendTelegramMessage env text).bcpMet = s.bcpMet := by
  unfold sendTelegramMessage
  split_ifs <;> rfl

@[simp] lemma history_report :
    ((s.recordRun run r).sendTelegramMessage env text).history = s.history ++ r.line := by
  unfold sendTelegramMessage
  split_ifs <;> rfl

@[simp] lemma entries_report :
    ((s.recordRun run r).sendTelegramMessage env text).entries =
      s.entries ++ [⟨r, run, s.warehouse, s.indexes⟩] := by
  unfold sendTelegramMessage
  split_ifs <;> rfl

lemma posts_report :
    ((s.recordRun run r).sendTelegramMessage env text).posts = s.posts ∨
      ((s.recordRun run r).sendTelegramMessage env text).posts = s.posts ++ [text] := by
  unfold sendTelegramMessage
  split_ifs
  · exact .inr rfl
  · exact .inl rfl

end Report

/-- The tasks achieve what they are for, and a failed attempt at one does not undo what the tasks
before it have achieved. -/
lemma establishes (hserver : server.Lawful) (run : DagRun) :
    Chain.Establishes loadTasks (Attempt server run) (Notify run)
      fun n s => LoadProgress server run n s.warehouse s.indexes where
  success n t s s' hnext hs h := by
    obtain ⟨env, hok, rfl⟩ := h.ok
    rcases n with _ | _ | _ | _ | n
    · obtain rfl := Option.some.inj hnext
      exact ensureTableExists_ok hok
    · obtain rfl := Option.some.inj hnext
      exact generateAndLoad_ok hserver hok
    · obtain rfl := Option.some.inj hnext
      refine ⟨fun _ => hs.table (by decide), fun _ => hs.loaded (by decide), fun _ => ?_,
        fun h => by omega⟩
      exact fun facts hfacts => le_length_of_validateRowCount hok hfacts
    · obtain rfl := Option.some.inj hnext
      simp only [perform, createPostLoadIndexes] at hok ⊢
      cases hfacts : s.warehouse.facts with
      | none => exact absurd hfacts (hs.table (by decide))
      | some facts =>
        simp only [hfacts] at hok ⊢
        refine ⟨fun _ => hs.table (by decide), fun _ => hs.loaded (by decide),
          fun _ => hs.counted (by decide), fun _ name hname => ?_⟩
        exact createIndexes_ok hok name (.inr hname)
    · cases hnext
  failure n t s s' hnext hs h := by
    obtain ⟨env, result, h, -⟩ := h
    have hs' : s' = (s.perform server env run t).2 := (congrArg Prod.snd h).symm
    subst hs'
    rcases n with _ | _ | _ | _ | n
    · exact ⟨fun h => by omega, fun h => by omega, fun h => by omega, fun h => by omega⟩
    · obtain rfl := Option.some.inj hnext
      refine ⟨fun _ => ?_, fun h => by omega, fun h => by omega, fun h => by omega⟩
      have hfacts := @facts_generateAndLoad server run env.load s.warehouse (hs.table (by decide))
      simp only [perform, LoadStore.generateAndLoad]
      split_ifs <;> exact hfacts
    · obtain rfl := Option.some.inj hnext
      exact hs
    · obtain rfl := Option.some.inj hnext
      simp only [perform, createPostLoadIndexes]
      cases s.warehouse.facts with
      | none => exact hs
      | some facts => exact ⟨hs.table, hs.loaded, hs.counted, fun h => by omega⟩
    · cases hnext
  closing n done s ok s' hs h := by
    rcases h.cases with ⟨-, rfl⟩ | ⟨env, r, -, rfl⟩
    · exact hs
    · simpa using hs

lemma of_successes (rows : Option ℕ) :
    RunOutcome.of (Chain.successes loadTasks) rows = .success rows :=
  rfl

lemma of_failure (before after : List LoadTask) (t : LoadTask) (rows : Option ℕ) :
    RunOutcome.of (Chain.failure before t after) rows = .failed [t] := by
  have hfailed : ((Chain.failure before t after).filter (·.2 = .failed)).map Prod.fst = [t] := by
    simp [Chain.failure, Chain.successes, List.filter_map, Function.comp_def]
  simp only [RunOutcome.of, hfailed, if_pos (List.cons_ne_nil t [])]

/-! ### The history -/

lemma noBars_append {text text' : String} (h : NoBars text) (h' : NoBars text') :
    NoBars (text ++ text') := by
  intro ch hmem
  rw [String.toList_append] at hmem
  rcases List.mem_append.mp hmem with hmem | hmem
  · exact h ch hmem
  · exact h' ch hmem

lemma noBars_of_isDigit {text : String} (h : ∀ ch ∈ text.toList, ch.isDigit = true) :
    NoBars text := by
  intro ch hmem hbar
  have hnone : bars.all (!·.isDigit) = true := by decide
  have hdigit := List.all_eq_true.mp hnone ch hbar
  rw [h ch hmem] at hdigit
  cases hdigit

lemma noBars_zeroPad (width n : ℕ) : NoBars (zeroPad width n) :=
  noBars_of_isDigit fun _ => isDigit_zeroPad

lemma noBars_time (t : Timestamp) : NoBars t.text := by
  have hdash : NoBars "-" := by decide
  have hcolon : NoBars ":" := by decide
  have hspace : NoBars " " := by decide
  have hutc : NoBars " UTC" := by decide
  have hdate : NoBars t.date.isoformat := noBars_append (noBars_append (noBars_append
    (noBars_append (noBars_zeroPad 4 _) hdash) (noBars_zeroPad 2 _)) hdash) (noBars_zeroPad 2 _)
  have hminute := noBars_append (noBars_append (noBars_append hdate hspace)
    (noBars_zeroPad 2 t.hour)) hcolon
  have hsecond := noBars_append (noBars_append hminute (noBars_zeroPad 2 t.minute)) hcolon
  exact noBars_append (noBars_append hsecond (noBars_zeroPad 2 t.second)) hutc

lemma noBars_rowsText (rows : Option ℕ) : NoBars (RunOutcome.rowsText rows) := by
  cases rows with
  | none => decide
  | some n =>
    refine noBars_of_isDigit fun ch hmem => ?_
    simp only [RunOutcome.rowsText, Option.elim_some, Nat.toString_eq_repr, Nat.toList_repr] at hmem
    exact Nat.isDigit_of_mem_toDigits (by decide) (by decide) hmem

/-- The fields of a line hold no bars if the id of its run does not. -/
lemma plain_fields {e : Entry} (h : e.Truthful server) (hid : NoBars e.run.runId) :
    Plain bars e.record.fields := by
  have hspace : NoBars " " := by decide
  have hrun : NoBars " run=" := by decide
  have hstatus : NoBars " status=" := by decide
  have houtcome : NoBars e.record.outcome.status ∧ NoBars e.record.outcome.detail := by
    have hresult := h.2
    cases houtcome : e.record.outcome with
    | failed tasks =>
      rw [houtcome] at hresult
      obtain ⟨_, t, _, -, rfl, -⟩ := hresult
      cases t <;> decide
    | success rows =>
      have hsuccess : NoBars "success" := by decide
      have hrows : NoBars "rows=" := by decide
      exact ⟨hsuccess, noBars_append hrows (noBars_rowsText rows)⟩
  have hfield : ∀ {text : String}, NoBars text → ∀ t ∈ bars, t ∉ text.toList :=
    fun h t hbar hmem => h t hmem hbar
  have hname : NoBars e.record.runId := h.1 ▸ hid
  refine .cons (hfield ?_ _ (by decide)) (.cons (hfield ?_ _ (by decide))
    (.cons (hfield ?_ _ (by decide)) (.cons (hfield ?_ _ (by decide)) .nil)))
  · exact noBars_append (noBars_time _) hspace
  · exact noBars_append (noBars_append hrun hname) hspace
  · exact noBars_append (noBars_append hstatus houtcome.1) hspace
  · exact noBars_append hspace houtcome.2

/-- The invariant of the runs. -/
structure Inv (server : LoadServer) (s : LoadStore) : Prop where
  sound : s.Sound
  written : s.history.toList = writeAll bars (s.entries.map (·.record.fields))
  plain : ∀ e ∈ s.entries, Plain bars e.record.fields
  truthful : ∀ e ∈ s.entries, e.Truthful server
  posts : s.posts.Sublist (s.entries.map Entry.message)

/-- The lines are read back as they were written. -/
lemma Inv.readAll (hs : s.Inv server) :
    readAll bars s.history.toList = s.entries.map (·.record.fields) := by
  rw [hs.written]
  refine readAll_writeAll fun fields hfields => ?_
  obtain ⟨e, he, rfl⟩ := List.mem_map.mp hfields
  exact hs.plain e he

lemma Inv.attempt {task : LoadTask} {ok : Bool} (hs : s.Inv server)
    (h : Attempt server run task s ok s') : s'.Inv server := by
  have hkept := h.kept
  simp only [reports, Prod.mk.injEq] at hkept
  obtain ⟨hhistory, hposts, hentries⟩ := hkept
  refine ⟨h.sound hs.sound, ?_, ?_, ?_, ?_⟩
  · rw [hhistory, hentries]
    exact hs.written
  · rw [hentries]
    exact hs.plain
  · rw [hentries]
    exact hs.truthful
  · rw [hposts, hentries]
    exact hs.posts

/-- What the last task writes is true. -/
lemma truthful_report {done : List (LoadTask × TaskState)} {r : RunRecord} {now : Timestamp}
    (hr : r = ⟨now, run.runId, .of done (s.warehouse.rowsWritten run.runId)⟩)
    (h : Chain.Achieved loadTasks (fun n s => LoadProgress server run n s.warehouse s.indexes) done s)
    (hdone : loadTasks.length ≤ done.length) :
    (⟨r, run, s.warehouse, s.indexes⟩ : Entry).Truthful server := by
  subst hr
  refine ⟨rfl, ?_⟩
  rcases h.ended hdone with ⟨rfl, hs⟩ | ⟨before, t, after, htasks, rfl, hs⟩
  · have hrows := (hs.loaded (by decide)).1
    simp only [of_successes]
    exact ⟨hrows, hs.exact, hs.indexed (by decide)⟩
  · simp only [of_failure]
    exact ⟨before, t, after, htasks, rfl, hs⟩

lemma Inv.notify {done : List (LoadTask × TaskState)} {ok : Bool} (hid : NoBars run.runId)
    (hachieved : Chain.Achieved loadTasks
      (fun n s => LoadProgress server run n s.warehouse s.indexes) done s)
    (hdone : loadTasks.length ≤ done.length) (hs : s.Inv server) (h : Notify run done s ok s') :
    s'.Inv server := by
  rcases h.cases with ⟨-, rfl⟩ | ⟨env, r, hr, rfl⟩
  · exact hs
  · have htruthful := truthful_report hr hachieved hdone
    have hlast : ∀ {p : Entry → Prop}, (∀ e ∈ s.entries, p e) →
        p ⟨r, run, s.warehouse, s.indexes⟩ →
          ∀ e ∈ s.entries ++ [⟨r, run, s.warehouse, s.indexes⟩], p e := by
      intro p hold hnew e hmem
      rcases List.mem_append.mp hmem with hmem | hmem
      · exact hold e hmem
      · exact List.mem_singleton.mp hmem ▸ hnew
    refine ⟨⟨?_, ?_⟩, ?_, ?_, ?_, ?_⟩
    · simpa using hs.sound.known
    · simpa using hs.sound.unmet
    · rw [history_report, entries_report, String.toList_append, hs.written, List.map_append,
        RunRecord.toList_line, writeAll, writeAll, List.flatMap_append]
      simp
    · rw [entries_report]
      exact hlast hs.plain (plain_fields htruthful hid)
    · rw [entries_report]
      exact hlast hs.truthful htruthful
    · rw [entries_report, List.map_append]
      rcases posts_report run s r env (r.outcome.message run.runId) with hposts | hposts
      · rw [hposts]
        exact hs.posts.trans (List.sublist_append_left _ _)
      · rw [hposts]
        exact hs.posts.append (.refl _)

/-- No task of a run has been performed. -/
lemma progress_zero (server : LoadServer) (run : DagRun) (w : Warehouse) (indexes : List String) :
    LoadProgress server run 0 w indexes :=
  ⟨fun h => by omega, fun h => by omega, fun h => by omega, fun h => by omega⟩

lemma inv_of_run (hserver : server.Lawful) (hid : NoBars run.runId) (hs : s.Inv server)
    {c : Chain LoadTask LoadStore} (h : Run server run s c) : c.state.Inv server :=
  Chain.Reachable.preserves (establishes hserver run) (progress_zero _ _ _ _) hs
    (fun _ _ _ _ hs h => hs.attempt h)
    (fun _ _ _ _ hachieved hdone hs h => hs.notify hid hachieved hdone h) h

lemma Reachable.inv (hserver : server.Lawful) (h : Reachable server w s) : s.Inv server := by
  induction h with
  | start => exact ⟨⟨by simp, by simp⟩, rfl, by simp, by simp, .refl _⟩
  | run run _ hid hc ih => exact inv_of_run hserver hid ih hc

/-! ### A run that fails, and one that is retried -/

/-- Nothing but `bcp` may go wrong. -/
def sampleEnv (bcp : Bcp) : TaskEnv :=
  ⟨none, sampleLoad bcp, none, fun _ => none⟩

def sampleNotify : NotifyEnv :=
  ⟨⟨⟨2026, 1, 1⟩, 9, 30, 0⟩, none, true, true, none⟩

/-- What the tasks do where nothing but `bcp` goes wrong. -/
lemma attempt_sample (bcp : Bcp) (run : DagRun) (s : LoadStore) (task : LoadTask) :
    Attempt .plain run task s (s.perform .plain (sampleEnv bcp) run task).1.isOk
      (s.perform .plain (sampleEnv bcp) run task).2 :=
  ⟨sampleEnv bcp, _, rfl, rfl⟩

lemma attempt_ensureTableExists (run : DagRun) (s : LoadStore) :
    Attempt .plain run .ensureTableExists s true s.createTable :=
  attempt_sample .whole run s .ensureTableExists

lemma attempt_load (bcp : Bcp) (run : DagRun) (s : LoadStore) :
    ∃ s', Attempt .plain run .generateAndLoad s
        (EventPipeline.generateAndLoad .plain (sampleLoad bcp) run s.warehouse).1.isOk s' ∧
      s'.warehouse = (EventPipeline.generateAndLoad .plain (sampleLoad bcp) run s.warehouse).2 := by
  have hattempt := attempt_sample bcp run s .generateAndLoad
  rw [result_generateAndLoad] at hattempt
  exact ⟨_, hattempt, warehouse_generateAndLoad⟩

/-- A call of `bcp` that fails has inserted one row. -/
lemma attempt_broken {facts : List FactRow} (hrun : run ∈ [earlierRun, sampleRun])
    (hfacts : s.warehouse.facts = some facts) :
    ∃ s', Attempt .plain run .generateAndLoad s false s' ∧
      s'.warehouse.facts = some ((sampleRows run).take 1) := by
  obtain ⟨e, he⟩ := @generateAndLoad_sample s.warehouse run .broken 1 facts
    (convert_sample run hrun) rfl hfacts
  obtain ⟨s', hattempt, hwarehouse⟩ := attempt_load .broken run s
  rw [he] at hattempt hwarehouse
  exact ⟨s', hattempt, congrArg Warehouse.facts hwarehouse⟩

/-- A call of `bcp` that ends well. -/
lemma attempt_whole {facts : List FactRow} (hrun : run ∈ [earlierRun, sampleRun])
    (hfacts : s.warehouse.facts = some facts) :
    ∃ s', Attempt .plain run .generateAndLoad s true s' ∧
      s'.warehouse = (({ s.warehouse.clear run with
        facts := some (sampleRows run).reverse }).pushLoadBatchId run
          (run.loadBatchId .plain)).pushRowsWritten run run.totalRows := by
  obtain ⟨e, he⟩ := @generateAndLoad_sample s.warehouse run .whole 0 facts
    (convert_sample run hrun) rfl hfacts
  obtain ⟨s', hattempt, hwarehouse⟩ := attempt_load .whole run s
  rw [he] at hattempt hwarehouse
  exact ⟨s', hattempt, hwarehouse⟩

lemma notify_sample (run : DagRun) (done : List (LoadTask × TaskState)) (s : LoadStore) :
    ∃ s', Notify run done s true s' ∧ s'.warehouse = s.warehouse ∧ s'.posts = s.posts ++
      [(RunOutcome.of done (s.warehouse.rowsWritten run.runId)).message run.runId] :=
  ⟨_, ⟨sampleNotify, .ok (), rfl, rfl⟩, rfl, rfl⟩

lemma Attempt.posts_eq {task : LoadTask} {ok : Bool} (h : Attempt server run task s ok s') :
    s'.posts = s.posts :=
  congrArg (·.2.1) h.kept

/-- Both attempts at the load of the earlier run fail. -/
lemma run_failed (s : LoadStore) :
    ∃ c : Chain LoadTask LoadStore, Run .plain earlierRun s c ∧ c.state.posts = s.posts ++
      ["[bulk_load_dimensions] falhou — tasks com erro: generate_and_load (run manual__1)"] := by
  have hstart : Run .plain earlierRun s ⟨s, Chain.successes [], 0, none⟩ := .start
  have hensured := hstart.success rfl (attempt_ensureTableExists earlierRun s)
  obtain ⟨s₁, h₁, hfacts₁⟩ := @attempt_broken earlierRun s.createTable _ (by simp) rfl
  have hretried := hensured.retry rfl h₁ Nat.zero_lt_one
  obtain ⟨s₂, h₂, -⟩ := @attempt_broken earlierRun _ _ (by simp) hfacts₁
  have hfailed := hretried.step (.failed rfl (Chain.ready_successes rfl) h₂ rfl)
  have hskipped := hfailed.step (.skipped rfl
    (@Chain.not_ready_failure _ _ _ [.ensureTableExists] [] .generateAndLoad rfl))
  have hover := hskipped.step (.skipped rfl
    (@Chain.not_ready_failure _ _ _ [.ensureTableExists] [.validateRowCount] .generateAndLoad rfl))
  obtain ⟨s₃, h₃, -, hposts⟩ := notify_sample earlierRun (Chain.failure [.ensureTableExists]
    .generateAndLoad [.validateRowCount, .createPostLoadIndexes]) s₂
  refine ⟨_, hover.step (.closed (Nat.le_refl _) rfl h₃), ?_⟩
  show s₃.posts = _
  rw [hposts, of_failure, h₂.posts_eq, h₁.posts_eq]
  rfl

/-- The load of the run succeeds at the second attempt. -/
lemma run_retried (s : LoadStore) :
    ∃ c : Chain LoadTask LoadStore, Run .plain sampleRun s c ∧ c.closed = some .success ∧
      c.done = Chain.successes loadTasks ∧ c.state.posts = s.posts ++
        ["[bulk_load_dimensions] carga concluída: 3 linhas carregadas (run manual__2)"] := by
  have hstart : Run .plain sampleRun s ⟨s, Chain.successes [], 0, none⟩ := .start
  have hensured := hstart.success rfl (attempt_ensureTableExists sampleRun s)
  obtain ⟨s₁, h₁, hfacts₁⟩ := @attempt_broken sampleRun s.createTable _ (by simp) rfl
  have hretried := hensured.retry rfl h₁ Nat.zero_lt_one
  obtain ⟨s₂, h₂, hwarehouse⟩ := @attempt_whole sampleRun _ _ (by simp) hfacts₁
  have hloaded := hretried.success rfl h₂
  have hvalid : validateRowCount .plain none sampleRun s₂.warehouse = .ok () := by
    have hcount : (sampleRows sampleRun).reverse.countP (fun row =>
        row.loadBatchId = sampleRun.loadBatchId .plain) = 3 := by decide
    rw [hwarehouse]
    simp only [validateRowCount, Warehouse.pushLoadBatchId, Warehouse.pushRowsWritten, if_true,
      LoadServer.plain, Option.any_some]
    exact if_neg (Nat.not_lt.mpr hcount.ge)
  have hcounted : Attempt .plain sampleRun .validateRowCount s₂ true s₂ :=
    ⟨sampleEnv .whole, .ok (), congrArg (·, s₂) hvalid, rfl⟩
  have hvalidated := hloaded.success rfl hcounted
  obtain ⟨s₃, h₃, hkept⟩ : ∃ s₃, Attempt .plain sampleRun .createPostLoadIndexes s₂ true s₃ ∧
      s₃.warehouse = s₂.warehouse := by
    have hfacts₂ : s₂.warehouse.facts = some (sampleRows sampleRun).reverse :=
      congrArg Warehouse.facts hwarehouse
    have hcreated : s₂.perform .plain (sampleEnv .whole) sampleRun .createPostLoadIndexes = (.ok (),
        { s₂ with indexes := (createIndexes (fun _ => none) 0 secondaryIndexes s₂.indexes).2 }) := by
      simp only [perform, createPostLoadIndexes, hfacts₂]
      rfl
    exact ⟨_, ⟨sampleEnv .whole, .ok (), hcreated, rfl⟩, rfl⟩
  have hindexed := hvalidated.success rfl h₃
  obtain ⟨s₄, h₄, -, hposts⟩ := notify_sample sampleRun (Chain.successes loadTasks) s₃
  refine ⟨_, hindexed.step (.closed (Nat.le_refl _) rfl h₄), rfl, rfl, ?_⟩
  show s₄.posts = _
  rw [hposts, of_successes, h₃.posts_eq, h₂.posts_eq, h₁.posts_eq, hkept, hwarehouse]
  rfl

/-! ### What the history tells -/

/-- Whatever the runs of the load did, whichever attempts at their tasks failed and wherever, every
line of the history is read back, and told the truth when it was written: a success, that the table
had exactly the rows of the run, and all indexes; a failure, which task failed. Every message that
was sent says what a line says, and `bcp` never met a secondary index. -/
theorem history_tells (server : LoadServer) (hserver : server.Lawful) (w : Warehouse)
    (s : LoadStore) (h : Reachable server w s) :
    readAll bars s.history.toList = s.entries.map (·.record.fields) ∧
      (∀ e ∈ s.entries, e.Truthful server) ∧ s.posts.Sublist (s.entries.map Entry.message) ∧
        ∀ met ∈ s.bcpMet, met = [] := by
  have hs := h.inv hserver
  exact ⟨hs.readAll, hs.truthful, hs.posts, hs.sound.unmet⟩

/-- A line for the run that failed, and one for the run that was retried. -/
theorem history_tells_retried :
    ∃ s : LoadStore, s.posts =
        ["[bulk_load_dimensions] falhou — tasks com erro: generate_and_load (run manual__1)",
          "[bulk_load_dimensions] carga concluída: 3 linhas carregadas (run manual__2)"] ∧
      readAll bars s.history.toList = s.entries.map (·.record.fields) ∧
        (∀ e ∈ s.entries, e.Truthful .plain) ∧ s.posts.Sublist (s.entries.map Entry.message) ∧
          ∀ met ∈ s.bcpMet, met = [] := by
  obtain ⟨c, hc, hposts⟩ := run_failed ⟨.empty, [], "", [], [], []⟩
  obtain ⟨c', hc', -, -, hposts'⟩ := run_retried c.state
  have hreachable : Reachable .plain .empty c'.state :=
    .run sampleRun (.run earlierRun .start (by decide) hc) (by decide) hc'
  refine ⟨c'.state, ?_, history_tells .plain lawful_plain .empty c'.state hreachable⟩
  rw [hposts', hposts]
  rfl

/-- A run whose last task has succeeded has the last line of the history. The line says success
exactly if all of its tasks have succeeded, and nothing has changed since it was written. -/
theorem run_recorded (server : LoadServer) (hserver : server.Lawful) (w : Warehouse) (s : LoadStore)
    (h : Reachable server w s) (run : DagRun) (hid : NoBars run.runId)
    (c : Chain LoadTask LoadStore) (hc : Run server run s c) (hclosed : c.closed = some .success) :
    ∃ e : Entry, (readAll bars c.state.history.toList).getLast? = some e.record.fields ∧ e.run = run ∧
      e.warehouse = c.state.warehouse ∧ e.indexes = c.state.indexes ∧ e.Truthful server ∧
        (e.record.outcome.status = "success" ↔ ∀ x ∈ c.done, x.2 = .success) := by
  have hinv := inv_of_run hserver hid (h.inv hserver) hc
  obtain ⟨s', hnotify⟩ := hc.closed_eq hclosed
  have hdone := hc.length_done_of_closed (by rw [hclosed]; simp)
  have hachieved := hc.achieved (establishes hserver run) (progress_zero _ _ _ _)
  rcases hnotify.cases with ⟨hfalse, -⟩ | ⟨env, r, hr, hstate⟩
  · cases hfalse
  have hentries : c.state.entries = s'.entries ++ [⟨r, run, s'.warehouse, s'.indexes⟩] := by
    rw [hstate, entries_report]
  refine ⟨⟨r, run, s'.warehouse, s'.indexes⟩, ?_, rfl, ?_, ?_, ?_, ?_⟩
  · rw [hinv.readAll, hentries]
    simp
  · rw [hstate, warehouse_report]
  · rw [hstate, indexes_report]
  · exact hinv.truthful _ (by rw [hentries]; simp)
  · subst hr
    rcases hachieved.ended hdone with ⟨hsuccess, -⟩ | ⟨before, t, after, -, hfailure, -⟩
    · rw [hsuccess, of_successes]
      refine ⟨fun _ x hx => ?_, fun _ => rfl⟩
      obtain ⟨t, -, rfl⟩ := List.mem_map.mp hx
      rfl
    · rw [hfailure, of_failure]
      have hne : "failed" ≠ "success" := by decide
      refine ⟨fun hstatus => absurd hstatus hne, fun hall => ?_⟩
      have hfailed := hall (t, .failed) (List.mem_append_right _ List.mem_cons_self)
      cases hfailed

/-- The line of a run that was retried, behind the line of one that failed. -/
theorem run_recorded_retried :
    ∃ (c : Chain LoadTask LoadStore) (e : Entry), c.state.posts.length = 2 ∧
      (∀ x ∈ c.done, x.2 = .success) ∧
        (readAll bars c.state.history.toList).getLast? = some e.record.fields ∧
          e.run = sampleRun ∧ e.warehouse = c.state.warehouse ∧ e.indexes = c.state.indexes ∧
            e.Truthful .plain ∧
              (e.record.outcome.status = "success" ↔ ∀ x ∈ c.done, x.2 = .success) := by
  obtain ⟨c, hc, hposts⟩ := run_failed ⟨.empty, [], "", [], [], []⟩
  obtain ⟨c', hc', hclosed, hdone, hposts'⟩ := run_retried c.state
  have hreachable : Reachable .plain .empty c.state := .run earlierRun .start (by decide) hc
  obtain ⟨e, he⟩ := run_recorded .plain lawful_plain .empty c.state hreachable sampleRun (by decide)
    c' hc' hclosed
  refine ⟨c', e, ?_, fun x hx => ?_, he⟩
  · rw [hposts', hposts]
    rfl
  · rw [hdone] at hx
    obtain ⟨t, -, rfl⟩ := List.mem_map.mp hx
    rfl

end LoadStore

end EventPipeline

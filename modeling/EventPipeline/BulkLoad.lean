import Mathlib.Data.List.Nodup
import Mathlib.Data.List.Perm.Subperm
import EventPipeline.Library.Collect
import EventPipeline.Generator

/-!
# The bulk load of the order history

The tasks of `bulk_load_dimensions`: an attempt of `generate_and_load` empties `order_history_fact`,
writes the data file and has `bcp` insert it, and may fail anywhere; `validate_row_count` asks for
at least as many rows of the batch as were to be loaded. Whatever earlier runs and attempts left, a
load that succeeds and is validated is exactly what it generated (`bulk_load_exact`).
-/

namespace EventPipeline

open Transaction Delimited

/-- The server and the libraries: the conversions `bcp` makes from text, the comparison of texts,
and the digest of `hashlib.sha1`. -/
structure LoadServer where
  toDate : String → Option Date
  toNumeric : String → Option ℕ
  toInt : String → Option ℕ
  sameText : String → String → Bool
  sha1 : String → List (Fin 256)

/-- A text that is converted is converted to the value it was written for. -/
structure LoadServer.Lawful (server : LoadServer) : Prop where
  toDate_isoformat : ∀ d x, server.toDate d.isoformat = some x → x = d
  toNumeric_amountText : ∀ cents x, server.toNumeric (amountText cents) = some x → x = cents
  toInt_toString : ∀ (n : ℕ) x, server.toInt (toString n) = some x → x = n

/-- A DAG run; its logical date is `ds`, and `conf` may set the sizes. -/
structure DagRun where
  runId : String
  ds : Date
  conf_totalRows : Option ℕ
  conf_batchSize : Option ℕ
  batchSize_pos : ∀ n ∈ conf_batchSize, 0 < n

namespace DagRun

def totalRows (run : DagRun) : ℕ :=
  run.conf_totalRows.getD 10000000

def batchSize (run : DagRun) : ℕ :=
  run.conf_batchSize.getD 50000

lemma batchSize_ne_zero (run : DagRun) : 0 < run.batchSize := by
  unfold batchSize
  cases h : run.conf_batchSize with
  | none => decide
  | some n => exact run.batchSize_pos n h

/-- `hashlib.sha1(...).hexdigest()` -/
def hexdigest (digest : List (Fin 256)) : List Char :=
  digest.flatMap fun b : Fin 256 => [Nat.digitChar (b.val / 16), Nat.digitChar (b.val % 16)]

def loadBatchId (run : DagRun) (server : LoadServer) : String :=
  run.ds.isoformat ++ "-" ++ .ofList ((hexdigest (server.sha1 run.runId)).take 8)

lemma newline_notMem_loadBatchId (run : DagRun) (server : LoadServer) :
    '\n' ∉ (run.loadBatchId server).toList := by
  have hdigit : ∀ n : ℕ, n < 16 → Nat.digitChar n ≠ '\n' := by decide
  intro h
  simp only [loadBatchId, String.toList_append, String.toList_ofList, List.mem_append] at h
  rcases h with (hdate | hdash) | hhex
  · rcases Date.isoformat_chars hdate with hc | hc
    · exact absurd hc (by decide)
    · exact absurd hc (by decide)
  · exact absurd hdash (by decide)
  · obtain ⟨b, -, hb⟩ := List.mem_flatMap.mp (List.mem_of_mem_take hhex)
    have := b.isLt
    rcases List.mem_pair.mp hb with hb | hb
    · exact hdigit _ (by omega) hb.symm
    · exact hdigit _ (by omega) hb.symm

end DagRun

/-! ### One call of bcp -/

/-- The row of a record, where its fields have their lengths and can be converted. -/
def convert (server : LoadServer) (fields : List (List Char)) : Option FactRow :=
  if (fields.zip formatFile).all (fun f => f.1.length ≤ f.2.1) then
    match fields.map String.ofList with
    | [externalOrderId, clientExternalId, orderDate, status, totalAmount, region, channel, itemCount,
        loadBatchId] => do
      let orderDate ← server.toDate orderDate
      let totalAmount ← server.toNumeric totalAmount
      let itemCount ← server.toInt itemCount
      some ⟨externalOrderId, clientExternalId, orderDate, status, totalAmount, region, channel,
        itemCount, loadBatchId⟩
    | _ => none
  else none

/-- What a call of `bcp` inserts of the rows of its file, and the code it exits with if it does
so in time. -/
structure Bcp where
  inserts : List FactRow → List FactRow
  inserts_subperm : ∀ rows, (inserts rows).Subperm rows
  exitCode : Option Int

/-- The rows of a data file. -/
def fileRows (server : LoadServer) (file : List Char) : List FactRow :=
  (readAll terminators file).filterMap (convert server)

/-- A line that is converted becomes the row it was written for. -/
lemma convert_fields {server : LoadServer} (hserver : server.Lawful) {row x : FactRow}
    (h : convert server (row.fields.map String.toList) = some x) : x = row := by
  have hfields : (row.fields.map String.toList).map String.ofList = row.fields := by
    rw [List.map_map]
    exact (List.map_congr_left fun text _ => String.ofList_toList).trans (List.map_id _)
  unfold convert at h
  split_ifs at h
  rw [hfields] at h
  simp only [FactRow.fields, Option.bind_eq_bind, Option.bind_eq_some_iff,
    Option.some.injEq] at h
  obtain ⟨date, hdate, amount, hamount, count, hcount, rfl⟩ := h
  rw [hserver.toDate_isoformat _ _ hdate, hserver.toNumeric_amountText _ _ hamount,
    hserver.toInt_toString _ _ hcount]

/-- The rows of a generated file are generated rows, each at most once. -/
lemma fileRows_sublist {server : LoadServer} (hserver : server.Lawful) (draws : ℕ → Draw)
    (totalRows batchSize : ℕ) (hbatch : 0 < batchSize) {loadBatchId : String}
    (h : '\n' ∉ loadBatchId.toList) :
    (fileRows server (dataFile (generateRows draws totalRows batchSize hbatch loadBatchId 0))).Sublist
      ((List.range totalRows).map fun seq => generateRow (draws seq) seq loadBatchId) := by
  rw [fileRows, readAll_dataFile draws totalRows batchSize hbatch h, List.filterMap_map,
    Function.comp_def]
  exact filterMap_sublist_map fun seq row hrow => convert_fields hserver hrow

/-! ### The tasks -/

/-- What the tasks read and write: `order_history_fact`, where it exists, and the values that
`generate_and_load` pushed, by run. -/
structure Warehouse where
  facts : Option (List FactRow)
  loadBatchId : String → Option String
  rowsWritten : String → Option ℕ

namespace Warehouse

/-- The values a task pushed are cleared when it starts again. -/
def clear (w : Warehouse) (run : DagRun) : Warehouse :=
  { w with
    loadBatchId := fun id => if id = run.runId then none else w.loadBatchId id
    rowsWritten := fun id => if id = run.runId then none else w.rowsWritten id }

def pushLoadBatchId (w : Warehouse) (run : DagRun) (value : String) : Warehouse :=
  { w with loadBatchId := fun id => if id = run.runId then some value else w.loadBatchId id }

def pushRowsWritten (w : Warehouse) (run : DagRun) (value : ℕ) : Warehouse :=
  { w with rowsWritten := fun id => if id = run.runId then some value else w.rowsWritten id }

end Warehouse

/-- Where an attempt of `generate_and_load` fails for reasons of its environment: before its
TRUNCATE is committed, before `bcp` starts, after it, or between the two pushes. -/
inductive Stage
  | resetting
  | writing
  | loading
  | reporting
  deriving DecidableEq, Repr

/-- What the environment does during one attempt of `generate_and_load`. -/
structure LoadEnv where
  draws : ℕ → Draw
  bcp : Bcp
  bcpTimeout : ℕ
  failure : Option (Stage × PyError)

def LoadEnv.failsAt (env : LoadEnv) (stage : Stage) : Option PyError :=
  env.failure.bind fun f => if f.1 = stage then some f.2 else none

/-- An attempt of `generate_and_load`: whether it succeeds, and what it leaves behind. -/
def generateAndLoad (server : LoadServer) (env : LoadEnv) (run : DagRun) (w : Warehouse) :
    Except PyError Unit × Warehouse :=
  let loadBatchId := run.loadBatchId server
  let dataFilePath := s!"/tmp/order_history_fact_{loadBatchId}.csv"
  let w := w.clear run
  match env.failsAt .resetting with
  | some e => (.error e, w)
  | none =>
    match w.facts with
    | none => (.error ⟨"Cannot find the object \"order_history_fact\""⟩, w)
    | some _ =>
      match env.failsAt .writing with
      | some e => (.error e, { w with facts := some [] })
      | none =>
        let batches := generateRows env.draws run.totalRows run.batchSize run.batchSize_ne_zero
          loadBatchId 0
        let written := batches.foldl (fun written batch => written + batch.length) 0
        let w := { w with facts := some (env.bcp.inserts (fileRows server (dataFile batches))) }
        match env.bcp.exitCode with
        | none =>
          (.error ⟨s!"bcp did not finish within {env.bcpTimeout}s loading {dataFilePath}"⟩, w)
        | some code =>
          if code ≠ 0 then (.error ⟨s!"bcp exited with code {code} loading {dataFilePath}"⟩, w)
          else
            match env.failsAt .loading with
            | some e => (.error e, w)
            | none =>
              let w := w.pushLoadBatchId run loadBatchId
              match env.failsAt .reporting with
              | some e => (.error e, w)
              | none => (.ok (), w.pushRowsWritten run written)

/-- `validate_row_count`; `failure` is the exception its connection raises, if any. -/
def validateRowCount (server : LoadServer) (failure : Option PyError) (run : DagRun)
    (w : Warehouse) : Except PyError Unit :=
  let expectedMin := run.totalRows
  let loadBatchId := w.loadBatchId run.runId
  match failure with
  | some e => .error e
  | none =>
    match w.facts with
    | none => .error ⟨"Invalid object name 'order_history_fact'."⟩
    | some facts =>
      -- no row has a `load_batch_id` equal to NULL
      let count := facts.countP fun row => loadBatchId.any (server.sameText row.loadBatchId)
      let batch := loadBatchId.getD "None"
      if count < expectedMin then
        .error ⟨s!"expected >= {expectedMin} rows for batch {batch}, found {count}"⟩
      else .ok ()

/-- The tasks of a run that the table or the pushed values can depend on. -/
inductive Task
  | ensureTableExists (failure : Option PyError)
  | generateAndLoad (env : LoadEnv)
  | validateRowCount (failure : Option PyError)

/-- What one attempt of a task leaves behind. -/
def Task.perform (server : LoadServer) (run : DagRun) (w : Warehouse) : Task → Warehouse
  | .ensureTableExists none => { w with facts := some (w.facts.getD []) }
  | .ensureTableExists (some _) => w
  | .generateAndLoad env => (EventPipeline.generateAndLoad server env run w).2
  | .validateRowCount _ => w

/-- The attempts of the tasks of one run. -/
def performTasks (server : LoadServer) (run : DagRun) (tasks : List Task) (w : Warehouse) :
    Warehouse :=
  tasks.foldl (Task.perform server run) w

/-- Runs that do not overlap, one after the other. -/
def performRuns (server : LoadServer) (history : List (DagRun × List Task)) (w : Warehouse) :
    Warehouse :=
  history.foldl (fun w entry => performTasks server entry.1 entry.2 w) w

def Task.loads : Task → Bool
  | .generateAndLoad _ => true
  | _ => false

/-! ### Validated loads -/

variable {server : LoadServer} {env : LoadEnv} {run : DagRun} {w : Warehouse}

/-- The rows are counted as they are written. -/
lemma written_generateRows (draws : ℕ → Draw) (totalRows batchSize : ℕ) (hbatch : 0 < batchSize)
    (loadBatchId : String) :
    (generateRows draws totalRows batchSize hbatch loadBatchId 0).foldl
      (fun written batch => written + batch.length) 0 = totalRows := by
  rw [← List.foldl_map, ← List.sum_eq_foldl, ← List.length_flatten, flatten_generateRows,
    List.length_map, List.length_range', Nat.sub_zero]

/-- What an attempt that succeeds leaves behind. -/
lemma generateAndLoad_loaded (h : (generateAndLoad server env run w).1 = .ok ()) :
    (generateAndLoad server env run w).2 =
      (({ w.clear run with
        facts := some (env.bcp.inserts (fileRows server (dataFile (generateRows env.draws
          run.totalRows run.batchSize run.batchSize_ne_zero (run.loadBatchId server) 0)))) }
        ).pushLoadBatchId run (run.loadBatchId server)).pushRowsWritten run run.totalRows := by
  simp only [generateAndLoad] at h ⊢
  cases hresetting : env.failsAt .resetting with
  | some e => simp [hresetting] at h
  | none =>
    cases hfacts : (w.clear run).facts with
    | none => simp [hresetting, hfacts] at h
    | some facts =>
      cases hwriting : env.failsAt .writing with
      | some e => simp [hresetting, hfacts, hwriting] at h
      | none =>
        simp only [hresetting, hfacts, hwriting] at h ⊢
        split at h
        · cases h
        · split_ifs at h with hcode
          rw [if_neg hcode]
          cases hloading : env.failsAt .loading with
          | some e => simp [hloading] at h
          | none =>
            cases hreporting : env.failsAt .reporting with
            | some e => simp [hloading, hreporting] at h
            | none => simp only [written_generateRows]

/-- An attempt that succeeds leaves rows it has generated, each at most once. -/
lemma generateAndLoad_ok (hserver : server.Lawful)
    (h : (generateAndLoad server env run w).1 = .ok ()) :
    ∃ facts, (generateAndLoad server env run w).2.facts = some facts ∧
      facts.Subperm ((List.range run.totalRows).map fun seq =>
        generateRow (env.draws seq) seq (run.loadBatchId server)) := by
  rw [generateAndLoad_loaded h]
  refine ⟨_, rfl, (env.bcp.inserts_subperm _).trans (List.Sublist.subperm ?_)⟩
  exact fileRows_sublist hserver _ _ _ _ (run.newline_notMem_loadBatchId server)

/-- Tasks that do not load leave the rows alone. -/
lemma facts_performTasks {tasks : List Task} (h : ∀ task ∈ tasks, task.loads = false)
    {facts : List FactRow} (hfacts : w.facts = some facts) :
    (performTasks server run tasks w).facts = some facts := by
  induction tasks generalizing w with
  | nil => exact hfacts
  | cons task tasks ih =>
    refine ih (fun task hmem => h task (List.mem_cons_of_mem _ hmem)) ?_
    cases task with
    | ensureTableExists failure =>
      cases failure with
      | none => simp [Task.perform, hfacts]
      | some e => exact hfacts
    | generateAndLoad env => exact absurd (h _ List.mem_cons_self) (by simp [Task.loads])
    | validateRowCount failure => exact hfacts

/-- A validation that succeeds has found enough rows. -/
lemma le_length_of_validateRowCount {failure : Option PyError} {facts : List FactRow}
    (h : validateRowCount server failure run w = .ok ()) (hfacts : w.facts = some facts) :
    run.totalRows ≤ facts.length := by
  simp only [validateRowCount, hfacts] at h
  cases failure with
  | some e => cases h
  | none =>
    simp only at h
    split_ifs at h with hcount
    exact (Nat.le_of_not_lt hcount).trans List.countP_le_length

/-- Whatever happened before, when an attempt of `generate_and_load` has succeeded, is the last one
of its run, and `validate_row_count` succeeds, the table holds what that attempt generated, one
row for every sequence number. -/
theorem bulk_load_exact (server : LoadServer) (hserver : server.Lawful) (w : Warehouse)
    (history : List (DagRun × List Task)) (run : DagRun) (before after : List Task) (env : LoadEnv)
    (failure : Option PyError)
    (hload : (generateAndLoad server env run
      (performTasks server run before (performRuns server history w))).1 = .ok ())
    (hafter : ∀ task ∈ after, task.loads = false)
    (hvalid : validateRowCount server failure run (performTasks server run
      (before ++ .generateAndLoad env :: after) (performRuns server history w)) = .ok ()) :
    ∃ facts, (performTasks server run (before ++ .generateAndLoad env :: after)
        (performRuns server history w)).facts = some facts ∧
      facts.Perm ((List.range run.totalRows).map fun seq =>
        generateRow (env.draws seq) seq (run.loadBatchId server)) ∧
      (facts.map FactRow.externalOrderId).Nodup := by
  obtain ⟨facts, hfacts, hsubperm⟩ := generateAndLoad_ok hserver hload
  have hkept : (performTasks server run (before ++ .generateAndLoad env :: after)
      (performRuns server history w)).facts = some facts := by
    rw [performTasks, List.foldl_append, List.foldl_cons]
    exact facts_performTasks hafter hfacts
  have hlength := le_length_of_validateRowCount hvalid hkept
  have hperm := hsubperm.perm_of_length_le (by rwa [List.length_map, List.length_range])
  refine ⟨facts, hkept, hperm, (hperm.map _).nodup_iff.mpr ?_⟩
  rw [List.map_map]
  refine List.Nodup.map (fun m n h => ?_) List.nodup_range
  exact zeroPad_inj (String.append_right_inj _ |>.mp h)

/-! ### Runs of the load -/

/-- Conversions from the texts that are written, and the digest of one run id. -/
def LoadServer.plain : LoadServer where
  toDate text :=
    match read ['-', '-'] text.toList with
    | some ([year, month], day) => some ⟨Nat.ofDigitChars 10 year 0, Nat.ofDigitChars 10 month 0,
        Nat.ofDigitChars 10 day 0⟩
    | _ => none
  toNumeric text := (readField '.' text.toList).map fun r =>
    100 * Nat.ofDigitChars 10 r.1 0 + Nat.ofDigitChars 10 r.2 0
  toInt text := some (Nat.ofDigitChars 10 text.toList 0)
  sameText a b := a = b
  sha1 _ := [73, 159, 23, 143, 229, 42, 250, 235, 41, 197, 212, 149, 157, 207, 240, 60, 55, 174, 229, 3]

lemma toDate_plain (d : Date) : LoadServer.plain.toDate d.isoformat = some d := by
  have hdash : ∀ width n, '-' ∉ (zeroPad width n).toList := fun width n hmem =>
    absurd (isDigit_zeroPad hmem) (by decide)
  have hread := read_write (.cons (hdash 4 d.year) (.cons (hdash 2 d.month) .nil))
    (zeroPad 2 d.day).toList
  have htext : d.isoformat.toList = write ['-', '-']
      [(zeroPad 4 d.year).toList, (zeroPad 2 d.month).toList] ++ (zeroPad 2 d.day).toList := by
    simp [Date.isoformat, write]
  simp only [LoadServer.plain, htext, hread, ofDigitChars_zeroPad]

lemma toNumeric_plain (cents : ℕ) : LoadServer.plain.toNumeric (amountText cents) = some cents := by
  have hpoint : '.' ∉ (toString (cents / 100)).toList := fun hmem => by
    rw [Nat.toString_eq_repr, Nat.toList_repr] at hmem
    exact absurd (Nat.isDigit_of_mem_toDigits (by decide) (by decide) hmem) (by decide)
  have htext : (amountText cents).toList =
      (toString (cents / 100)).toList ++ '.' :: (zeroPad 2 (cents % 100)).toList := by
    simp [amountText]
  simp only [LoadServer.plain, htext, readField_append hpoint, Option.map_some,
    ofDigitChars_zeroPad]
  rw [Nat.toString_eq_repr, Nat.toList_repr, Nat.ofDigitChars_ten_toDigits, Nat.div_add_mod]

lemma toInt_plain (n : ℕ) : LoadServer.plain.toInt (toString n) = some n := by
  simp only [LoadServer.plain, Nat.toString_eq_repr, Nat.toList_repr,
    Nat.ofDigitChars_ten_toDigits]

lemma lawful_plain : LoadServer.plain.Lawful where
  toDate_isoformat d _ h := Option.some.inj (h.symm.trans (toDate_plain d))
  toNumeric_amountText cents _ h := Option.some.inj (h.symm.trans (toNumeric_plain cents))
  toInt_toString n _ h := Option.some.inj (h.symm.trans (toInt_plain n))

/-- Three rows, in batches of two. -/
def sampleRun : DagRun where
  runId := "manual__2"
  ds := ⟨2026, 1, 1⟩
  conf_totalRows := some 3
  conf_batchSize := some 2
  batchSize_pos := by simp

/-- The run of the day before, of one row. -/
def earlierRun : DagRun where
  runId := "manual__1"
  ds := ⟨2025, 12, 31⟩
  conf_totalRows := some 1
  conf_batchSize := some 1
  batchSize_pos := by simp

def sampleDraw : Draw where
  client := 7
  days := 0
  status := ⟨0, by decide⟩
  cents := 1999
  region := ⟨1, by decide⟩
  channel := ⟨0, by decide⟩
  itemCount := 2
  client_range := by decide
  days_range := by decide
  cents_range := by decide
  itemCount_range := by decide

/-- All rows are inserted, the last one first. -/
def Bcp.whole : Bcp :=
  ⟨List.reverse, fun rows => rows.reverse_perm.subperm, some 0⟩

/-- `bcp` ends after the first row. -/
def Bcp.broken : Bcp :=
  ⟨List.take 1, fun rows => (List.take_sublist 1 rows).subperm, some 1⟩

def sampleLoad (bcp : Bcp) : LoadEnv where
  draws _ := sampleDraw
  bcp
  bcpTimeout := 7200
  failure := none

def Warehouse.empty : Warehouse :=
  ⟨none, fun _ => none, fun _ => none⟩

def sampleRows (run : DagRun) : List FactRow :=
  (List.range run.totalRows).map fun seq => generateRow sampleDraw seq (run.loadBatchId .plain)

/-- The rows that can be converted are all in the file. -/
lemma fileRows_sample {run : DagRun}
    (h : ∀ row ∈ sampleRows run, convert .plain (row.fields.map String.toList) = some row) :
    fileRows .plain (dataFile (generateRows (fun _ => sampleDraw) run.totalRows run.batchSize
      run.batchSize_ne_zero (run.loadBatchId .plain) 0)) = sampleRows run := by
  rw [fileRows, readAll_dataFile _ _ _ _ (run.newline_notMem_loadBatchId _), List.filterMap_map,
    Function.comp_def]
  have hconvert : ∀ seq ∈ List.range run.totalRows, convert .plain
      ((generateRow sampleDraw seq (run.loadBatchId .plain)).fields.map String.toList) =
        some (generateRow sampleDraw seq (run.loadBatchId .plain)) :=
    fun seq hseq => h _ (List.mem_map_of_mem hseq)
  rw [List.filterMap_congr hconvert, List.filterMap_eq_map', sampleRows]

/-- An attempt in which only `bcp` may go wrong. -/
lemma generateAndLoad_sample {run : DagRun} {bcp : Bcp} {code : Int} {facts : List FactRow}
    (hrows : ∀ row ∈ sampleRows run, convert .plain (row.fields.map String.toList) = some row)
    (hcode : bcp.exitCode = some code) (hfacts : w.facts = some facts) :
    ∃ e, generateAndLoad .plain (sampleLoad bcp) run w =
      if code = 0 then (.ok (), (({ w.clear run with
          facts := some (bcp.inserts (sampleRows run)) }).pushLoadBatchId run
            (run.loadBatchId .plain)).pushRowsWritten run run.totalRows)
      else (.error e, { w.clear run with facts := some (bcp.inserts (sampleRows run)) }) := by
  have hfailsAt : ∀ stage, (sampleLoad bcp).failsAt stage = none := fun _ => rfl
  have hclear : (w.clear run).facts = some facts := hfacts
  obtain ⟨batches, hbatches⟩ : ∃ batches, batches = generateRows (sampleLoad bcp).draws
      run.totalRows run.batchSize run.batchSize_ne_zero (run.loadBatchId .plain) 0 := ⟨_, rfl⟩
  have hfile : fileRows .plain (dataFile batches) = sampleRows run :=
    hbatches ▸ fileRows_sample hrows
  have hwritten : batches.foldl (fun written batch => written + batch.length) 0 = run.totalRows :=
    hbatches ▸ written_generateRows _ _ _ _ _
  have hexit : (sampleLoad bcp).bcp.exitCode = some code := hcode
  simp only [generateAndLoad, hfailsAt, hclear, ← hbatches, hwritten, hfile, hexit]
  by_cases hzero : code = 0
  · simp only [hzero, ne_eq, not_true_eq_false, if_false, if_true]
    exact ⟨⟨""⟩, rfl⟩
  · simp only [hzero, ne_eq, not_false_eq_true, if_true, if_false]
    exact ⟨_, rfl⟩

lemma convert_sample : ∀ run ∈ [earlierRun, sampleRun], ∀ row ∈ sampleRows run,
    convert .plain (row.fields.map String.toList) = some row := by
  decide

def earlierRuns : List (DagRun × List Task) :=
  [(earlierRun, [.ensureTableExists none, .generateAndLoad (sampleLoad .whole),
    .validateRowCount none])]

/-- What comes before the attempt that succeeds. -/
def failedAttempts : List Task :=
  [.ensureTableExists none, .generateAndLoad (sampleLoad .broken)]

/-- The row of the earlier run is in the table when the first attempt begins, and one row of its own
when it has failed. -/
lemma facts_failedAttempts :
    (performRuns .plain earlierRuns .empty).facts = some (sampleRows earlierRun) ∧
      (performTasks .plain sampleRun failedAttempts (performRuns .plain earlierRuns .empty)).facts =
        some ((sampleRows sampleRun).take 1) := by
  have hearlier : (performRuns .plain earlierRuns .empty).facts = some (sampleRows earlierRun) := by
    obtain ⟨e, he⟩ := @generateAndLoad_sample { Warehouse.empty with facts := some [] } earlierRun
      .whole 0 [] (convert_sample _ (by simp)) rfl rfl
    exact congrArg (·.2.facts) he
  refine ⟨hearlier, ?_⟩
  obtain ⟨w, hw⟩ : ∃ w, w = performRuns .plain earlierRuns .empty := ⟨_, rfl⟩
  rw [← hw] at hearlier ⊢
  obtain ⟨e, he⟩ := @generateAndLoad_sample { w with facts := some (w.facts.getD []) } sampleRun
    .broken 1 _ (convert_sample _ (by simp)) rfl rfl
  exact congrArg (·.2.facts) he

/-- Three rows are loaded in the place of a row of an earlier run, at the second attempt. -/
theorem bulk_load_exact_retried :
    ∃ facts, (performTasks .plain sampleRun
        (failedAttempts ++ .generateAndLoad (sampleLoad .whole) :: [.validateRowCount none])
        (performRuns .plain earlierRuns .empty)).facts = some facts ∧
      facts.Perm ((List.range sampleRun.totalRows).map fun seq =>
        generateRow ((sampleLoad .whole).draws seq) seq (sampleRun.loadBatchId .plain)) ∧
      (facts.map FactRow.externalOrderId).Nodup := by
  obtain ⟨w, hw⟩ : ∃ w, w = performTasks .plain sampleRun failedAttempts
    (performRuns .plain earlierRuns .empty) := ⟨_, rfl⟩
  have hfacts : w.facts = some ((sampleRows sampleRun).take 1) := hw ▸ facts_failedAttempts.2
  obtain ⟨e, he⟩ := @generateAndLoad_sample w sampleRun .whole 0 _ (convert_sample _ (by simp)) rfl
    hfacts
  refine bulk_load_exact .plain lawful_plain .empty earlierRuns sampleRun failedAttempts
    [.validateRowCount none] (sampleLoad .whole) none ?_ (by simp [Task.loads]) ?_
  · rw [← hw, he]
    rfl
  · have hstate : performTasks .plain sampleRun
        (failedAttempts ++ .generateAndLoad (sampleLoad .whole) :: [.validateRowCount none])
        (performRuns .plain earlierRuns .empty) =
          (generateAndLoad .plain (sampleLoad .whole) sampleRun w).2 := by
      rw [hw, performTasks, List.foldl_append]
      rfl
    have hcount : (sampleRows sampleRun).reverse.countP (fun row =>
        row.loadBatchId = sampleRun.loadBatchId .plain) = 3 := by decide
    rw [hstate, he]
    simp only [if_true, validateRowCount, Warehouse.pushLoadBatchId, Warehouse.pushRowsWritten,
      LoadServer.plain, Option.any_some, Bcp.whole]
    exact if_neg (Nat.not_lt.mpr hcount.ge)

end EventPipeline

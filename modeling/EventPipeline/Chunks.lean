import Mathlib.Data.List.Nodup
import EventPipeline.Generator

/-!
# The batches of `generate_rows`

The loop of `generate_rows` over a source of random numbers whose state it hands on from row to row.
The rows do not depend on the size of the batches: the draws of a row are those that follow the rows
before it, in whichever batch they are (`generateSeeded_eq`).
-/

namespace EventPipeline

variable {σ : Type}

/-- The state of `rng` after some rows. -/
def advance (rng : σ → Draw × σ) (state : σ) : ℕ → σ
  | 0 => state
  | n + 1 => (rng (advance rng state n)).2

/-- The inner loop, with the numbers that are left. -/
def generateBatch (rng : σ → Draw × σ) (loadBatchId : String) :
    (n seq : ℕ) → σ → List FactRow × σ
  | 0, _, state => ([], state)
  | n + 1, seq, state =>
    let (draw, state) := rng state
    let (batch, state) := generateBatch rng loadBatchId n (seq + 1) state
    (generateRow draw seq loadBatchId :: batch, state)

/-- The outer loop, from `produced` rows on. -/
def generateSeeded (rng : σ → Draw × σ) (totalRows batchSize : ℕ) (hbatch : 0 < batchSize)
    (loadBatchId : String) (produced : ℕ) (state : σ) : List (List FactRow) :=
  if produced < totalRows then
    let n := min batchSize (totalRows - produced)
    let (batch, state) := generateBatch rng loadBatchId n produced state
    batch :: generateSeeded rng totalRows batchSize hbatch loadBatchId (produced + n) state
  else []
termination_by totalRows - produced

variable {rng : σ → Draw × σ} {seed : σ} {totalRows batchSize produced : ℕ}
  {hbatch : 0 < batchSize} {loadBatchId : String}

/-! ### The draws of a row -/

lemma generateBatch_eq (rng : σ → Draw × σ) (loadBatchId : String) (seed : σ) (n seq : ℕ) :
    generateBatch rng loadBatchId n seq (advance rng seed seq) =
      ((List.range n).map fun i =>
        generateRow (rng (advance rng seed (seq + i))).1 (seq + i) loadBatchId,
        advance rng seed (seq + n)) := by
  induction n generalizing seq with
  | zero => rfl
  | succ n ih =>
    have hnext : (rng (advance rng seed seq)).2 = advance rng seed (seq + 1) := rfl
    have hshift : ∀ i, seq + 1 + i = seq + (i + 1) := fun i => by omega
    simp only [generateBatch, hnext, ih (seq + 1), hshift, List.range_succ_eq_map, List.map_cons,
      List.map_map, Nat.add_zero]
    rfl

/-- The rows are those of the sequence of all draws, of which the rows before have used theirs. -/
lemma generateSeeded_eq (rng : σ → Draw × σ) (seed : σ) (totalRows batchSize : ℕ)
    (hbatch : 0 < batchSize) (loadBatchId : String) (produced : ℕ) :
    generateSeeded rng totalRows batchSize hbatch loadBatchId produced (advance rng seed produced) =
      generateRows (fun seq => (rng (advance rng seed seq)).1) totalRows batchSize hbatch loadBatchId
        produced := by
  induction produced using generateRows.induct totalRows batchSize hbatch with
  | case1 produced hlt n ih =>
    rw [generateSeeded, generateRows, if_pos hlt, if_pos hlt]
    simp only [generateBatch_eq]
    rw [ih]
  | case2 produced hge => rw [generateSeeded, generateRows, if_neg hge, if_neg hge]

/-! ### The lengths of the batches -/

lemma generateRows_of_lt (draws : ℕ → Draw) (hbatch : 0 < batchSize) (loadBatchId : String)
    (h : produced < totalRows) :
    generateRows draws totalRows batchSize hbatch loadBatchId produced =
      ((List.range (min batchSize (totalRows - produced))).map fun i =>
        generateRow (draws (produced + i)) (produced + i) loadBatchId) ::
          generateRows draws totalRows batchSize hbatch loadBatchId
            (produced + min batchSize (totalRows - produced)) := by
  rw [generateRows, if_pos h]

/-- The last batch takes what is left, and every other one is full. -/
lemma length_batches (draws : ℕ → Draw) (totalRows batchSize : ℕ) (hbatch : 0 < batchSize)
    (loadBatchId : String) (produced : ℕ) :
    (∀ batch ∈ (generateRows draws totalRows batchSize hbatch loadBatchId produced).dropLast,
        batch.length = batchSize) ∧
      ∀ batch ∈ generateRows draws totalRows batchSize hbatch loadBatchId produced,
        1 ≤ batch.length ∧ batch.length ≤ batchSize := by
  induction produced using generateRows.induct totalRows batchSize hbatch with
  | case1 produced hlt n ih =>
    obtain ⟨hfull, hall⟩ := ih
    have hn : n = min batchSize (totalRows - produced) := rfl
    rw [generateRows_of_lt draws hbatch loadBatchId hlt, ← hn]
    refine ⟨fun batch hmem => ?_, fun batch hmem => ?_⟩
    · by_cases hlast : produced + n < totalRows
      · -- another batch follows, so that this one is as long as asked for
        have hnext := generateRows_of_lt draws hbatch loadBatchId hlast
        rw [List.dropLast_cons_of_ne_nil (by rw [hnext]; exact List.cons_ne_nil _ _)] at hmem
        rcases List.mem_cons.mp hmem with rfl | hmem
        · rw [List.length_map, List.length_range]
          omega
        · exact hfull batch hmem
      · rw [generateRows, if_neg hlast] at hmem
        cases hmem
    · rcases List.mem_cons.mp hmem with rfl | hmem
      · rw [List.length_map, List.length_range]
        omega
      · exact hall batch hmem
  | case2 produced hge =>
    rw [generateRows, if_neg hge]
    exact ⟨by simp, by simp⟩

/-! ### The size of the batches does not matter -/

lemma orderIds_generateRows (draws : ℕ → Draw) (totalRows batchSize : ℕ) (hbatch : 0 < batchSize)
    (loadBatchId : String) :
    (generateRows draws totalRows batchSize hbatch loadBatchId 0).flatten.map (·.externalOrderId) =
      (List.range totalRows).map fun seq => "HIST-" ++ zeroPad 10 seq := by
  rw [flatten_generateRows, Nat.sub_zero, ← List.range_eq_range', List.map_map]
  rfl

/-- From the seed on, a run draws what the sequence of all draws holds. -/
lemma generateSeeded_seed (rng : σ → Draw × σ) (seed : σ) (totalRows : ℕ) {batchSize : ℕ}
    (hbatch : 0 < batchSize) (loadBatchId : String) :
    generateSeeded rng totalRows batchSize hbatch loadBatchId 0 seed =
      generateRows (fun seq => (rng (advance rng seed seq)).1) totalRows batchSize hbatch
        loadBatchId 0 :=
  generateSeeded_eq rng seed totalRows batchSize hbatch loadBatchId 0

lemma length_flatten_generateSeeded (rng : σ → Draw × σ) (seed : σ) (totalRows : ℕ)
    {batchSize : ℕ} (hbatch : 0 < batchSize) (loadBatchId : String) :
    (generateSeeded rng totalRows batchSize hbatch loadBatchId 0 seed).flatten.length =
      totalRows := by
  rw [generateSeeded_seed, flatten_generateRows, List.length_map, List.length_range', Nat.sub_zero]

/-- Two batch sizes give the same rows: as many as asked for, under distinct ids in order, and in
batches that are full except for the last. -/
theorem chunking (rng : σ → Draw × σ) (seed : σ) (totalRows : ℕ) (loadBatchId : String)
    {b₁ b₂ : ℕ} (h₁ : 0 < b₁) (h₂ : 0 < b₂) :
    let batches := generateSeeded rng totalRows b₁ h₁ loadBatchId 0 seed
    batches.flatten = (generateSeeded rng totalRows b₂ h₂ loadBatchId 0 seed).flatten ∧
      batches.flatten.length = totalRows ∧
      (batches.flatten.map (·.externalOrderId)).Nodup ∧
      batches.flatten.map (·.externalOrderId) =
        (List.range totalRows).map (fun seq => "HIST-" ++ zeroPad 10 seq) ∧
      (∀ batch ∈ batches.dropLast, batch.length = b₁) ∧
      ∀ batch ∈ batches, 1 ≤ batch.length ∧ batch.length ≤ b₁ := by
  intro batches
  have hbatches : batches = _ := generateSeeded_seed rng seed totalRows h₁ loadBatchId
  have hlength : batches.flatten.length = totalRows :=
    length_flatten_generateSeeded rng seed totalRows h₁ loadBatchId
  rw [generateSeeded_seed rng seed totalRows h₂, hlength, hbatches, flatten_generateRows _ _ b₂,
    orderIds_generateRows]
  refine ⟨flatten_generateRows _ _ b₁ _ _ _, rfl, ?_, rfl, length_batches _ _ _ _ _ _⟩
  refine List.nodup_range.map fun m n h => ?_
  exact zeroPad_inj ((String.append_right_inj _).mp h)

lemma statuses_pos : 0 < statuses.length := by decide

lemma regions_pos : 0 < regions.length := by decide

lemma channels_pos : 0 < channels.length := by decide

/-- A source of numbers that counts the rows. -/
def countingSource (rows : ℕ) : Draw × ℕ where
  fst :=
    { client := rows % 2000000 + 1
      days := rows % 2557
      status := ⟨0, statuses_pos⟩
      cents := 1500
      region := ⟨0, regions_pos⟩
      channel := ⟨0, channels_pos⟩
      itemCount := 1
      client_range := ⟨Nat.le_add_left _ _, Nat.mod_lt _ (by decide)⟩
      days_range := Nat.le_of_lt_succ (Nat.mod_lt _ (by decide))
      cents_range := by decide
      itemCount_range := by decide }
  snd := rows + 1

/-- Five rows, in batches of two and of three. -/
theorem chunking_five :
    let batches := generateSeeded countingSource 5 2 (by decide) "b" 0 0
    batches.flatten = (generateSeeded countingSource 5 3 (by decide) "b" 0 0).flatten ∧
      batches.flatten.length = 5 ∧
      (batches.flatten.map (·.externalOrderId)).Nodup ∧
      batches.flatten.map (·.externalOrderId) =
        (List.range 5).map (fun seq => "HIST-" ++ zeroPad 10 seq) ∧
      (∀ batch ∈ batches.dropLast, batch.length = 2) ∧
      ∀ batch ∈ batches, 1 ≤ batch.length ∧ batch.length ≤ 2 :=
  chunking countingSource 0 5 "b" (by decide) (by decide)

end EventPipeline
